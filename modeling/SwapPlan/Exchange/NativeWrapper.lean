import SwapPlan.Exchange.Call
import SwapPlan.Network
/-!
# The native wrapper

The exchange `weth` turns the native token into its wrapped form and back, one for one.  It is also
what wraps and unwraps around a leg whose exchanges do not take the native token.
-/
set_option autoImplicit false

namespace SwapPlan

open Json (Reader Shape)

structure NativeWrapper where
  nativeToken : Address
  wrappedNative : Address

namespace NativeWrapper

def key : String := "weth"

def sides : List Side := [.sell, .buy]

def ofNetwork (network : Network) : NativeWrapper where
  nativeToken := network.nativeToken
  wrappedNative := network.wrappedNative

def deposit : Function where
  name := "deposit"
  inputs := []
  outputs := []
  mutability := .payable

def withdraw : Function where
  name := "withdraw"
  inputs := [⟨"wad", .uint 256⟩]
  outputs := []
  mutability := .nonPayable

def withdrawAmountOffset : UInt16 := 4

/-- The fields of the data of a hop: there are none, and others are refused. -/
def hopDataShape : Shape := ⟨"WethData", [], true⟩

inductive Conversion
  | wrap
  | unwrap
deriving DecidableEq

def conversion (wrapper : NativeWrapper) (request : SwapRequest) :
    Except ExchangeError Conversion :=
  if request.srcToken = wrapper.nativeToken ∧ request.destToken = wrapper.wrappedNative then
    .ok .wrap
  else if request.srcToken = wrapper.wrappedNative ∧ request.destToken = wrapper.nativeToken then
    .ok .unwrap
  else .error (.invalidData key "pair must be the native token and its wrapped form")

def amount (request : SwapRequest) : Word :=
  match request.side with
  | .sell => request.srcAmount
  | .buy => request.destAmount

/-- Refuses a request on a side on which the exchange does not swap, data that is not empty, and a
pair that is not that of the wrapper. -/
def accept (wrapper : NativeWrapper) (request : SwapRequest) (data : Json) :
    Except ExchangeError Conversion := do
  if sides.contains request.side then do
    let _ ← readHopData key hopDataShape.members data
    wrapper.conversion request
  else .error (.unsupportedSide key request.side)

def calldata (conversion : Conversion) (amount : Word) : Except ExchangeError Bytes :=
  match conversion with
  | .wrap => encodeCall deposit []
  | .unwrap => encodeCall withdraw [.uint amount]

def layout : Conversion → CallLayout
  | .wrap => .ofFunction deposit
  | .unwrap => (CallLayout.ofFunction withdraw).declare .fromAmount (.literal withdrawAmountOffset)

def convert (wrapper : NativeWrapper) (conversion : Conversion) (amount : Word) :
    Except ExchangeError ExecutorCall := do
  let bytes ← calldata conversion amount
  return {
    needsWrap := false
    namesRecipient := false
    namesDestToken := false
    sendsNative := conversion = .wrap
    calldata := bytes
    target := wrapper.wrappedNative
    special := none
    layout := layout conversion }

def adapterCall (wrapper : NativeWrapper) (request : SwapRequest) (data : Json) :
    Except ExchangeError AdapterCall := do
  let _ ← wrapper.accept request data
  return ⟨wrapper.wrappedNative, [], .zero⟩

def directCall (wrapper : NativeWrapper) (request : SwapRequest) (data : Json) :
    Except ExchangeError DirectCall := do
  let conversion ← wrapper.accept request data
  let bytes ← calldata conversion (amount request)
  let value := match conversion with
    | .wrap => amount request
    | .unwrap => .zero
  return ⟨wrapper.wrappedNative, bytes, wrapper.wrappedNative, value, .zero⟩

def executorCall (wrapper : NativeWrapper) (request : SwapRequest) (_recipient : Address)
    (data : Json) : Except ExchangeError ExecutorCall := do
  let conversion ← wrapper.accept request data
  wrapper.convert conversion (amount request)

end NativeWrapper
end SwapPlan
