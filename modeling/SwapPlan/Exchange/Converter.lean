import SwapPlan.Exchange.Call
import SwapPlan.Network
/-!
# The converter network

The exchange `bancor` converts along a path of tokens and anchors.  It only sells, and takes the
native token without wrapping when it is called directly.
-/
set_option autoImplicit false

namespace SwapPlan

open Json (Reader Shape)

structure Converter where
  network : Option Address
  registry : Option Address
  nativeToken : Address

namespace Converter

def key : String := "bancor"

def sides : List Side := [.sell]

def ofNetwork (network : Network) : Converter where
  network := network.exchangeAddress? key
  registry := network.exchangeAddress? "bancorregistry"
  nativeToken := network.nativeToken

def convert2 : Function where
  name := "convert2"
  inputs := [⟨"path", .array .address⟩, ⟨"amount", .uint 256⟩, ⟨"minReturn", .uint 256⟩,
    ⟨"affiliateAccount", .address⟩, ⟨"affiliateFee", .uint 256⟩]
  outputs := [⟨"", .uint 256⟩]
  mutability := .payable

structure HopData where
  path : List Address
  minDestToken : Option Word
  network : Option Address

def HopData.shape : Shape where
  title := "BancorData"
  fields := [
    .mandatory "path" (Reader.list Reader.address),
    .optional "minDestToken" (Reader.nullable Reader.eitherAmount),
    .optional "bancorNetwork" (Reader.nullable Reader.address)]
  closed := false

def HopData.ofJson : Reader HopData := fun v => do
  let ms ← shape.members v
  return {
    path := ← Json.require ms "path" (Reader.list Reader.address)
    minDestToken := ←
      Json.withDefault ms "minDestToken" (Reader.nullable Reader.eitherAmount) none
    network := ← Json.withDefault ms "bancorNetwork" (Reader.nullable Reader.address) none }

def accept (request : SwapRequest) (data : Json) : Except ExchangeError HopData :=
  if sides.contains request.side then readHopData key HopData.ofJson data
  else .error (.unsupportedSide key request.side)

def networkAddress (converter : Converter) (data : HopData) : Except ExchangeError Address :=
  addressOr key "network" data.network converter.network

def arguments (request : SwapRequest) (data : HopData) : List AbiValue :=
  [addressList data.path, .uint request.srcAmount, .uint (data.minDestToken.getD .one),
    .address .zero, .uint .zero]

/-- The calldata of a conversion; its path needs two entries. -/
def calldata (request : SwapRequest) (data : HopData) : Except ExchangeError Bytes :=
  if data.path.length < 2 then
    .error (.invalidData key "conversion path needs at least two entries")
  else encodeCall convert2 (arguments request data)

def adapterCall (converter : Converter) (request : SwapRequest) (data : Json) :
    Except ExchangeError AdapterCall := do
  let data ← accept request data
  let target ← addressOr key "registry" none converter.registry
  return ⟨target, AbiValue.encode [.tuple [addressList data.path]], .zero⟩

def directCall (converter : Converter) (request : SwapRequest) (data : Json) :
    Except ExchangeError DirectCall := do
  let data ← accept request data
  let network ← converter.networkAddress data
  let bytes ← calldata request data
  let value := if request.srcToken = converter.nativeToken then request.srcAmount else .zero
  return ⟨network, bytes, network, value, .zero⟩

def layout : CallLayout :=
  ((CallLayout.ofFunction convert2).declareSlot .fromAmount 1
    |>.declareSlot .toAmount 2
    |>.declareSlot .srcToken 0 [0])

def executorCall (converter : Converter) (request : SwapRequest) (_recipient : Address)
    (data : Json) : Except ExchangeError ExecutorCall := do
  let data ← accept request data
  let bytes ← calldata request data
  let network ← converter.networkAddress data
  return {
    needsWrap := true
    namesRecipient := false
    namesDestToken := false
    sendsNative := false
    calldata := bytes
    target := network
    special := none
    layout := layout }

end Converter
end SwapPlan
