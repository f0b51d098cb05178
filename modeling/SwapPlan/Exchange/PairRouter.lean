import SwapPlan.Exchange.Call
import SwapPlan.Network
/-!
# The pair router

The exchange `uniswapv2` swaps along a path of tokens, each pair of neighbours a pool.  It swaps on
both sides and only takes the wrapped form of the native token.
-/
set_option autoImplicit false

namespace SwapPlan

open Json (Reader Shape)

structure PairRouter where
  router : Option Address
  nativeToken : Address
  wrappedNative : Address
  augustus : Address

namespace PairRouter

def key : String := "uniswapv2"

def sides : List Side := [.sell, .buy]

def ofNetwork (network : Network) : PairRouter where
  router := network.exchangeAddress? key
  nativeToken := network.nativeToken
  wrappedNative := network.wrappedNative
  augustus := network.augustus

def swapExactIn : Function where
  name := "swapExactTokensForTokens"
  inputs := [⟨"amountIn", .uint 256⟩, ⟨"amountOutMin", .uint 256⟩, ⟨"path", .array .address⟩,
    ⟨"to", .address⟩, ⟨"deadline", .uint 256⟩]
  outputs := [⟨"amounts", .array (.uint 256)⟩]
  mutability := .nonPayable

def swapExactOut : Function where
  name := "swapTokensForExactTokens"
  inputs := [⟨"amountOut", .uint 256⟩, ⟨"amountInMax", .uint 256⟩, ⟨"path", .array .address⟩,
    ⟨"to", .address⟩, ⟨"deadline", .uint 256⟩]
  outputs := [⟨"amounts", .array (.uint 256)⟩]
  mutability := .nonPayable

def function : Side → Function
  | .sell => swapExactIn
  | .buy => swapExactOut

structure HopData where
  router : Option Address
  /-- The tokens of the swap; none stands for source and destination. -/
  path : List Address

def HopData.shape : Shape where
  title := "UniswapV2Data"
  fields := [
    .optional "router" (Reader.nullable Reader.address),
    .optional "path" (Reader.list Reader.address)]
  closed := false

def HopData.ofJson : Reader HopData := fun v => do
  let ms ← shape.members v
  return {
    router := ← Json.withDefault ms "router" (Reader.nullable Reader.address) none
    path := ← Json.withDefault ms "path" (Reader.list Reader.address) [] }

def accept (request : SwapRequest) (data : Json) : Except ExchangeError HopData :=
  if sides.contains request.side then readHopData key HopData.ofJson data
  else .error (.unsupportedSide key request.side)

def routerAddress (router : PairRouter) (data : HopData) : Except ExchangeError Address :=
  addressOr key "router" data.router router.router

/-- A token as the router takes it: the wrapped form in place of the native token. -/
def wrapped (router : PairRouter) (token : Address) : Address :=
  if token = router.nativeToken then router.wrappedNative else token

def path (router : PairRouter) (request : SwapRequest) (data : HopData) :
    Except ExchangeError (List Address) :=
  let tokens := if data.path.isEmpty then [request.srcToken, request.destToken] else data.path
  if tokens.length < 2 then
    .error (.invalidData key "router path needs at least two tokens")
  else .ok (tokens.map router.wrapped)

/-- The arguments of a swap: the fixed amount, the bound on the other, the path, the recipient and
no deadline. -/
def arguments (request : SwapRequest) (path : List Address) (recipient : Address) :
    List AbiValue :=
  let (fixed, bound) := match request.side with
    | .sell => (request.srcAmount, request.destAmount)
    | .buy => (request.destAmount, request.srcAmount)
  [.uint fixed, .uint bound, addressList path, .address recipient, .uint .max]

def calldata (request : SwapRequest) (path : List Address) (recipient : Address) :
    Except ExchangeError Bytes :=
  encodeCall (function request.side) (arguments request path recipient)

def adapterCall (router : PairRouter) (request : SwapRequest) (data : Json) :
    Except ExchangeError AdapterCall := do
  let data ← accept request data
  let target ← router.routerAddress data
  let path ← router.path request data
  return ⟨target, AbiValue.encode [.tuple [.address target, addressList path]], .zero⟩

def directCall (router : PairRouter) (request : SwapRequest) (data : Json) :
    Except ExchangeError DirectCall := do
  let data ← accept request data
  let target ← router.routerAddress data
  let path ← router.path request data
  let bytes ← calldata request path router.augustus
  return ⟨target, bytes, target, .zero, .zero⟩

def layout (side : Side) (pathLength : Nat) : CallLayout :=
  let (fromArgument, toArgument) := match side with
    | .sell => (0, 1)
    | .buy => (1, 0)
  ((CallLayout.ofFunction (function side)).declareSlot .fromAmount fromArgument
    |>.declareSlot .toAmount toArgument
    |>.declareSlot .srcToken 2 [0]
    |>.declareSlot .destToken 2 [pathLength - 1]
    |>.declareSlot .recipient 3)

def executorCall (router : PairRouter) (request : SwapRequest) (recipient : Address)
    (data : Json) : Except ExchangeError ExecutorCall := do
  let data ← accept request data
  let path ← router.path request data
  let bytes ← calldata request path recipient
  let target ← router.routerAddress data
  return {
    needsWrap := true
    namesRecipient := true
    namesDestToken := true
    sendsNative := false
    calldata := bytes
    target := target
    special := none
    layout := layout request.side path.length }

end PairRouter
end SwapPlan
