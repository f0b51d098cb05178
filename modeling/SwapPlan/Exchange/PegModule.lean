import SwapPlan.Exchange.Call
import SwapPlan.Network
/-!
# The peg stability module

The exchange `makerpsm` swaps a stable token, the gem, against DAI at par less a toll.  Both of its
functions take the amount in units of the gem, so an executor needs a special handler to overwrite
it.  Amounts of DAI have eighteen decimals, tolls are fractions of `10 ^ 18`, and quotients are
rounded down.
-/
set_option autoImplicit false

namespace SwapPlan

open Json (Reader Shape)

structure PegModule where
  psm : Option Address
  augustus : Address

namespace PegModule

def key : String := "makerpsm"

def sides : List Side := [.sell, .buy]

/-- The number of the executor's handler for amounts in units of the gem. -/
def specialExchange : UInt16 := 1

def ofNetwork (network : Network) : PegModule where
  psm := network.exchangeAddress? key
  augustus := network.augustus

def sellGem : Function where
  name := "sellGem"
  inputs := [⟨"usr", .address⟩, ⟨"gemAmt", .uint 256⟩]
  outputs := []
  mutability := .nonPayable

def buyGem : Function where
  name := "buyGem"
  inputs := [⟨"usr", .address⟩, ⟨"gemAmt", .uint 256⟩]
  outputs := []
  mutability := .nonPayable

structure HopData where
  psm : Option Address
  gemJoin : Address
  gem : Address
  dai : Address
  /-- The toll as a fraction of `10 ^ 18`. -/
  toll : Option Word
  gemDecimals : UInt8

def defaultGemDecimals : UInt8 := 6

def decimalsReader : Reader Nat := Reader.natural UInt8.size "u8"

def HopData.shape : Shape where
  title := "MakerPsmData"
  fields := [
    .optional "psmAddress" (Reader.nullable Reader.address),
    .mandatory "gemJoinAddress" Reader.address,
    .mandatory "gem" Reader.address,
    .mandatory "dai" Reader.address,
    .optional "toll" (Reader.nullable Reader.eitherAmount),
    .optional "gemDecimals" decimalsReader]
  closed := false

def HopData.ofJson : Reader HopData := fun v => do
  let ms ← shape.members v
  return {
    psm := ← Json.withDefault ms "psmAddress" (Reader.nullable Reader.address) none
    gemJoin := ← Json.require ms "gemJoinAddress" Reader.address
    gem := ← Json.require ms "gem" Reader.address
    dai := ← Json.require ms "dai" Reader.address
    toll := ← Json.withDefault ms "toll" (Reader.nullable Reader.eitherAmount) none
    gemDecimals := UInt8.ofNat
      (← Json.withDefault ms "gemDecimals" decimalsReader defaultGemDecimals.toNat) }

def invalid {α : Type} (reason : String) : Except ExchangeError α :=
  .error (.invalidData key reason)

def accept (request : SwapRequest) (data : Json) : Except ExchangeError HopData :=
  if sides.contains request.side then readHopData key HopData.ofJson data
  else .error (.unsupportedSide key request.side)

def psmAddress (peg : PegModule) (data : HopData) : Except ExchangeError Address :=
  addressOr key "psm" data.psm peg.psm

def wad : Nat := Nat.pow 10 18

def conversionFactor (data : HopData) : Except ExchangeError Nat :=
  if 18 < data.gemDecimals.toNat then
    invalid ("gem decimals " ++ toString data.gemDecimals.toNat ++ " exceed DAI decimals")
  else .ok (Nat.pow 10 (18 - data.gemDecimals.toNat))

def fitted (n : Nat) (reason : String) : Except ExchangeError Word :=
  match Word.ofNat? n with
  | some w => .ok w
  | none => invalid reason

inductive Direction
  | sellsGem
  | buysGem
deriving DecidableEq

def direction (request : SwapRequest) (data : HopData) : Except ExchangeError Direction :=
  if request.srcToken = data.gem ∧ request.destToken = data.dai then .ok .sellsGem
  else if request.srcToken = data.dai ∧ request.destToken = data.gem then .ok .buysGem
  else invalid "pair must be the PSM gem and DAI"

def HopData.tollAmount (data : HopData) : Word := data.toll.getD .zero

/-- The amount of gem that pays out `dai` after the toll, rounded down. -/
def gemForDaiOut (dai : Word) (data : HopData) : Except ExchangeError Word := do
  let scaled ← fitted (dai.toNat * wad) "amount overflows WAD scaling"
  if wad ≤ data.tollAmount.toNat then invalid "toll must be below one WAD"
  else do
    let factor ← conversionFactor data
    let divisor ← fitted ((wad - data.tollAmount.toNat) * factor) "toll denominator overflows"
    return scaled.div divisor.toNat

def gemForDaiIn (dai : Word) (data : HopData) : Except ExchangeError Word := do
  let scaled ← fitted (dai.toNat * wad) "amount overflows WAD scaling"
  let gross ← fitted (wad + data.tollAmount.toNat) "toll denominator overflows"
  let factor ← conversionFactor data
  return (scaled.div gross.toNat).div factor

def gemAmount (request : SwapRequest) (data : HopData) (direction : Direction) :
    Except ExchangeError Word :=
  match direction, request.side with
  | .sellsGem, .sell => .ok request.srcAmount
  | .buysGem, .buy => .ok request.destAmount
  | .sellsGem, .buy => gemForDaiOut request.destAmount data
  | .buysGem, .sell => gemForDaiIn request.srcAmount data

def function : Direction → Function
  | .sellsGem => sellGem
  | .buysGem => buyGem

def call (request : SwapRequest) (data : HopData) (recipient : Address) :
    Except ExchangeError (Direction × Bytes) := do
  let direction ← direction request data
  let amount ← gemAmount request data direction
  let bytes ← encodeCall (function direction) [.address recipient, .uint amount]
  return (direction, bytes)

def adapterCall (peg : PegModule) (request : SwapRequest) (data : Json) :
    Except ExchangeError AdapterCall := do
  let data ← accept request data
  let _ ← direction request data
  let factor ← conversionFactor data
  let target ← peg.psmAddress data
  return ⟨target, AbiValue.encode [.tuple [.address data.gemJoin, .uint data.tollAmount,
    .uint (.truncate factor)]], .zero⟩

/-- The call for direct execution.  The gem is taken by its own contract, DAI by the module. -/
def directCall (peg : PegModule) (request : SwapRequest) (data : Json) :
    Except ExchangeError DirectCall := do
  let data ← accept request data
  let target ← peg.psmAddress data
  let (direction, bytes) ← call request data peg.augustus
  let approveTarget := match direction with
    | .sellsGem => data.gemJoin
    | .buysGem => target
  return ⟨approveTarget, bytes, target, .zero, .zero⟩

def layout (direction : Direction) : CallLayout :=
  let amount := match direction with
    | .sellsGem => PatchField.fromAmount
    | .buysGem => PatchField.toAmount
  ((CallLayout.ofFunction (function direction)).declareSlot amount 1
    |>.declareSlot .recipient 0)

def executorCall (peg : PegModule) (request : SwapRequest) (recipient : Address)
    (data : Json) : Except ExchangeError ExecutorCall := do
  let data ← accept request data
  let (direction, bytes) ← call request data recipient
  let target ← peg.psmAddress data
  return {
    needsWrap := false
    namesRecipient := true
    namesDestToken := false
    sendsNative := false
    calldata := bytes
    target := target
    special := some specialExchange
    layout := layout direction }

end PegModule
end SwapPlan
