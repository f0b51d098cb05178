import SwapPlan.Call.Resolution
import SwapPlan.Exchange.Call
import SwapPlan.Network
import SwapPlan.Record.Encoding
/-!
# Errors of compilation

Why a route has no plan.  Hops are counted over all legs, steps that are no hops left out.
-/
set_option autoImplicit false

namespace SwapPlan

inductive AmountField
  | srcAmount
  | destAmount
deriving DecidableEq

def AmountField.name : AmountField → String
  | srcAmount => "srcAmount"
  | destAmount => "destAmount"

def AmountField.of : AmountField → Hop → Word
  | srcAmount, hop => hop.srcAmount
  | destAmount, hop => hop.destAmount

inductive RouteFault
  | noLegs
  | startsElsewhere (leg route : Address)
  | endsElsewhere (leg route : Address)
  | noHops (leg : Nat)
  | broken (leg : Nat) (gains : Address) (spends : Address)
deriving DecidableEq

def RouteFault.message : RouteFault → String
  | noLegs => "route has no legs"
  | startsElsewhere leg route =>
    "first leg starts at " ++ leg.text ++ ", route source is " ++ route.text
  | endsElsewhere leg route =>
    "last leg ends at " ++ leg.text ++ ", route destination is " ++ route.text
  | noHops leg => "leg " ++ toString leg ++ " has no swap hops"
  | broken leg gains spends =>
    "leg " ++ toString leg ++ " ends at " ++ gains.text ++ " but leg " ++ toString (leg + 1)
      ++ " starts at " ++ spends.text

inductive WrapFault
  | wrapNotFirst (step steps : Nat)
  | wrapNotNative
  | unwrapNotLast (step steps : Nat)
  | unwrapNotNative
  | mixed
deriving DecidableEq

def WrapFault.message : WrapFault → String
  | wrapNotFirst step steps =>
    "wrap-native at step " ++ toString step ++ " of " ++ toString steps
      ++ "; only the first step may wrap"
  | wrapNotNative => "wrap-native on a leg whose source is not the native token"
  | unwrapNotLast step steps =>
    "unwrap-native at step " ++ toString step ++ " of " ++ toString steps
      ++ "; only the last step may unwrap"
  | unwrapNotNative => "unwrap-native on a leg whose destination is not the native token"
  | mixed => "hop takes the native token directly but its leg is wrapped"

inductive CompileError
  | unsupportedSide (hop : Nat) (exchange : String) (side : Side)
  | position (hop : Nat) (cause : PositionError)
  | encoding (hop : Nat) (cause : EncodingError)
  | split (leg : Nat) (hop : Nat) (total : Nat)
  | wrapping (hop : Nat) (fault : WrapFault)
  | unknownExchange (hop : Nat) (exchange : String)
  | exchange (hop : Nat) (exchange : String) (cause : ExchangeError)
  | amountOverflow (leg : Nat) (hop : Nat) (field : AmountField)
  | route (fault : RouteFault)
  | unknownExecutor (executor : Executor)

namespace CompileError

def message : CompileError → String
  | unsupportedSide hop name side =>
    "hop " ++ toString hop ++ ": exchange " ++ name ++ " has no on-chain path for " ++ side.name
      ++ " swaps"
  | position hop cause =>
    "hop " ++ toString hop ++ ": position resolution failed: " ++ cause.message
  | encoding hop cause =>
    "hop " ++ toString hop ++ ": instruction encoding failed: " ++ cause.message
  | split leg hop total =>
    "leg " ++ toString leg ++ " (first hop " ++ toString hop ++ "): split shares sum to "
      ++ toString total ++ ", expected 100"
  | wrapping hop fault =>
    "hop " ++ toString hop ++ ": invalid wrap/unwrap placement: " ++ fault.message
  | unknownExchange hop name =>
    "hop " ++ toString hop ++ ": no adapter registered for exchange " ++ name
  | exchange hop name cause =>
    "hop " ++ toString hop ++ ": adapter " ++ name ++ " failed: " ++ cause.message
  | amountOverflow leg hop field =>
    "leg " ++ toString leg ++ " (first hop " ++ toString hop ++ "): " ++ field.name
      ++ " total overflows 256 bits"
  | route fault => "invalid route: " ++ fault.message
  | unknownExecutor executor => "no executor address configured for " ++ executor.name

def hop? : CompileError → Option Nat
  | unsupportedSide hop _ _ => some hop
  | position hop _ => some hop
  | encoding hop _ => some hop
  | split _ hop _ => some hop
  | wrapping hop _ => some hop
  | unknownExchange hop _ => some hop
  | exchange hop _ _ => some hop
  | amountOverflow _ hop _ => some hop
  | route _ => none
  | unknownExecutor _ => none

def ofExchange (hop : Nat) (name : String) : ExchangeError → CompileError
  | .unsupportedSide _ side => unsupportedSide hop name side
  | cause => exchange hop name cause

end CompileError
end SwapPlan
