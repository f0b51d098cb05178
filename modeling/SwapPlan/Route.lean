import SwapPlan.Address
import SwapPlan.Json.Printer
/-!
# Swap routes

A route is a decided way to swap one token for another: legs from token to token, each split over
hops, which are calls of exchanges.  A leg may ask for the native token to be wrapped before its
hops or unwrapped after them.
-/
set_option autoImplicit false

namespace SwapPlan

inductive Side
  | sell
  | buy
deriving DecidableEq

def Side.name : Side → String
  | sell => "SELL"
  | buy => "BUY"

def Side.ofName? (name : String) : Option Side := [sell, buy].find? (·.name = name)

structure Hop where
  exchange : String
  percent : UInt32
  srcAmount : Word
  destAmount : Word
  data : Json

inductive Step
  | swap (hop : Hop)
  | wrapNative
  | unwrapNative

namespace Step

def hop? : Step → Option Hop
  | swap hop => some hop
  | _ => none

def isWrap : Step → Bool
  | wrapNative => true
  | _ => false

def isUnwrap : Step → Bool
  | unwrapNative => true
  | _ => false

end Step

structure Leg where
  srcToken : Address
  destToken : Address
  steps : List Step

def Leg.hops (leg : Leg) : List Hop := leg.steps.filterMap Step.hop?

structure Route where
  side : Side
  srcToken : Address
  destToken : Address
  srcAmount : Word
  destAmount : Word
  legs : List Leg

def Route.hopCount (route : Route) : Nat :=
  route.legs.foldr (fun leg count => leg.hops.length + count) 0

end SwapPlan
