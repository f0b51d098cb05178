import SwapPlan.Json.Printer
/-!
# Number literals

A number literal has a whole part without leading zeros, an optional fraction and an optional
exponent.  A literal without fraction and exponent that fits 64 bits, signed or unsigned, is exact;
minus zero does not.  Any other is a double, computed from at most the first twenty digits: the
significand takes digits as long as it fits 64 bits, and is then multiplied or divided by a power of
ten.  The result may differ from the nearest double in its last bit.
-/
set_option autoImplicit false

namespace SwapPlan.Json

structure Literal where
  negative : Bool
  whole : List Nat
  fraction : Option (List Nat)
  exponent : Option Int

namespace Literal

def spanDigits (cs : List Char) : List Nat × List Char :=
  ((cs.takeWhile Char.isDigit).map (fun c => c.toNat - '0'.toNat), cs.dropWhile Char.isDigit)

def value (digits : List Nat) : Nat := digits.foldl (fun n d => 10 * n + d) 0

def exponentOf? (cs : List Char) : Option Int :=
  let (negative, body) := match cs with
    | '-' :: rest => (true, rest)
    | '+' :: rest => (false, rest)
    | _ => (false, cs)
  match spanDigits body with
  | (d :: ds, []) => some (if negative then -(value (d :: ds) : Int) else value (d :: ds))
  | _ => none

def withExponent? (literal : Literal) : List Char → Option Literal
  | [] => some literal
  | c :: rest =>
    if c = 'e' ∨ c = 'E' then
      (exponentOf? rest).map fun exponent => { literal with exponent := some exponent }
    else none

def withFraction? (literal : Literal) : List Char → Option Literal
  | '.' :: rest =>
    match spanDigits rest with
    | ([], _) => none
    | (ds, rest) => withExponent? { literal with fraction := some ds } rest
  | rest => withExponent? literal rest

def ofChars? (cs : List Char) : Option Literal :=
  let (negative, body) := match cs with
    | '-' :: rest => (true, rest)
    | _ => (false, cs)
  match spanDigits body with
  | ([], _) => none
  | (0 :: _ :: _, _) => none
  | (ds, rest) => withFraction? ⟨negative, ds, none, none⟩ rest

/-- Appends digits to a significand as long as it fits 64 bits; also gives the digits left over. -/
def absorb (significand : Nat) : List Nat → Nat × List Nat
  | [] => (significand, [])
  | d :: ds =>
    if 10 * significand + d < UInt64.size then absorb (10 * significand + d) ds
    else (significand, d :: ds)

def divideByPower (x : Float) (k : Nat) : Float :=
  if k ≤ 308 then x / Float.ofScientific 1 false k
  else if x == 0 then x
  else divideByPower (x / Float.ofScientific 1 false 308) (k - 308)
termination_by k

def scaled? (significand : Nat) : Int → Option Float
  | .ofNat k =>
    if significand = 0 then some 0
    else if 308 < k then none
    else
      let x := significand.toUInt64.toFloat * Float.ofScientific 1 false k
      if x.isInf then none else some x
  | .negSucc k => some (divideByPower significand.toUInt64.toFloat (k + 1))

def toFloat? (literal : Literal) : Option Float :=
  let (head, skipped) := absorb 0 literal.whole
  let fraction := literal.fraction.getD []
  let (significand, unread) := absorb head fraction
  let places : Int := (skipped.length : Int) - ((fraction.length - unread.length : Nat) : Int)
  (scaled? significand (places + literal.exponent.getD 0)).map fun x =>
    if literal.negative then -x else x

def toJson? (literal : Literal) : Option Json :=
  let n := value literal.whole
  match literal.fraction, literal.exponent, literal.negative with
  | none, none, false =>
    if n < UInt64.size then some (.int n) else literal.toFloat?.map .float
  | none, none, true =>
    if 0 < n ∧ n ≤ UInt64.size / 2 then some (.int (-n)) else literal.toFloat?.map .float
  | _, _, _ => literal.toFloat?.map .float

end Literal
end SwapPlan.Json
