/-!
# Decimals

A finite double is `m * 2 ^ q`.  Every real closer to it than to its neighbours reads back as the
same double; the shortest decimal is the one with the fewest digits among those, and of two with the
same count the nearer.  All comparisons are between natural numbers.

A format record says which decimals are written positionally, which with an exponent, and whether a
positive exponent has a sign.
-/
set_option autoImplicit false

namespace SwapPlan

structure Decimal where
  digits : Nat
  exponent : Int
deriving DecidableEq

namespace Decimal

/-- The positive doubles `mantissa * 2 ^ exponent`, with `step` set where the gap below the number
is half the gap above it. -/
structure Binary where
  mantissa : Nat
  exponent : Int
  /-- The number is a power of two with a finer grid below it. -/
  step : Bool

def Binary.ofFloat (x : Float) : Binary :=
  let bits : Nat := x.toBits.toNat
  let fraction : Nat := bits % Nat.pow 2 52
  let biased : Nat := bits / Nat.pow 2 52 % Nat.pow 2 11
  if biased = 0 then ⟨fraction, -1074, false⟩
  else ⟨Nat.pow 2 52 + fraction, (biased : Int) - 1075, fraction = 0 ∧ 1 < biased⟩

/-- Numerators of a number and of the two ends of the interval that reads back as it, over one
denominator.  The ends belong to the interval when `closed` holds. -/
structure Interval where
  lower : Nat
  value : Nat
  upper : Nat
  denominator : Nat
  closed : Bool

def Binary.interval (b : Binary) : Interval :=
  let up := Nat.pow 2 (b.exponent - 2).toNat
  let down := Nat.pow 2 (2 - b.exponent).toNat
  ⟨(4 * b.mantissa - if b.step then 1 else 2) * up, 4 * b.mantissa * up,
    (4 * b.mantissa + 2) * up, down, b.mantissa % 2 = 0⟩

def Interval.holds (i : Interval) (n : Nat) (k : Int) : Bool :=
  let x := n * Nat.pow 10 k.toNat * i.denominator
  let scale := Nat.pow 10 (-k).toNat
  if i.closed then i.lower * scale ≤ x ∧ x ≤ i.upper * scale
  else i.lower * scale < x ∧ x < i.upper * scale

def Interval.floor (i : Interval) (k : Int) : Nat :=
  i.value * Nat.pow 10 (-k).toNat / (Nat.pow 10 k.toNat * i.denominator)

def Interval.nearerAbove (i : Interval) (n : Nat) (k : Int) : Bool :=
  let twice := 2 * i.value * Nat.pow 10 (-k).toNat
  let middle := (2 * n + 1) * (Nat.pow 10 k.toNat * i.denominator)
  middle < twice ∨ (middle = twice ∧ n % 2 = 1)

def Interval.onGrid? (i : Interval) (k : Int) : Option Decimal :=
  let n := i.floor k
  match i.holds n k, i.holds (n + 1) k with
  | true, true => some ⟨if i.nearerAbove n k then n + 1 else n, k⟩
  | true, false => some ⟨n, k⟩
  | false, true => some ⟨n + 1, k⟩
  | false, false => none

def Interval.search (i : Interval) : (grids : Nat) → (k : Int) → Option Decimal
  | 0, _ => none
  | grids + 1, k => (i.onGrid? k).or (i.search grids (k - 1))

def trim : (fuel : Nat) → Decimal → Decimal
  | 0, d => d
  | fuel + 1, d =>
    if d.digits ≠ 0 ∧ d.digits % 10 = 0 then trim fuel ⟨d.digits / 10, d.exponent + 1⟩ else d

/-- The shortest decimal of a double without its sign.  Every double is below `10 ^ 309`, and on
the grid where it has 17 digits some decimal reads back as it. -/
def shortest (x : Float) : Decimal :=
  let b := Binary.ofFloat x
  if b.mantissa = 0 then ⟨0, 0⟩
  else trim 20 ((b.interval.search 640 308).getD ⟨0, 0⟩)

end Decimal
end SwapPlan

namespace SwapPlan.Decimal

/-- How a decimal is written.  The scale of a decimal is the number of digits before its point, so
that `0.5` has scale 0 and `0.05` scale -1. -/
structure Format where
  maxScale : Int
  minScale : Int
  plusSign : Bool
deriving DecidableEq

def Format.plain : Format := ⟨16, -4, true⟩

def digitChars (n : Nat) : List Char := Nat.toDigits 10 n

def pointed : List Char → List Char
  | [] => []
  | [c] => [c]
  | c :: rest => c :: '.' :: rest

def exponentChars (format : Format) : Int → List Char
  | .ofNat n => (if format.plusSign then ['+'] else []) ++ digitChars n
  | .negSucc n => '-' :: digitChars (n + 1)

def chars (format : Format) (d : Decimal) : List Char :=
  let ds := digitChars d.digits
  let scale := (ds.length : Int) + d.exponent
  if 0 ≤ d.exponent ∧ scale ≤ format.maxScale then
    ds ++ List.replicate d.exponent.toNat '0' ++ ['.', '0']
  else if 0 < scale ∧ scale ≤ format.maxScale then
    ds.take scale.toNat ++ '.' :: ds.drop scale.toNat
  else if format.minScale ≤ scale ∧ scale ≤ 0 then
    '0' :: '.' :: List.replicate (-scale).toNat '0' ++ ds
  else pointed ds ++ 'e' :: exponentChars format (scale - 1)

def ofFloat (format : Format) (x : Float) : List Char :=
  let sign := if x.toBits.toNat < UInt64.size / 2 then [] else ['-']
  sign ++ chars format (shortest x)

end SwapPlan.Decimal
