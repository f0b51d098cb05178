import SwapPlan.Bytes
import SwapPlan.Text.Hex
/-!
# 256-bit words

A `Word` is a number below `2 ^ 256`.  Token amounts are words; arithmetic on them goes through
`Nat` and comes back by `Word.ofNat?`, so that an overflow is visible where it happens.
-/
set_option autoImplicit false

namespace SwapPlan

def Word.size : Nat := 32

structure Word where
  toNat : Nat
  toNat_lt : toNat < capacity Word.size
deriving DecidableEq

namespace Word

def ofNat? (n : Nat) : Option Word := if h : n < capacity size then some ⟨n, h⟩ else none

def truncate (n : Nat) : Word := ⟨n % capacity size, Nat.mod_lt _ (capacity_pos _)⟩

def div (w : Word) (n : Nat) : Word :=
  ⟨w.toNat / n, Nat.lt_of_le_of_lt (Nat.div_le_self _ _) w.toNat_lt⟩

def zero : Word := ⟨0, capacity_pos _⟩

def one : Word := ⟨1, by decide⟩

def max : Word := ⟨capacity size - 1, Nat.sub_lt (capacity_pos _) (by decide)⟩

def bytes (w : Word) : Bytes := bigEndian size w.toNat

@[simp] theorem length_bytes (w : Word) : w.bytes.length = size := by simp [bytes]

theorem ext {v w : Word} (h : v.toNat = w.toNat) : v = w := by
  cases v; cases w; cases h; rfl

theorem ofNat?_toNat (w : Word) : ofNat? w.toNat = some w := dif_pos w.toNat_lt

theorem ofNat?_eq_some_iff {n : Nat} {w : Word} : ofNat? n = some w ↔ w.toNat = n := by
  constructor
  · rw [ofNat?]
    split
    · rintro ⟨⟩
      rfl
    · rintro ⟨⟩
  · rintro rfl
    exact w.ofNat?_toNat

theorem ofBigEndian_bytes (w : Word) : ofBigEndian w.bytes = w.toNat := by
  rw [bytes, ofBigEndian_bigEndian]
  exact Nat.mod_eq_of_lt w.toNat_lt

/-- The hexadecimal digits of a number, none for zero, most significant first.  `fuel` bounds
their count. -/
def hexDigits : (fuel : Nat) → Nat → List Char → List Char
  | 0, _, tail => tail
  | fuel + 1, n, tail =>
    if n = 0 then tail else hexDigits fuel (n / 16) (Bytes.hexDigit (n % 16) :: tail)

def text (w : Word) : String :=
  if w.toNat = 0 then "0x0" else "0x" ++ String.ofList (hexDigits 64 w.toNat [])

def ofText (text : String) : Except Text.Hex.Fault Word :=
  (Text.Hex.spacedBytes (fun n => 0 < n ∧ n ≤ 64) text).map (truncate ∘ ofBigEndian)

def ofDecimal? (cs : List Char) : Option Word :=
  if cs.all Char.isDigit then
    ofNat? (cs.foldl (fun n c => 10 * n + (c.toNat - '0'.toNat)) 0)
  else none

def ofHex? (cs : List Char) : Option Word :=
  if cs.length ≤ 64 then (Text.Hex.digits? cs).bind (ofNat? ∘ Text.Hex.value) else none

/-- Reads an amount in either notation: hexadecimal after `0x`, which may stand twice, otherwise
decimal. -/
def ofEitherNotation? (text : String) : Option Word :=
  match Text.Hex.afterMark? text.toList with
  | some rest => ofHex? ((Text.Hex.afterMark? rest).getD rest)
  | none => ofDecimal? text.toList

end Word
end SwapPlan
