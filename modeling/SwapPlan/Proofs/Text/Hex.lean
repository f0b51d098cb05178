import Mathlib
import SwapPlan.Json.Reading
/-!
# Hexadecimal digits and the numbers that they denote

Digits packed into bytes denote the number that they denote as digits, also where their count is odd
(`ofBigEndian_packed`).  So the shortest text of a word is read as the word (`Word.ofText_text`).
-/
set_option autoImplicit false

namespace SwapPlan

namespace Text.Hex

variable {ds : List Nat}

theorem foldl_value (ds : List Nat) (n : Nat) :
    ds.foldl (fun n d => 16 * n + d) n = 16 ^ ds.length * n + value ds := by
  induction ds using List.reverseRecOn with
  | nil => simp [value]
  | append_singleton ds d ih =>
    rw [value, List.foldl_append, List.foldl_append, ih, ← value, List.length_append,
      List.length_singleton, pow_succ]
    simp only [List.foldl_cons, List.foldl_nil]
    ring

theorem value_pair (high low : Nat) (rest : List Nat) :
    value (high :: low :: rest) = (16 * high + low) * 16 ^ rest.length + value rest := by
  rw [value, List.foldl_cons, List.foldl_cons, foldl_value]
  ring

theorem length_pairs : ∀ ds : List Nat, (pairs ds).length = ds.length / 2
  | [] => rfl
  | [_] => by simp [pairs]
  | high :: low :: rest => by
    have behind := length_pairs rest
    simp only [pairs, List.length_cons]
    omega

theorem ofBigEndian_pairs : ∀ ds : List Nat, ds.length % 2 = 0 → (∀ d ∈ ds, d < 16) →
    ofBigEndian (pairs ds) = value ds
  | [], _, _ => rfl
  | [_], odd, _ => by simp at odd
  | high :: low :: rest, even, small => by
    simp only [List.forall_mem_cons] at small
    simp only [List.length_cons] at even
    have behind := ofBigEndian_pairs rest (by omega) small.2.2
    have places : capacity (rest.length / 2) = 16 ^ rest.length := by
      rw [show rest.length = 2 * (rest.length / 2) by omega, Nat.mul_div_cancel_left _ (by decide)]
      exact (Nat.pow_mul 16 2 _).symm
    have byte : (UInt8.ofNat (16 * high + low)).toNat = 16 * high + low :=
      Nat.mod_eq_of_lt (show 16 * high + low < 2 ^ 8 by omega)
    rw [pairs, ofBigEndian, byte, length_pairs, places, behind, value_pair]

theorem ofBigEndian_packed (small : ∀ d ∈ ds, d < 16) :
    ofBigEndian (packed ds.length ds) = value ds := by
  rw [packed.eq_def]
  split
  · rename_i even
    exact ofBigEndian_pairs ds even small
  · rename_i odd
    cases ds with
    | nil => exact absurd rfl odd
    | cons d rest =>
      -- The first digit is a byte of its own, as if a zero stood before it.
      have padded := ofBigEndian_pairs (0 :: d :: rest)
        (by simp only [List.length_cons] at odd ⊢; omega)
        (List.forall_mem_cons.2 ⟨by decide, small⟩)
      rw [pairs, Nat.mul_zero, Nat.zero_add] at padded
      exact padded

theorem spacedDigits_map (position : Nat) (small : ∀ d ∈ ds, d < 16) :
    spacedDigits position (ds.map Bytes.hexDigit) = .ok ds := by
  induction ds generalizing position with
  | nil => rfl
  | cons d ds ih =>
    rw [List.forall_mem_cons] at small
    simp [spacedDigits, isGap_hexDigit small.1, digit?_hexDigit small.1, ih (position + 1) small.2,
      Except.map]

theorem byteLength_map (small : ∀ d ∈ ds, d < 16) :
    byteLength (ds.map Bytes.hexDigit) = ds.length := by
  induction ds with
  | nil => rfl
  | cons d ds ih =>
    rw [List.forall_mem_cons] at small
    have behind := ih small.2
    rw [byteLength] at behind ⊢
    rw [List.map_cons, List.foldr_cons, behind, utf8Size_hexDigit small.1, List.length_cons,
      Nat.add_comm]

/-- Digits after the mark are read as they are, if their number fits. -/
theorem spacedBytes_map (fits : Nat → Bool) (small : ∀ d ∈ ds, d < 16)
    (h : fits ds.length = true) :
    spacedBytes fits ("0x" ++ String.ofList (ds.map Bytes.hexDigit)) = .ok (packed ds.length ds) := by
  have text : ("0x" ++ String.ofList (ds.map Bytes.hexDigit)).toList =
      '0' :: 'x' :: ds.map Bytes.hexDigit := by
    simp
  simp [spacedBytes, text, afterMark?, byteLength_map small, h, spacedDigits_map 2 small, Except.map]

end Text.Hex

namespace Word

open Text.Hex (value)

theorem hexDigits_eq {fuel n : Nat} (fits : n < 16 ^ fuel) (tail : List Char) :
    hexDigits fuel n tail = (Nat.digits 16 n).reverse.map Bytes.hexDigit ++ tail := by
  induction fuel generalizing n tail with
  | zero =>
    have zero : n = 0 := by simpa using fits
    simp [hexDigits, zero]
  | succ fuel ih =>
    rw [hexDigits]
    by_cases zero : n = 0
    · simp [zero]
    · have front : n / 16 < 16 ^ fuel := Nat.div_lt_of_lt_mul (by rwa [← pow_succ'])
      rw [if_neg zero, ih front, Nat.digits_def' (by decide) (Nat.pos_of_ne_zero zero)]
      simp

theorem value_reverse_digits (n : Nat) : value (Nat.digits 16 n).reverse = n := by
  have denoted := Nat.ofDigits_digits 16 n
  rw [Nat.ofDigits_eq_foldr] at denoted
  rw [value, List.foldl_reverse]
  simpa [Nat.add_comm] using denoted

def digits (w : Word) : List Nat :=
  if w.toNat = 0 then [0] else (Nat.digits 16 w.toNat).reverse

theorem toNat_lt_pow (w : Word) : w.toNat < 16 ^ 64 := w.toNat_lt

theorem text_eq (w : Word) : w.text = "0x" ++ String.ofList (w.digits.map Bytes.hexDigit) := by
  rw [text, digits]
  by_cases zero : w.toNat = 0
  · rw [if_pos zero, if_pos zero]
    rfl
  · rw [if_neg zero, if_neg zero, hexDigits_eq w.toNat_lt_pow, List.append_nil]

theorem digits_lt (w : Word) : ∀ d ∈ w.digits, d < 16 := by
  intro d mem
  rw [digits] at mem
  split at mem
  · rw [List.mem_singleton.1 mem]
    decide
  · exact Nat.digits_lt_base (by decide) (List.mem_reverse.1 mem)

theorem length_digits (w : Word) : 0 < w.digits.length ∧ w.digits.length ≤ 64 := by
  rw [digits]
  split
  · decide
  · rename_i some
    rw [List.length_reverse]
    exact ⟨List.length_pos_iff.2 (Nat.digits_ne_nil_iff_ne_zero.2 some),
      (Nat.digits_length_le_iff (by decide) _).2 w.toNat_lt_pow⟩

theorem value_digits (w : Word) : value w.digits = w.toNat := by
  rw [digits]
  split
  · rename_i zero
    rw [zero]
    rfl
  · exact value_reverse_digits _

theorem ofText_text (w : Word) : ofText w.text = .ok w := by
  have fits : decide (0 < w.digits.length ∧ w.digits.length ≤ 64) = true :=
    decide_eq_true w.length_digits
  have read := Text.Hex.spacedBytes_map (fun n => 0 < n ∧ n ≤ 64) w.digits_lt fits
  have whole : truncate w.toNat = w := ext (Nat.mod_eq_of_lt w.toNat_lt)
  rw [ofText, text_eq, read, Except.map, Function.comp_apply,
    Text.Hex.ofBigEndian_packed w.digits_lt, value_digits, whole]

end Word

theorem Json.Reader.amount_text (w : Word) : Json.Reader.amount (.string w.text) = .ok w := by
  rw [amount, hex, Word.ofText_text]

end SwapPlan
