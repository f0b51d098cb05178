import Mathlib
import SwapPlan.Json.Reading
import SwapPlan.Proofs.Pointwise
/-!
# Numerals

Digits of a base denote a number, most significant first (`Text.Denotes`).  A text spells an amount
in decimal, or in hexadecimal after `0x` (`Text.Spells`), and a word is read from exactly the texts
that spell it (`Word.ofEitherNotation?_eq_some_iff`).
-/
set_option autoImplicit false

namespace SwapPlan

namespace Text

/-- A character is the digit of a value in a base; letters may be of either case. -/
def IsDigit (base : Nat) (c : Char) (value : Nat) : Prop :=
  value < base ∧ (c = Nat.digitChar value ∨ c = (Nat.digitChar value).toUpper)

def Denotes (base : Nat) (cs : List Char) (n : Nat) : Prop :=
  ∃ values, List.Forall₂ (IsDigit base) cs values ∧ Nat.ofDigits base values.reverse = n

/-- A text spells an amount: in decimal, or in hexadecimal with at most 64 digits after `0x`, which
may stand twice. -/
inductive Spells : List Char → Nat → Prop
  | decimal {cs : List Char} {n : Nat} (digits : Denotes 10 cs n) : Spells cs n
  | hexadecimal {cs : List Char} {n : Nat} (short : cs.length ≤ 64) (digits : Denotes 16 cs n) :
    Spells ('0' :: 'x' :: cs) n
  | markedTwice {cs : List Char} {n : Nat} (short : cs.length ≤ 64) (digits : Denotes 16 cs n) :
    Spells ('0' :: 'x' :: '0' :: 'x' :: cs) n

variable {base n d : Nat} {c : Char} {cs : List Char}

theorem isDigit_ten_iff : IsDigit 10 c d ↔ c.isDigit = true ∧ d = c.toNat - '0'.toNat := by
  rw [IsDigit, Char.isDigit_iff_toNat, ← Char.toNat_inj, ← Char.toNat_inj]
  have written : ∀ d < 10, (Nat.digitChar d).toNat = 48 + d ∧
      (Nat.digitChar d).toUpper.toNat = 48 + d := by decide
  have zero : '0'.toNat = 48 := rfl
  have nine : '9'.toNat = 57 := rfl
  constructor
  · rintro ⟨small, same⟩
    have codes := written d small
    omega
  · rintro ⟨within, value⟩
    have codes := written d (by omega)
    omega

theorem Hex.digit?_eq_some_iff : Hex.digit? c = some d ↔
    d < 10 ∧ c.toNat = 48 + d ∨ 10 ≤ d ∧ d < 16 ∧ (c.toNat = 87 + d ∨ c.toNat = 55 + d) := by
  have decimal : '0' ≤ c ∧ c ≤ '9' ↔ 48 ≤ c.toNat ∧ c.toNat ≤ 57 := .rfl
  have lower : 'a' ≤ c ∧ c ≤ 'f' ↔ 97 ≤ c.toNat ∧ c.toNat ≤ 102 := .rfl
  have upper : 'A' ≤ c ∧ c ≤ 'F' ↔ 65 ≤ c.toNat ∧ c.toNat ≤ 70 := .rfl
  have zero : '0'.toNat = 48 := rfl
  have first : 'a'.toNat = 97 := rfl
  have capital : 'A'.toNat = 65 := rfl
  simp only [Hex.digit?, decimal, lower, upper, zero, first, capital]
  split_ifs
  all_goals
    simp only [Option.some.injEq, false_iff]
    omega

theorem isDigit_sixteen_iff : IsDigit 16 c d ↔ Hex.digit? c = some d := by
  rw [IsDigit, Hex.digit?_eq_some_iff, ← Char.toNat_inj, ← Char.toNat_inj]
  have written : ∀ d < 16, if d < 10 then
      (Nat.digitChar d).toNat = 48 + d ∧ (Nat.digitChar d).toUpper.toNat = 48 + d
      else (Nat.digitChar d).toNat = 87 + d ∧ (Nat.digitChar d).toUpper.toNat = 55 + d := by decide
  constructor
  · rintro ⟨small, same⟩
    have codes := written d small
    split at codes <;> omega
  · intro read
    have codes := written d (by omega)
    split at codes <;> omega

theorem denotes_nil : Denotes base [] n ↔ n = 0 := by
  simp [Denotes, eq_comm]

theorem denotes_concat : Denotes base (cs ++ [c]) n ↔
    ∃ m d, Denotes base cs m ∧ IsDigit base c d ∧ base * m + d = n := by
  constructor
  · rintro ⟨values, digits, rfl⟩
    obtain ⟨front, d, back, rfl, before, digit, after⟩ := forall₂_append_cons digits
    obtain rfl := List.forall₂_nil_left_iff.1 after
    refine ⟨_, d, ⟨front, before, rfl⟩, digit, ?_⟩
    rw [List.reverse_append, List.reverse_singleton, List.singleton_append, Nat.ofDigits_cons]
    simp [Nat.add_comm]
  · rintro ⟨m, d, ⟨values, digits, rfl⟩, digit, rfl⟩
    refine ⟨values ++ [d], List.rel_append digits (.cons digit .nil), ?_⟩
    rw [List.reverse_append, List.reverse_singleton, List.singleton_append, Nat.ofDigits_cons]
    simp [Nat.add_comm]

theorem denotes_ten_iff : Denotes 10 cs n ↔ cs.all Char.isDigit = true ∧
    cs.foldl (fun n c => 10 * n + (c.toNat - '0'.toNat)) 0 = n := by
  induction cs using List.reverseRecOn generalizing n with
  | nil => simp [denotes_nil, eq_comm]
  | append_singleton cs c ih =>
    simp only [denotes_concat, ih, isDigit_ten_iff, List.all_append, List.foldl_append,
      List.all_cons, List.all_nil, List.foldl_cons, List.foldl_nil, Bool.and_eq_true, Bool.and_true]
    constructor
    · rintro ⟨_, _, ⟨front, rfl⟩, ⟨last, rfl⟩, rfl⟩
      exact ⟨⟨front, last⟩, rfl⟩
    · rintro ⟨⟨front, last⟩, rfl⟩
      exact ⟨_, _, ⟨front, rfl⟩, ⟨last, rfl⟩, rfl⟩

theorem denotes_sixteen_iff : Denotes 16 cs n ↔ (Hex.digits? cs).map Hex.value = some n := by
  induction cs using List.reverseRecOn generalizing n with
  | nil => simp [denotes_nil, Hex.digits?, Hex.value, eq_comm]
  | append_singleton cs c ih =>
    have value (ds : List Nat) (d : Nat) : Hex.value (ds ++ [d]) = 16 * Hex.value ds + d := by
      rw [Hex.value, List.foldl_append]
      rfl
    simp only [denotes_concat, ih, isDigit_sixteen_iff, Hex.digits?, List.mapM_append,
      Option.map_eq_some_iff, List.mapM_cons, List.mapM_nil]
    constructor
    · rintro ⟨_, d, ⟨ds, front, rfl⟩, last, rfl⟩
      refine ⟨ds ++ [d], ?_, value ds d⟩
      rw [front, last]
      rfl
    · rintro ⟨all, read, rfl⟩
      cases front : cs.mapM Hex.digit? with
      | none => simp [front] at read
      | some ds =>
        cases last : Hex.digit? c with
        | none => simp [front, last] at read
        | some d =>
          obtain rfl : ds ++ [d] = all := by simpa [front, last] using read
          exact ⟨_, d, ⟨ds, rfl, rfl⟩, rfl, (value ds d).symm⟩

theorem Denotes.lt (large : 1 < base) (h : Denotes base cs n) : n < base ^ cs.length := by
  obtain ⟨values, digits, rfl⟩ := h
  have small : ∀ d ∈ values.reverse, d < base := fun d mem => by
    obtain ⟨_, _, digit⟩ := exists_mem_of_forall₂ digits.flip (List.mem_reverse.1 mem)
    exact digit.1
  rw [digits.length_eq, ← List.length_reverse]
  exact Nat.ofDigits_lt_base_pow_length large small

theorem Denotes.exists_digit (h : Denotes base cs n) (mem : c ∈ cs) : ∃ d, IsDigit base c d := by
  obtain ⟨values, digits, _⟩ := h
  obtain ⟨d, _, digit⟩ := exists_mem_of_forall₂ digits mem
  exact ⟨d, digit⟩

theorem Denotes.leadingZeros (positive : 0 < base) (h : Denotes base cs n) (k : Nat) :
    Denotes base (List.replicate k '0' ++ cs) n := by
  obtain ⟨values, digits, rfl⟩ := h
  have zeros : List.Forall₂ (IsDigit base) (List.replicate k '0') (List.replicate k 0) := by
    refine List.forall₂_iff_get.2 ⟨by simp, fun i _ _ => ?_⟩
    simp only [List.get_eq_getElem, List.getElem_replicate]
    exact ⟨positive, .inl rfl⟩
  refine ⟨List.replicate k 0 ++ values, List.rel_append zeros digits, ?_⟩
  rw [List.reverse_append, List.reverse_replicate, Nat.ofDigits_append_replicate_zero]

theorem denotes_toDigits (large : 1 < base) (n : Nat) : Denotes base (Nat.toDigits base n) n := by
  induction n using Nat.strongRecOn with
  | ind n ih =>
    have last : IsDigit base (Nat.digitChar (n % base)) (n % base) :=
      ⟨Nat.mod_lt _ (by omega), .inl rfl⟩
    rw [Nat.toDigits_eq_if large]
    split
    · rename_i below
      rw [Nat.mod_eq_of_lt below] at last
      exact (@denotes_concat base n (Nat.digitChar n) []).2 ⟨0, n, denotes_nil.2 rfl, last, by simp⟩
    · rename_i above
      have front := ih (n / base) (Nat.div_lt_self (by omega) large)
      exact denotes_concat.2 ⟨_, _, front, last, Nat.div_add_mod n base⟩

theorem Hex.afterMark?_eq_some_iff {rest : List Char} :
    Hex.afterMark? cs = some rest ↔ cs = '0' :: 'x' :: rest := by
  constructor
  · intro found
    unfold Hex.afterMark? at found
    split at found
    · cases found
      rfl
    · cases found
  · rintro rfl
    rfl

theorem afterMark?_eq_none_of_digits (digits : ∀ c ∈ cs, ∃ d, IsDigit 16 c d) :
    Hex.afterMark? cs = none := by
  rw [Option.eq_none_iff_forall_ne_some]
  intro rest marked
  rw [Hex.afterMark?_eq_some_iff] at marked
  obtain ⟨d, digit⟩ := digits 'x' (by simp [marked])
  rw [isDigit_sixteen_iff] at digit
  cases digit

theorem Denotes.afterMark?_eq_none (small : base ≤ 16) (h : Denotes base cs n) :
    Hex.afterMark? cs = none := by
  refine afterMark?_eq_none_of_digits fun c mem => ?_
  obtain ⟨d, below, written⟩ := h.exists_digit mem
  exact ⟨d, by omega, written⟩

theorem Spells.denotes_ten (h : Spells cs n) (plain : Hex.afterMark? cs = none) :
    Denotes 10 cs n := by
  cases h with
  | decimal digits => exact digits
  | hexadecimal => cases plain
  | markedTwice => cases plain

theorem Spells.denotes_sixteen (h : Spells ('0' :: 'x' :: cs) n)
    (plain : Hex.afterMark? cs = none) : cs.length ≤ 64 ∧ Denotes 16 cs n := by
  cases h with
  | decimal digits => cases digits.afterMark?_eq_none (by decide)
  | hexadecimal short digits => exact ⟨short, digits⟩
  | markedTwice => cases plain

end Text

namespace Word

open Text (Denotes Spells)

variable {cs : List Char} {v w : Word} {c : Char}

theorem ofDecimal?_eq_some_iff : ofDecimal? cs = some w ↔ Denotes 10 cs w.toNat := by
  rw [ofDecimal?, Text.denotes_ten_iff]
  by_cases digits : cs.all Char.isDigit = true
  · rw [if_pos digits, ofNat?_eq_some_iff, eq_comm, and_iff_right digits]
  · rw [if_neg digits]
    exact iff_of_false nofun fun h => digits h.1

theorem ofHex?_eq_some_iff :
    ofHex? cs = some w ↔ cs.length ≤ 64 ∧ Denotes 16 cs w.toNat := by
  rw [ofHex?, Text.denotes_sixteen_iff]
  by_cases short : cs.length ≤ 64
  · rw [if_pos short, and_iff_right short, Option.bind_eq_some_iff, Option.map_eq_some_iff]
    simp only [Function.comp_apply, ofNat?_eq_some_iff]
    exact exists_congr fun ds => and_congr_right fun _ => eq_comm
  · rw [if_neg short]
    exact iff_of_false nofun fun h => short h.1

/-- A text is read as the amount that it spells, and as no other. -/
theorem ofEitherNotation?_eq_some_iff {text : String} :
    ofEitherNotation? text = some w ↔ Spells text.toList w.toNat := by
  rw [ofEitherNotation?]
  constructor
  · intro read
    split at read
    · rename_i rest marked
      rw [Text.Hex.afterMark?_eq_some_iff.1 marked]
      cases again : Text.Hex.afterMark? rest with
      | none =>
        rw [again, Option.getD_none, ofHex?_eq_some_iff] at read
        exact .hexadecimal read.1 read.2
      | some digits =>
        rw [again, Option.getD_some, ofHex?_eq_some_iff] at read
        rw [Text.Hex.afterMark?_eq_some_iff.1 again]
        exact .markedTwice read.1 read.2
    · exact .decimal (ofDecimal?_eq_some_iff.1 read)
  · intro spelled
    generalize text.toList = cs at spelled
    cases spelled with
    | decimal digits =>
      rw [digits.afterMark?_eq_none (by decide)]
      exact ofDecimal?_eq_some_iff.2 digits
    | @hexadecimal cs _ short digits =>
      have marked : Text.Hex.afterMark? ('0' :: 'x' :: cs) = some cs := rfl
      simp only [marked, digits.afterMark?_eq_none (by decide), Option.getD_none]
      exact ofHex?_eq_some_iff.2 ⟨short, digits⟩
    | markedTwice short digits =>
      exact ofHex?_eq_some_iff.2 ⟨short, digits⟩

def withDigit? (w : Word) (c : Char) : Option Word :=
  if c.isDigit then
    (ofNat? (10 * w.toNat)).bind fun scaled => ofNat? (scaled.toNat + (c.toNat - '0'.toNat))
  else none

theorem withDigit?_eq_some_iff :
    v.withDigit? c = some w ↔ ∃ d, Text.IsDigit 10 c d ∧ 10 * v.toNat + d = w.toNat := by
  simp only [Text.isDigit_ten_iff, withDigit?]
  by_cases digit : c.isDigit = true
  · rw [if_pos digit, Option.bind_eq_some_iff]
    simp only [ofNat?_eq_some_iff, digit, true_and]
    constructor
    · rintro ⟨scaled, product, sum⟩
      exact ⟨_, rfl, by rw [← product, sum]⟩
    · rintro ⟨_, rfl, sum⟩
      have fits : 10 * v.toNat < capacity size := by
        have := w.toNat_lt
        omega
      exact ⟨⟨_, fits⟩, rfl, sum.symm⟩
  · rw [if_neg digit]
    exact iff_of_false nofun fun ⟨_, h, _⟩ => digit h.1

/-- Reading digit by digit and giving up at the first overflow is reading the number as a whole: a
number is no smaller than the one before its last digit. -/
theorem foldlM_withDigit? (cs : List Char) : cs.foldlM withDigit? zero = ofDecimal? cs := by
  refine Option.ext fun w => ?_
  rw [ofDecimal?_eq_some_iff]
  induction cs using List.reverseRecOn generalizing w with
  | nil =>
    rw [Text.denotes_nil, List.foldlM_nil]
    exact ⟨by rintro ⟨⟩; rfl, fun none => congrArg some (ext none.symm)⟩
  | append_singleton cs c ih =>
    rw [List.foldlM_append, Text.denotes_concat]
    simp only [List.foldlM_cons, List.foldlM_nil, bind_pure, Option.bind_eq_bind,
      Option.bind_eq_some_iff, ih, withDigit?_eq_some_iff]
    constructor
    · rintro ⟨v, front, d, digit, whole⟩
      exact ⟨_, d, front, digit, whole⟩
    · rintro ⟨m, d, front, digit, whole⟩
      have fits : m < capacity size := by
        have := w.toNat_lt
        omega
      exact ⟨⟨m, fits⟩, front, d, digit, whole⟩

end Word
end SwapPlan
