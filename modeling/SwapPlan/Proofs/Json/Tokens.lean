import Mathlib
import SwapPlan.Json.Printer
import SwapPlan.Json.Token
/-!
# The tokens of written values

A written value is cut into the tokens that it was written from (`tokens?_toText`), whatever
characters its strings and the names of its members have.  Doubles are left out: the value of a
literal is computed with a limited precision, so that not every double is read back.
-/
set_option autoImplicit false

namespace SwapPlan.Json

mutual

/-- The value has no doubles, and its whole numbers fit 64 bits, signed or unsigned. -/
def Exact : Json → Prop
  | float _ => False
  | int n => -(2 ^ 63 : Int) ≤ n ∧ n < 2 ^ 64
  | array items => ExactItems items
  | object members => ExactMembers members
  | _ => True

def ExactItems : List Json → Prop
  | [] => True
  | v :: rest => Exact v ∧ ExactItems rest

def ExactMembers : List (String × Json) → Prop
  | [] => True
  | (_, v) :: rest => Exact v ∧ ExactMembers rest

end

mutual

def tokens : Json → List Token
  | string s => [.text (some s)]
  | array items => .openArray :: itemTokens items ++ [.closeArray]
  | object members => .openObject :: memberTokens members ++ [.closeObject]
  | leaf => [.scalar (some leaf)]

def itemTokens : List Json → List Token
  | [] => []
  | [v] => tokens v
  | v :: w :: rest => tokens v ++ .comma :: itemTokens (w :: rest)

def memberTokens : List (String × Json) → List Token
  | [] => []
  | [(name, v)] => .text (some name) :: .colon :: tokens v
  | (name, v) :: w :: rest =>
    .text (some name) :: .colon :: tokens v ++ .comma :: memberTokens (w :: rest)

end

namespace Token

/-- A text that does not go on with a character of numbers and literal names. -/
def Ends (cs : List Char) : Prop := ∀ c ∈ cs.head?, isBare c = false

theorem scan_bare {chars tail : List Char} {done : List Token} {t : Token} (run : List Char)
    (bare : ∀ c ∈ run, isBare c = true) (token : ofBare? (chars.reverse ++ run) = some t)
    (ends : Ends tail) :
    scan (.bare chars) done (run ++ tail) = scan .between (t :: done) tail := by
  induction run generalizing chars with
  | nil =>
    rw [List.append_nil] at token
    cases tail with
    | nil => simp [scan, token]
    | cons c tail =>
      have other : isBare c = false := ends c rfl
      simp [scan, step, other, token]
  | cons c run ih =>
    rw [List.forall_mem_cons] at bare
    rw [List.cons_append, scan, step, if_pos bare.1]
    exact ih bare.2 (by simpa using token)

theorem isBlank_of_isBare {c : Char} (bare : isBare c = true) : isBlank c = false := by
  by_contra blank
  rw [Bool.not_eq_false, isBlank, decide_eq_true_iff] at blank
  rcases blank with rfl | rfl | rfl | rfl <;> exact absurd bare (by decide)

theorem ne_quote_of_isBare {c : Char} (bare : isBare c = true) : c ≠ '\x22' := by
  rintro rfl
  exact absurd bare (by decide)

theorem scan_word {tail : List Char} {done : List Token} {t : Token} (c : Char) (word : List Char)
    (bare : (c :: word).all isBare = true) (token : ofBare? (c :: word) = some t)
    (ends : Ends tail) :
    scan .between done (c :: word ++ tail) = scan .between (t :: done) tail := by
  rw [List.all_eq_true, List.forall_mem_cons] at bare
  have first : step .between done c = some (.bare [c], done) := by
    simp [step, start, isBlank_of_isBare bare.1, ne_quote_of_isBare bare.1, bare.1]
  rw [List.cons_append, scan, first]
  exact scan_bare word bare.2 token ends

theorem scan_mark {c : Char} {t : Token} (mark : ofMark? c = some t) (done : List Token)
    (tail : List Char) :
    scan .between done (c :: tail) = scan .between (t :: done) tail := by
  unfold ofMark? at mark
  split at mark <;> cases mark <;> rfl

theorem scan_escape (c : Char) (units : List Nat) (done : List Token) (tail : List Char) :
    scan (.quoted units) done (escape c ++ tail) = scan (.quoted (c.toNat :: units)) done tail := by
  unfold escape
  split
  case h_8 quote backslash _ _ _ _ _ =>
    split
    · rename_i control
      have high : c.toNat / 16 < 16 := by omega
      have low : c.toNat % 16 < 16 := Nat.mod_lt _ (by decide)
      have whole : 16 * (c.toNat / 16) + c.toNat % 16 = c.toNat := Nat.div_add_mod _ _
      have zero : Text.Hex.digit? '0' = some 0 := rfl
      simp [scan, step, zero, Text.Hex.digit?_hexDigit high, Text.Hex.digit?_hexDigit low, whole]
    · rename_i plain
      have notQuote : c ≠ '\x22' := fun same => quote (congrArg Char.toNat same)
      have notBackslash : c ≠ '\x5c' := fun same => backslash (congrArg Char.toNat same)
      simp [scan, step, notQuote, notBackslash, plain]
  -- The characters that have a letter of their own behind the backslash.
  all_goals
    rename_i code
    rw [code]
    rfl

/-- No character is a surrogate, so that none waits for another. -/
theorem ofUnits?_map (cs : List Char) : ofUnits? (cs.map Char.toNat) = some cs := by
  induction cs with
  | nil => rfl
  | cons c cs ih =>
    have valid : c.toNat < 0xD800 ∨ 0xDFFF < c.toNat ∧ c.toNat < 0x110000 := c.valid
    rw [List.map_cons, ofUnits?.eq_def]
    simp only
    rw [if_neg (by omega), if_neg (by omega), ih, Char.ofNat_toNat]
    rfl

theorem scan_quote (s : String) (done : List Token) (tail : List Char) :
    scan .between done (quote s ++ tail) = scan .between (.text (some s) :: done) tail := by
  have inner (cs : List Char) (units : List Nat) :
      scan (.quoted units) done (cs.flatMap escape ++ '\x22' :: tail) =
        scan (.quoted ((cs.map Char.toNat).reverse ++ units)) done ('\x22' :: tail) := by
    induction cs generalizing units with
    | nil => rfl
    | cons c cs ih =>
      rw [List.flatMap_cons, List.append_assoc, scan_escape, ih, List.map_cons, List.reverse_cons,
        List.append_assoc]
      rfl
  have opening : scan .between done (quote s ++ tail) =
      scan (.quoted []) done (s.toList.flatMap escape ++ '\x22' :: tail) := by
    simp [quote, scan, step, start, isBlank]
  rw [opening, inner, List.append_nil]
  simp [scan, step, ofUnits?_map]

end Token

namespace Literal

def digits (n : Nat) : List Nat := (Nat.toDigits 10 n).map fun c => c.toNat - '0'.toNat

theorem isDigit_of_mem {n : Nat} {c : Char} (mem : c ∈ Nat.toDigits 10 n) : c.isDigit = true :=
  Nat.isDigit_of_mem_toDigits (by decide) (by decide) mem

theorem spanDigits_toDigits (n : Nat) : spanDigits (Nat.toDigits 10 n) = (digits n, []) := by
  have all : ∀ c ∈ Nat.toDigits 10 n, c.isDigit = true := fun c => isDigit_of_mem
  rw [spanDigits, List.takeWhile_eq_self_iff.2 all, List.dropWhile_eq_nil_iff.2 all, digits]

theorem value_digits (n : Nat) : value (digits n) = n := by
  have denoted := Nat.ofDigitChars_toDigits (b := 10) (n := n) (by decide) (by decide)
  rw [Nat.ofDigitChars_eq_foldl] at denoted
  rw [value, digits, List.foldl_map]
  exact denoted

theorem toDigits_ne_zero_cons (n : Nat) (c : Char) (rest : List Char) :
    Nat.toDigits 10 n ≠ '0' :: c :: rest := by
  induction n using Nat.strongRecOn generalizing c rest with
  | ind n ih =>
    intro same
    by_cases small : n < 10
    · have length := congrArg List.length same
      rw [Nat.toDigits_of_lt_base small] at length
      simp at length
    · rw [Nat.toDigits_of_base_le (by decide) (by omega)] at same
      cases front : Nat.toDigits 10 (n / 10) with
      | nil => exact Nat.toDigits_ne_nil front
      | cons first others =>
        rw [front, List.cons_append, List.cons.injEq] at same
        obtain ⟨rfl, _⟩ := same
        cases others with
        | nil =>
          have zero := value_digits (n / 10)
          rw [digits, front] at zero
          have : n / 10 = 0 := zero.symm
          omega
        | cons d others => exact ih (n / 10) (by omega) d others front

theorem withFraction?_digits (negative : Bool) (n : Nat) :
    (match (digits n, ([] : List Char)) with
      | ([], _) => none
      | (0 :: _ :: _, _) => none
      | (ds, rest) => withFraction? ⟨negative, ds, none, none⟩ rest) =
      some ⟨negative, digits n, none, none⟩ := by
  have nonempty : digits n ≠ [] := by simp [digits, Nat.toDigits_ne_nil]
  have leading (d : Nat) (rest : List Nat) : digits n ≠ 0 :: d :: rest := by
    intro same
    obtain ⟨c, others, chars, zero, behind⟩ := List.map_eq_cons_iff.1 same
    obtain ⟨second, last, rfl, _, _⟩ := List.map_eq_cons_iff.1 behind
    have digit : c.isDigit = true := isDigit_of_mem (chars ▸ List.mem_cons_self ..)
    have lower : 48 ≤ c.toNat := (Char.isDigit_iff_toNat.1 digit).1
    have upper : c.toNat - 48 = 0 := zero
    have : c = '0' := by
      rw [← Char.ofNat_toNat c, show c.toNat = 48 by omega]
    exact toDigits_ne_zero_cons n second last (this ▸ chars)
  split
  · rename_i none
    exact absurd (congrArg Prod.fst none) nonempty
  · rename_i zeros
    exact absurd (congrArg Prod.fst zeros) (leading _ _)
  · rename_i same
    cases same
    rfl

theorem ofChars?_toDigits (n : Nat) :
    ofChars? (Nat.toDigits 10 n) = some ⟨false, digits n, none, none⟩ := by
  have unsigned (rest : List Char) : Nat.toDigits 10 n ≠ '-' :: rest := by
    intro same
    have digit : '-'.isDigit = true := isDigit_of_mem (same ▸ List.mem_cons_self ..)
    exact absurd digit (by decide)
  unfold ofChars?
  split
  rename_i negative body sign
  split at sign
  · rename_i rest same
    exact absurd same (unsigned rest)
  · cases sign
    simp only [spanDigits_toDigits]
    exact withFraction?_digits false n

theorem toList_toString (n : Int) :
    (toString n).toList = (if n < 0 then ['-'] else []) ++ Nat.toDigits 10 n.natAbs := by
  cases n with
  | ofNat n => exact Nat.toList_repr
  | negSucc n =>
    rw [Int.toString_eq_repr, Int.repr, String.toList_append, Nat.toList_repr,
      if_pos (Int.negSucc_lt_zero n)]
    rfl

theorem ofChars?_toString (n : Int) :
    ofChars? (toString n).toList = some ⟨decide (n < 0), digits n.natAbs, none, none⟩ := by
  rw [toList_toString]
  by_cases negative : n < 0
  · rw [if_pos negative, decide_eq_true negative]
    unfold ofChars?
    simp only [List.cons_append, List.nil_append, spanDigits_toDigits]
    exact withFraction?_digits true n.natAbs
  · rw [if_neg negative, decide_eq_false negative]
    exact ofChars?_toDigits n.natAbs

theorem toJson?_digits {n : Int} (low : -(2 ^ 63 : Int) ≤ n) (high : n < 2 ^ 64) :
    toJson? ⟨decide (n < 0), digits n.natAbs, none, none⟩ = some (.int n) := by
  by_cases negative : n < 0
  · have magnitude : 0 < n.natAbs ∧ n.natAbs ≤ UInt64.size / 2 := by
      rw [UInt64.size]
      omega
    have back : -(n.natAbs : Int) = n := by omega
    simp only [toJson?, decide_eq_true negative, value_digits, if_pos magnitude, back]
  · have small : n.natAbs < UInt64.size := by
      rw [UInt64.size]
      omega
    have back : (n.natAbs : Int) = n := by omega
    simp only [toJson?, decide_eq_false negative, value_digits, if_pos small, back]

theorem isDigit_of_mem_toString {n : Int} {c : Char} (mem : c ∈ (toString n).toList) :
    c.isDigit = true ∨ c = '-' := by
  rw [toList_toString, List.mem_append] at mem
  rcases mem with sign | digit
  · exact .inr (by split at sign <;> simp_all)
  · exact .inl (isDigit_of_mem digit)

end Literal

namespace Token

theorem ofBare?_toString {n : Int} (low : -(2 ^ 63 : Int) ≤ n) (high : n < 2 ^ 64) :
    ofBare? (toString n).toList = some (.scalar (some (.int n))) := by
  have other {name : List Char} {c : Char} (mem : c ∈ name) (letter : c.isDigit = false ∧ c ≠ '-') :
      (toString n).toList ≠ name := by
    rintro rfl
    rcases Literal.isDigit_of_mem_toString mem with digit | minus
    · rw [letter.1] at digit
      cases digit
    · exact letter.2 minus
  rw [ofBare?, if_neg (other (c := 'n') (by decide) (by decide)),
    if_neg (other (c := 't') (by decide) (by decide)),
    if_neg (other (c := 'f') (by decide) (by decide)), Literal.ofChars?_toString, Option.map_some,
    Literal.toJson?_digits low high]

theorem isBare_of_mem_toString {n : Int} {c : Char} (mem : c ∈ (toString n).toList) :
    isBare c = true := by
  rw [isBare, decide_eq_true_iff]
  rcases Literal.isDigit_of_mem_toString mem with digit | rfl
  · left
    rw [Char.isAlphanum, digit, Bool.or_true]
  · right
    left
    rfl

theorem ends_cons {c : Char} (mark : isBare c = false) (cs : List Char) : Ends (c :: cs) := by
  rintro d ⟨⟩
  exact mark

end Token

open Token

mutual

/-- A written value is its tokens, if what follows does not go on with its last one. -/
theorem scan_render : ∀ (v : Json), v.Exact → ∀ (done : List Token) (tail : List Char), Ends tail →
    scan .between done (render v tail) = scan .between (v.tokens.reverse ++ done) tail
  | .null, _, done, tail, ends => by
    exact scan_word 'n' ['u', 'l', 'l'] rfl rfl ends
  | .bool true, _, done, tail, ends => by
    exact scan_word 't' ['r', 'u', 'e'] rfl rfl ends
  | .bool false, _, done, tail, ends => by
    exact scan_word 'f' ['a', 'l', 's', 'e'] rfl rfl ends
  | .int n, exact, done, tail, ends => by
    have token := ofBare?_toString exact.1 exact.2
    rw [render]
    cases chars : (toString n).toList with
    | nil =>
      rw [chars] at token
      cases token
    | cons c word =>
      rw [chars] at token
      have bare : ∀ d ∈ c :: word, isBare d = true := fun d mem =>
        isBare_of_mem_toString (chars ▸ mem)
      exact scan_word c word (List.all_eq_true.2 bare) token ends
  | .string s, _, done, tail, _ => by
    rw [render, scan_quote]
    rfl
  | .array items, exact, done, tail, _ => by
    rw [render, scan_mark (t := .openArray) rfl,
      scan_renderItems items exact _ _ (ends_cons (by decide) _), scan_mark (t := .closeArray) rfl]
    simp [tokens]
  | .object members, exact, done, tail, _ => by
    rw [render, scan_mark (t := .openObject) rfl,
      scan_renderMembers members exact _ _ (ends_cons (by decide) _),
      scan_mark (t := .closeObject) rfl]
    simp [tokens]

theorem scan_renderItems : ∀ (items : List Json), ExactItems items →
    ∀ (done : List Token) (tail : List Char), Ends tail →
    scan .between done (renderItems items tail) =
      scan .between ((itemTokens items).reverse ++ done) tail
  | [], _, _, _, _ => rfl
  | [v], exact, done, tail, ends => by
    rw [renderItems, itemTokens]
    exact scan_render v exact.1 done tail ends
  | v :: w :: rest, exact, done, tail, ends => by
    rw [renderItems, scan_render v exact.1 _ _ (ends_cons (by decide) _),
      scan_mark (t := .comma) rfl, scan_renderItems (w :: rest) exact.2 _ _ ends]
    simp [itemTokens]

theorem scan_renderMembers : ∀ (members : List (String × Json)), ExactMembers members →
    ∀ (done : List Token) (tail : List Char), Ends tail →
    scan .between done (renderMembers members tail) =
      scan .between ((memberTokens members).reverse ++ done) tail
  | [], _, _, _, _ => rfl
  | [(name, v)], exact, done, tail, ends => by
    rw [renderMembers, scan_quote, scan_mark (t := .colon) rfl,
      scan_render v exact.1 _ tail ends]
    simp [memberTokens]
  | (name, v) :: w :: rest, exact, done, tail, ends => by
    rw [renderMembers, scan_quote, scan_mark (t := .colon) rfl,
      scan_render v exact.1 _ _ (ends_cons (by decide) _), scan_mark (t := .comma) rfl,
      scan_renderMembers (w :: rest) exact.2 _ _ ends]
    simp [memberTokens]

end

theorem tokens?_toText {v : Json} (exact : v.Exact) : tokens? v.toText = some v.tokens := by
  have ends : Ends [] := nofun
  rw [tokens?, toText, String.toList_ofList, scan_render v exact [] [] ends, List.append_nil]
  simp [scan]

end SwapPlan.Json
