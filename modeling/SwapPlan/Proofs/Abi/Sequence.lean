import SwapPlan.Abi.Encoding
import SwapPlan.Proofs.Substring
/-!
# Values inside the encoding of a sequence

The body of every value of a sequence stands in the encoding, in the head or in the tail
(`encode_context`), and where it stands in the tail the head holds the distance
(`pointer_standsAt`).
-/
set_option autoImplicit false

namespace SwapPlan.AbiValue

open Bytes (StandsAt)

def part (v : AbiValue) : Part := ⟨v.isDynamic, v.body⟩

def headLength (values : List AbiValue) : Nat := ((parts values).map Part.headSize).sum

/-- Where the value at an index starts in the encoding of a sequence: in the tail, behind the bodies
that stand there before it, or in the head. -/
def start (values : List AbiValue) (index : Nat) : Nat :=
  if values[index]?.any isDynamic then
    headLength values + (tails (parts (values.take index))).length
  else headLength (values.take index)

theorem parts_eq_map (values : List AbiValue) : parts values = values.map part := by
  induction values with
  | nil => rfl
  | cons v rest ih => rw [parts, ih, List.map_cons, part]

theorem parts_append (vs ws : List AbiValue) : parts (vs ++ ws) = parts vs ++ parts ws := by
  simp only [parts_eq_map, List.map_append]

theorem anyDynamic_eq_any (values : List AbiValue) : anyDynamic values = values.any isDynamic := by
  induction values with
  | nil => rfl
  | cons v rest ih => rw [anyDynamic, ih, List.any_cons]

theorem headLength_append (vs ws : List AbiValue) :
    headLength (vs ++ ws) = headLength vs + headLength ws := by
  simp only [headLength, parts_append, List.map_append, List.sum_append]

theorem headLength_cons (v : AbiValue) (rest : List AbiValue) :
    headLength (v :: rest) = v.part.headSize + headLength rest := by
  rw [headLength, parts, List.map_cons, List.sum_cons]
  rfl

theorem length_wordOf (n : Nat) : (wordOf n).length = Word.size := length_bigEndian _ _

theorem length_heads (tailStart : Nat) (ps : List Part) :
    (heads tailStart ps).length = (ps.map Part.headSize).sum := by
  induction ps generalizing tailStart with
  | nil => rfl
  | cons p rest ih =>
    rw [heads, List.map_cons, List.sum_cons, Part.headSize]
    cases p.dynamic <;> simp [ih, length_wordOf]

theorem heads_append (tailStart : Nat) (ps qs : List Part) :
    heads tailStart (ps ++ qs) =
      heads tailStart ps ++ heads (tailStart + (tails ps).length) qs := by
  induction ps generalizing tailStart with
  | nil => rfl
  | cons p rest ih =>
    rw [List.cons_append, heads, heads, tails]
    cases p.dynamic <;> simp [ih, Nat.add_assoc]

theorem encode_eq (values : List AbiValue) :
    encode values = heads (headLength values) (parts values) ++ tails (parts values) := by
  rw [encode, sequence, headLength, List.sum_eq_foldr, List.foldr_map]

theorem headLength_le (values : List AbiValue) : headLength values ≤ (encode values).length := by
  rw [encode_eq, List.length_append, length_heads]
  exact Nat.le_add_right _ _

theorem tails_append (ps qs : List Part) : tails (ps ++ qs) = tails ps ++ tails qs := by
  induction ps with
  | nil => rfl
  | cons p rest ih =>
    rw [List.cons_append, tails, tails]
    cases p.dynamic <;> simp [ih]

theorem start_append (before : List AbiValue) (v : AbiValue) (after : List AbiValue) :
    start (before ++ v :: after) before.length =
      if v.isDynamic then headLength (before ++ v :: after) + (tails (parts before)).length
      else headLength before := by
  rw [start, List.getElem?_append_right (Nat.le_refl _), Nat.sub_self, List.take_left' rfl]
  rfl

theorem headLength_le_start (before : List AbiValue) (v : AbiValue) (after : List AbiValue) :
    headLength before ≤ start (before ++ v :: after) before.length := by
  rw [start_append]
  split
  · rw [headLength_append]
    omega
  · exact Nat.le_refl _

theorem encode_append (before : List AbiValue) (v : AbiValue) (after : List AbiValue) :
    encode (before ++ v :: after) =
      heads (headLength (before ++ v :: after)) (parts before)
        ++ heads (headLength (before ++ v :: after) + (tails (parts before)).length)
            (v.part :: parts after)
        ++ (tails (parts before) ++ tails (v.part :: parts after)) := by
  have split : parts (before ++ v :: after) = parts before ++ v.part :: parts after := by
    rw [parts_append, parts]
    rfl
  rw [encode_eq, split, heads_append, tails_append]

/-- A part of the body of a value stands in the encoding of a sequence as far behind the start of the
value as it stands in the body, and another part in its place changes nothing else. -/
theorem encode_context (before : List AbiValue) {v w : AbiValue} (after : List AbiValue)
    {first old new last : Bytes} (dynamic : w.isDynamic = v.isDynamic)
    (hv : v.body = first ++ old ++ last) (hw : w.body = first ++ new ++ last)
    (length : new.length = old.length) :
    ∃ left right,
      left.length = start (before ++ v :: after) before.length + first.length ∧
      encode (before ++ v :: after) = left ++ old ++ right ∧
      encode (before ++ w :: after) = left ++ new ++ right := by
  have same : w.body.length = v.body.length := by
    simp only [hv, hw, List.length_append, length]
  have size : w.part.headSize = v.part.headSize := by
    rw [part, part, Part.headSize, Part.headSize, dynamic, same]
  have total : headLength (before ++ w :: after) = headLength (before ++ v :: after) := by
    rw [headLength_append, headLength_append, headLength_cons, headLength_cons, size]
  have head : headLength (before ++ v :: after) =
      headLength before + (v.part.headSize + headLength after) := by
    rw [headLength_append, headLength_cons]
  rw [encode_append, encode_append, total, start_append]
  generalize headLength (before ++ v :: after) = tailStart at head
  cases inTail : v.isDynamic with
  | false =>
    refine ⟨heads tailStart (parts before) ++ first,
      last ++ heads (tailStart + (tails (parts before)).length) (parts after)
        ++ (tails (parts before) ++ tails (parts after)), ?_, ?_, ?_⟩
    · rw [List.length_append, length_heads]
      rfl
    · simp [heads, tails, part, inTail, hv]
    · simp [heads, tails, part, dynamic, inTail, hw]
  | true =>
    refine ⟨heads tailStart (parts before)
        ++ heads (tailStart + (tails (parts before)).length) (v.part :: parts after)
        ++ (tails (parts before) ++ first), last ++ tails (parts after), ?_, ?_, ?_⟩
    · simp only [List.length_append, length_heads, List.map_cons, List.sum_cons, if_true, head,
        headLength]
      omega
    · simp [tails, part, inTail, hv]
    · simp [heads, tails, part, dynamic, inTail, hv, hw, length]

theorem body_standsAt (before : List AbiValue) (v : AbiValue) (after : List AbiValue) :
    StandsAt (encode (before ++ v :: after)) (start (before ++ v :: after) before.length)
      v.body := by
  have whole : v.body = [] ++ v.body ++ [] := by simp
  obtain ⟨left, right, position, encoded, _⟩ :=
    encode_context before after rfl whole whole rfl
  exact ⟨left, right, encoded, position⟩

theorem pointer_standsAt (before : List AbiValue) {v : AbiValue} (after : List AbiValue)
    (inTail : v.isDynamic = true) :
    StandsAt (encode (before ++ v :: after)) (headLength before)
      (wordOf (start (before ++ v :: after) before.length)) := by
  rw [encode_append, start_append, if_pos inTail]
  generalize headLength (before ++ v :: after) = tailStart
  refine ⟨heads tailStart (parts before),
    heads (tailStart + (tails (parts before)).length + v.body.length) (parts after)
      ++ (tails (parts before) ++ tails (v.part :: parts after)), ?_, length_heads _ _⟩
  rw [heads, part, if_pos inTail]
  simp only [List.append_assoc]

end SwapPlan.AbiValue
