import Mathlib
import SwapPlan.Bytes
/-!
# Byte strings inside byte strings

A part stands at a position of a byte string when it starts there and ends before the string does.
This is what a slice reads (`slice?_eq_some_iff`) and what an overwriting replaces
(`overwrite_append`); outside of it the byte string stays what it is (`agreeOutside_overwrite`).
-/
set_option autoImplicit false

namespace SwapPlan.Bytes

/-- A part that starts at a position of a byte string and ends before it does. -/
def StandsAt (data : Bytes) (position : Nat) (part : Bytes) : Prop :=
  ∃ before after, data = before ++ part ++ after ∧ before.length = position

/-- The byte string with the bytes of a part in place of those from a position on. -/
def overwrite (data : Bytes) (position : Nat) (part : Bytes) : Bytes :=
  data.take position ++ part ++ data.drop (position + part.length)

theorem standsAt_append (before part after : Bytes) :
    StandsAt (before ++ part ++ after) before.length part :=
  ⟨before, after, rfl, rfl⟩

theorem StandsAt.le {data part : Bytes} {position : Nat} (h : data.StandsAt position part) :
    position + part.length ≤ data.length := by
  obtain ⟨before, after, rfl, rfl⟩ := h
  simp only [List.length_append]
  omega

theorem StandsAt.trans {data part inner : Bytes} {p q : Nat} (h : data.StandsAt p part)
    (k : part.StandsAt q inner) : data.StandsAt (p + q) inner := by
  obtain ⟨before, after, rfl, rfl⟩ := h
  obtain ⟨first, last, rfl, rfl⟩ := k
  exact ⟨before ++ first, last ++ after, by simp, by simp⟩

/-- Two parts stand one behind the other exactly if together they stand where the first does. -/
theorem standsAt_append_iff {data first second : Bytes} {position : Nat} :
    data.StandsAt position (first ++ second) ↔
      data.StandsAt position first ∧ data.StandsAt (position + first.length) second := by
  constructor
  · rintro ⟨before, after, rfl, rfl⟩
    exact ⟨⟨before, second ++ after, by simp, rfl⟩, ⟨before ++ first, after, by simp, by simp⟩⟩
  · rintro ⟨⟨before, after, rfl, rfl⟩, front, back, same, length⟩
    rw [← List.length_append] at length
    rw [List.append_assoc front] at same
    obtain ⟨rfl, rfl⟩ := List.append_inj same length.symm
    exact ⟨before, back, by simp, rfl⟩

theorem slice?_eq_some_iff {data part : Bytes} {position length : Nat} :
    data.slice? position length = some part ↔
      data.StandsAt position part ∧ part.length = length := by
  constructor
  · intro h
    have size := length_of_slice? h
    refine ⟨?_, size⟩
    rw [slice?] at h
    split at h
    · rename_i fits
      cases h
      refine ⟨data.take position, data.drop (position + length), ?_, ?_⟩
      · rw [← List.drop_drop, List.append_assoc, List.take_append_drop, List.take_append_drop]
      · simp only [List.length_take]
        omega
    · cases h
  · rintro ⟨⟨before, after, rfl, rfl⟩, rfl⟩
    rw [slice?, if_pos (by simp)]
    simp

theorem slice?_append (before part after : Bytes) :
    slice? (before ++ part ++ after) before.length part.length = some part :=
  slice?_eq_some_iff.2 ⟨standsAt_append before part after, rfl⟩

theorem overwrite_append {before old new after : Bytes} (h : new.length = old.length) :
    overwrite (before ++ old ++ after) before.length new = before ++ new ++ after := by
  rw [overwrite, h]
  simp

theorem length_overwrite {data part : Bytes} {position : Nat}
    (h : position + part.length ≤ data.length) :
    (data.overwrite position part).length = data.length := by
  simp only [overwrite, List.length_append, List.length_take, List.length_drop]
  omega

theorem getElem?_of_slice?_eq {data other : Bytes} {position size i : Nat} (inside : i < size)
    (h : position + size ≤ data.length) (k : position + size ≤ other.length)
    (same : data.slice? position size = other.slice? position size) :
    data[position + i]? = other[position + i]? := by
  rw [slice?, slice?, if_pos h, if_pos k, Option.some.injEq] at same
  have byte := congrArg (·[i]?) same
  simpa [List.getElem?_take_of_lt inside] using byte

theorem getElem?_overwrite {data part : Bytes} {position i : Nat}
    (h : position + part.length ≤ data.length) (inside : i < part.length) :
    (data.overwrite position part)[position + i]? = part[i]? := by
  have front : (data.take position).length = position := by
    rw [List.length_take]
    omega
  rw [overwrite, List.append_assoc, List.getElem?_append_right (by omega), front,
    Nat.add_sub_cancel_left, List.getElem?_append_left inside]

/-- A part that stays what it is whatever is written elsewhere does not overlap it. -/
theorem apart_of_slice?_overwrite {data : Bytes} {p q size : Nat} (positive : 0 < size)
    (written : p + size ≤ data.length) (read : q + size ≤ data.length)
    (kept : ∀ part : Bytes, part.length = size →
      (data.overwrite p part).slice? q size = data.slice? q size) :
    p + size ≤ q ∨ q + size ≤ p := by
  by_contra overlap
  -- The two have the byte at the later of their starts in common; another byte there shows in both.
  obtain ⟨i, j, hi, hj, same⟩ : ∃ i j, i < size ∧ j < size ∧ p + i = q + j := by
    rcases Nat.le_total p q with le | le
    · exact ⟨q - p, 0, by omega, positive, by omega⟩
    · exact ⟨0, p - q, positive, by omega, by omega⟩
  obtain ⟨byte, differs⟩ : ∃ byte : UInt8, data[q + j]? ≠ some byte := by
    by_cases zero : data[q + j]? = some 0
    · exact ⟨1, by simp [zero]⟩
    · exact ⟨0, zero⟩
  let part := List.replicate size byte
  have length : part.length = size := List.length_replicate
  have room : p + part.length ≤ data.length := by omega
  apply differs
  calc
    data[q + j]? = (data.overwrite p part)[q + j]? :=
      (getElem?_of_slice?_eq hj (length_overwrite room ▸ read) read (kept part length)).symm
    _ = part[i]? := by rw [← same, getElem?_overwrite room (length ▸ hi)]
    _ = some byte := by rw [List.getElem?_replicate, if_pos hi]

theorem overwrite_part (before : Bytes) {data part : Bytes} (after : Bytes) {position : Nat}
    (h : position + part.length ≤ data.length) :
    overwrite (before ++ data ++ after) (before.length + position) part =
      before ++ data.overwrite position part ++ after := by
  have first : (before ++ data ++ after).take (before.length + position) =
      before ++ data.take position := by
    rw [List.append_assoc, List.take_length_add_append, List.take_append_of_le_length (by omega)]
  have last : (before ++ data ++ after).drop (before.length + position + part.length) =
      data.drop (position + part.length) ++ after := by
    rw [List.append_assoc, Nat.add_assoc, List.drop_length_add_append,
      List.drop_append_of_le_length h]
  rw [overwrite, first, last, overwrite]
  simp only [List.append_assoc]

/-- Byte strings of one length that agree outside of the stretches of a size at some positions. -/
structure AgreeOutside (positions : List Nat) (size : Nat) (data other : Bytes) : Prop where
  length : other.length = data.length
  outside : ∀ i, (∀ p ∈ positions, i < p ∨ p + size ≤ i) → other[i]? = data[i]?

theorem AgreeOutside.refl (positions : List Nat) (size : Nat) (data : Bytes) :
    AgreeOutside positions size data data :=
  ⟨rfl, fun _ _ => rfl⟩

theorem AgreeOutside.trans {positions : List Nat} {size : Nat} {data middle other : Bytes}
    (h : AgreeOutside positions size data middle) (k : AgreeOutside positions size middle other) :
    AgreeOutside positions size data other :=
  ⟨k.length.trans h.length, fun i apart => (k.outside i apart).trans (h.outside i apart)⟩

theorem AgreeOutside.mono {positions more : List Nat} {size : Nat} {data other : Bytes}
    (h : AgreeOutside positions size data other) (sub : positions ⊆ more) :
    AgreeOutside more size data other :=
  ⟨h.length, fun i apart => h.outside i fun p mem => apart p (sub mem)⟩

theorem agreeOutside_overwrite {data part : Bytes} {position : Nat}
    (room : position + part.length ≤ data.length) :
    AgreeOutside [position] part.length data (data.overwrite position part) := by
  refine ⟨length_overwrite room, fun i apart => ?_⟩
  have front : (data.take position).length = position := List.length_take_of_le (by omega)
  rw [overwrite]
  rcases apart position (List.mem_singleton.2 rfl) with before | behind
  · rw [List.append_assoc, List.getElem?_append_left (by omega), List.getElem?_take_of_lt before]
  · have size : (data.take position ++ part).length = position + part.length := by
      rw [List.length_append, front]
    rw [List.getElem?_append_right (by omega), size, List.getElem?_drop, Nat.add_sub_cancel' behind]

end SwapPlan.Bytes
