import Mathlib
import SwapPlan.Json.Printer
/-!
# Sorted values

A value is sorted if the members of each of its objects stand in the strict order of their names.
Canonical values are sorted (`sorted_canonical`), and sorted ones are canonical as they are
(`canonical_eq_self`).  Members of distinct names are only put in another order
(`canonicalMembers_perm`).
-/
set_option autoImplicit false

namespace SwapPlan.Json

def Ordered (members : List (String × Json)) : Prop := members.Pairwise fun m n => m.1 < n.1

mutual

/-- The members of each object of the value are ordered. -/
def Sorted : Json → Prop
  | array items => SortedItems items
  | object members => Ordered members ∧ SortedMembers members
  | _ => True

def SortedItems : List Json → Prop
  | [] => True
  | v :: rest => Sorted v ∧ SortedItems rest

def SortedMembers : List (String × Json) → Prop
  | [] => True
  | (_, v) :: rest => Sorted v ∧ SortedMembers rest

end

theorem sortedItems_iff {items : List Json} : SortedItems items ↔ ∀ v ∈ items, v.Sorted := by
  induction items with
  | nil => simp [SortedItems]
  | cons v rest ih => rw [SortedItems, ih, List.forall_mem_cons]

theorem sortedMembers_iff {members : List (String × Json)} :
    SortedMembers members ↔ ∀ m ∈ members, m.2.Sorted := by
  induction members with
  | nil => simp [SortedMembers]
  | cons m rest ih => rw [SortedMembers, ih, List.forall_mem_cons]

variable {name : String} {v : Json} {ms sorted : List (String × Json)}

theorem mem_insertMember {m : String × Json} (mem : m ∈ insertMember name v ms) :
    m = (name, v) ∨ m ∈ ms := by
  induction ms with
  | nil => exact .inl (List.mem_singleton.1 mem)
  | cons n rest ih =>
    rw [insertMember] at mem
    split at mem
    · exact List.mem_cons.1 mem
    · split at mem
      · exact (List.mem_cons.1 mem).imp_right (List.mem_cons_of_mem _)
      · rcases List.mem_cons.1 mem with rfl | mem
        · exact .inr (List.mem_cons_self ..)
        · exact (ih mem).imp_right (List.mem_cons_of_mem _)

theorem ordered_insertMember (order : Ordered ms) : Ordered (insertMember name v ms) := by
  induction ms with
  | nil => exact List.pairwise_singleton _ _
  | cons n rest ih =>
    obtain ⟨other, w⟩ := n
    obtain ⟨first, others⟩ := List.pairwise_cons.1 order
    rw [insertMember]
    split
    · rename_i before
      refine List.pairwise_cons.2 ⟨List.forall_mem_cons.2 ⟨before, fun m mem => ?_⟩, order⟩
      exact lt_trans before (first m mem)
    · rename_i notBefore
      split
      · rename_i same
        exact List.pairwise_cons.2 ⟨same ▸ first, others⟩
      · rename_i different
        refine List.pairwise_cons.2 ⟨fun m mem => ?_, ih others⟩
        rcases mem_insertMember mem with rfl | mem
        · exact lt_of_le_of_ne (le_of_not_gt notBefore) (Ne.symm different)
        · exact first m mem

theorem insertMember_last (behind : ∀ m ∈ ms, m.1 < name) :
    insertMember name v ms = ms ++ [(name, v)] := by
  induction ms with
  | nil => rfl
  | cons m rest ih =>
    rw [List.forall_mem_cons] at behind
    rw [insertMember, if_neg (lt_asymm behind.1), if_neg (ne_of_gt behind.1), ih behind.2]
    rfl

theorem insertMember_perm (fresh : name ∉ ms.map Prod.fst) :
    (insertMember name v ms).Perm ((name, v) :: ms) := by
  induction ms with
  | nil => exact .refl _
  | cons m rest ih =>
    rw [List.map_cons, List.mem_cons, not_or] at fresh
    rw [insertMember, if_neg fresh.1]
    split
    · exact .refl _
    · exact ((ih fresh.2).cons m).trans (.swap ..)

theorem canonicalMembers_perm (nodup : ((sorted ++ ms).map Prod.fst).Nodup) :
    (canonicalMembers sorted ms).Perm (sorted ++ ms.map (Prod.map id canonical)) := by
  induction ms generalizing sorted with
  | nil =>
    rw [canonicalMembers, List.map_nil, List.append_nil]
  | cons m rest ih =>
    obtain ⟨name, v⟩ := m
    have moved : (sorted ++ (name, v) :: rest).Perm ((name, v) :: (sorted ++ rest)) :=
      List.perm_middle
    have nodup := (moved.map Prod.fst).nodup_iff.1 nodup
    rw [List.map_cons, List.nodup_cons] at nodup
    have fresh : name ∉ sorted.map Prod.fst := fun mem =>
      nodup.1 (by rw [List.map_append]; exact List.mem_append_left _ mem)
    have placed := insertMember_perm (v := canonical v) fresh
    have distinct : ((insertMember name (canonical v) sorted ++ rest).map Prod.fst).Nodup := by
      rw [((placed.append_right rest).map Prod.fst).nodup_iff]
      exact List.nodup_cons.2 nodup
    rw [canonicalMembers, List.map_cons]
    exact ((ih distinct).trans (placed.append_right _)).trans List.perm_middle.symm

mutual

theorem sorted_canonical : ∀ v : Json, v.canonical.Sorted
  | .null => trivial
  | .bool _ => trivial
  | .int _ => trivial
  | .float _ => trivial
  | .string _ => trivial
  | .array items => sorted_canonicalItems items
  | .object members => sorted_canonicalMembers members [] List.Pairwise.nil trivial

theorem sorted_canonicalItems : ∀ items : List Json, SortedItems (canonicalItems items)
  | [] => trivial
  | v :: rest => ⟨sorted_canonical v, sorted_canonicalItems rest⟩

theorem sorted_canonicalMembers : ∀ ms sorted : List (String × Json), Ordered sorted →
    SortedMembers sorted →
    Ordered (canonicalMembers sorted ms) ∧ SortedMembers (canonicalMembers sorted ms)
  | [], _, order, each => ⟨order, each⟩
  | (name, v) :: rest, sorted, order, each => by
    rw [canonicalMembers]
    refine sorted_canonicalMembers rest _ (ordered_insertMember order) ?_
    rw [sortedMembers_iff] at each ⊢
    intro m mem
    rcases mem_insertMember mem with rfl | mem
    · exact sorted_canonical v
    · exact each m mem

end

mutual

theorem canonical_eq_self : ∀ v : Json, v.Sorted → v.canonical = v
  | .null, _ => rfl
  | .bool _, _ => rfl
  | .int _, _ => rfl
  | .float _, _ => rfl
  | .string _, _ => rfl
  | .array items, sorted => congrArg array (canonicalItems_eq_self items sorted)
  | .object members, sorted =>
    congrArg object (canonicalMembers_eq_append members [] sorted.1 sorted.2)

theorem canonicalItems_eq_self : ∀ items : List Json, SortedItems items →
    canonicalItems items = items
  | [], _ => rfl
  | v :: rest, sorted =>
    congrArg₂ List.cons (canonical_eq_self v sorted.1) (canonicalItems_eq_self rest sorted.2)

theorem canonicalMembers_eq_append : ∀ ms sorted : List (String × Json), Ordered (sorted ++ ms) →
    SortedMembers ms → canonicalMembers sorted ms = sorted ++ ms
  | [], sorted, _, _ => by rw [canonicalMembers, List.append_nil]
  | (name, v) :: rest, sorted, order, each => by
    have behind : ∀ m ∈ sorted, m.1 < name := fun m mem =>
      (List.pairwise_append.1 order).2.2 m mem (name, v) (List.mem_cons_self ..)
    have next := canonicalMembers_eq_append rest (sorted ++ [(name, v)])
      (by rwa [List.append_assoc]) each.2
    rw [canonicalMembers, canonical_eq_self v each.1, insertMember_last behind, next,
      List.append_assoc]
    rfl

end

theorem canonicalItems_eq_map (items : List Json) :
    canonicalItems items = items.map canonical := by
  induction items with
  | nil => rfl
  | cons v rest ih => rw [canonicalItems, ih, List.map_cons]

theorem canonical_array_map {α : Type} (write : α → Json) (xs : List α) :
    (array (xs.map write)).canonical = array (xs.map fun x => (write x).canonical) := by
  rw [canonical, canonicalItems_eq_map, List.map_map]
  rfl

theorem exists_canonical_object (nodup : (ms.map Prod.fst).Nodup) :
    ∃ sorted, (object ms).canonical = object sorted ∧
      sorted.Perm (ms.map (Prod.map id canonical)) :=
  ⟨_, rfl, canonicalMembers_perm nodup⟩

end SwapPlan.Json
