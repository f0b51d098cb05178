import SwapPlan.Json.Reading
import SwapPlan.Proofs.Json.Canonical
import SwapPlan.Proofs.Outcome
import SwapPlan.Proofs.Pointwise
/-!
# Reading written records

An object that has the fields of a shape, each with a value that fits it, is read in whatever order
they are written (`Shape.Lists.members_eq`), and each field is then found with its value.
-/
set_option autoImplicit false

namespace SwapPlan.Json

theorem Reader.text_string (s : String) : Reader.text (.string s) = .ok s := rfl

theorem Reader.any_self (v : Json) : Reader.any v = .ok v := rfl

theorem Reader.natural_int {n bound : Nat} (fits : n < bound) (expected : String) :
    Reader.natural bound expected (.int n) = .ok n := by
  have range : (0 : Int) ≤ n ∧ (n : Int) < bound := ⟨Int.natCast_nonneg _, Int.ofNat_lt.2 fits⟩
  rw [natural, if_pos range, Int.toNat_natCast]

structure Field.Takes (field : Field) (m : String × Json) : Prop where
  name : m.1 = field.name
  check : field.check m.2 = .ok ()

/-- Members are, in some order, those that are written for the fields of a shape. -/
structure Shape.Lists (shape : Shape) (written ms : List (String × Json)) : Prop where
  names : (shape.fields.map Field.name).Nodup
  takes : List.Forall₂ Field.Takes shape.fields written
  order : ms.Perm written

section

variable {α : Type} {read : Reader α} {v : Json} {a : α}

theorem Field.takes_mandatory (name : String) (fits : read v = .ok a) :
    (Field.mandatory name read).Takes (name, v) :=
  ⟨rfl, Outcome.map_eq_ok.2 ⟨a, fits, rfl⟩⟩

theorem Field.takes_optional (name : String) (fits : read v = .ok a) :
    (Field.optional name read).Takes (name, v) :=
  ⟨rfl, Outcome.map_eq_ok.2 ⟨a, fits, rfl⟩⟩

end

theorem Field.map_fst_of_takes {fields : List Field} {written : List (String × Json)}
    (takes : List.Forall₂ Field.Takes fields written) :
    written.map Prod.fst = fields.map Field.name := by
  induction takes with
  | nil => rfl
  | cons first _ ih => rw [List.map_cons, List.map_cons, first.name, ih]

theorem member?_of_mem {ms : List (String × Json)} (nodup : (ms.map Prod.fst).Nodup)
    {name : String} {v : Json} (mem : (name, v) ∈ ms) : member? name ms = some v := by
  rw [member?]
  induction ms with
  | nil => cases mem
  | cons m rest ih =>
    obtain ⟨other, w⟩ := m
    rw [List.map_cons, List.nodup_cons] at nodup
    rw [List.lookup_cons]
    rcases List.mem_cons.1 mem with same | behind
    · cases same
      simp
    · have apart : name ≠ other := by
        rintro rfl
        exact nodup.1 (List.mem_map.2 ⟨(name, v), behind, rfl⟩)
      rw [beq_eq_false_iff_ne.2 apart]
      exact ih nodup.2 behind

theorem mem_of_member? {ms : List (String × Json)} {name : String} {v : Json}
    (found : member? name ms = some v) : (name, v) ∈ ms := by
  obtain ⟨front, back, rfl, _⟩ := List.lookup_eq_some_iff.1 found
  exact List.mem_append_right _ (List.mem_cons_self ..)

namespace Shape

variable {shape : Shape} {written ms : List (String × Json)}

theorem field?_of_mem (names : (shape.fields.map Field.name).Nodup) {field : Field}
    (mem : field ∈ shape.fields) : shape.field? field.name = some field := by
  rw [field?]
  cases found : shape.fields.find? (·.name = field.name) with
  | none =>
    have absent := List.find?_eq_none.1 found field mem
    simp at absent
  | some other =>
    have named : other.name = field.name := by simpa using List.find?_some found
    rw [List.inj_on_of_nodup_map names (List.mem_of_find?_eq_some found) mem named]

theorem checkMembers_eq_ok (names : (shape.fields.map Field.name).Nodup) (seen : List String)
    (fresh : ∀ m ∈ ms, m.1 ∉ seen) (nodup : (ms.map Prod.fst).Nodup)
    (fits : ∀ m ∈ ms, ∃ field ∈ shape.fields, field.Takes m) :
    shape.checkMembers seen ms = .ok ms := by
  induction ms generalizing seen with
  | nil => rfl
  | cons m rest ih =>
    rw [List.forall_mem_cons] at fresh fits
    rw [List.map_cons, List.nodup_cons] at nodup
    obtain ⟨⟨field, mem, named, check⟩, others⟩ := fits
    have found := field?_of_mem names mem
    rw [← named] at found
    have behind := ih (m.1 :: seen) (fun n inside => by
        rw [List.mem_cons, not_or]
        exact ⟨fun same => nodup.1 (List.mem_map.2 ⟨n, inside, same⟩), fresh.2 n inside⟩)
      nodup.2 others
    rw [checkMembers, found]
    simp only [List.contains_eq_mem, fresh.1, decide_false, check, behind]
    rfl

namespace Lists

theorem nodup (h : shape.Lists written ms) : (ms.map Prod.fst).Nodup := by
  rw [(h.order.map Prod.fst).nodup_iff, Field.map_fst_of_takes h.takes]
  exact h.names

theorem missing?_eq_none (h : shape.Lists written ms) : shape.missing? ms = none := by
  rw [missing?, Option.map_eq_none_iff, List.find?_eq_none]
  intro field mem
  have listed : field.name ∈ ms.map Prod.fst := by
    rw [(h.order.map Prod.fst).mem_iff, Field.map_fst_of_takes h.takes]
    exact List.mem_map_of_mem mem
  obtain ⟨m, inside, named⟩ := List.mem_map.1 listed
  have present : ms.any (·.1 = field.name) = true :=
    List.any_eq_true.2 ⟨m, inside, decide_eq_true named⟩
  rw [present]
  simp

/-- The members that are written for a shape are read, whatever their order. -/
theorem members_eq (h : shape.Lists written ms) : shape.members (.object ms) = .ok ms := by
  have fits : ∀ m ∈ ms, ∃ field ∈ shape.fields, field.Takes m := fun m mem =>
    exists_mem_of_forall₂ h.takes.flip (h.order.mem_iff.1 mem)
  have checked := checkMembers_eq_ok h.names [] (fun _ _ => List.not_mem_nil) h.nodup fits
  rw [members, checked, Outcome.ok_bind, h.missing?_eq_none]
  rfl

variable {α : Type} {read : Reader α} {v : Json} {a : α}

theorem require_eq (h : shape.Lists written ms) (name : String) (mem : (name, v) ∈ written)
    (fits : read v = .ok a) : require ms name read = .ok a := by
  rw [require, member?_of_mem h.nodup (h.order.mem_iff.2 mem)]
  exact fits

theorem withDefault_eq (h : shape.Lists written ms) (name : String) (mem : (name, v) ∈ written)
    (fits : read v = .ok a) (default : α) : withDefault ms name read default = .ok a := by
  rw [withDefault, member?_of_mem h.nodup (h.order.mem_iff.2 mem)]
  exact fits

end Lists

theorem subset_of_checkMembers {seen : List String} {found : List (String × Json)}
    (read : shape.checkMembers seen ms = .ok found) : found ⊆ ms := by
  induction ms generalizing seen found with
  | nil =>
    cases read
    exact List.Subset.refl _
  | cons m rest ih =>
    rw [checkMembers] at read
    split at read
    · split at read
      · cases read
      · obtain ⟨_, _, read⟩ := Outcome.bind_eq_ok.1 read
        obtain ⟨others, behind, read⟩ := Outcome.bind_eq_ok.1 read
        cases read
        exact List.cons_subset_cons _ (ih behind)
    · split at read
      · cases read
      · exact List.subset_cons_of_subset _ (ih read)

theorem mem_of_checkItems {position : Nat} {fields : List Field} {items : List Json}
    {found : List (String × Json)} (read : shape.checkItems position fields items = .ok found) :
    ∀ m ∈ found, m.2 ∈ items := by
  induction items generalizing position fields found with
  | nil =>
    cases fields with
    | nil =>
      cases read
      nofun
    | cons field fields =>
      rw [checkItems] at read
      split at read
      · cases read
      · cases read
        nofun
  | cons v rest ih =>
    cases fields with
    | nil => cases read
    | cons field fields =>
      obtain ⟨_, _, read⟩ := Outcome.bind_eq_ok.1 read
      obtain ⟨others, behind, read⟩ := Outcome.bind_eq_ok.1 read
      cases read
      rw [List.forall_mem_cons]
      exact ⟨List.mem_cons_self .., fun m mem => List.mem_cons_of_mem _ (ih behind m mem)⟩

theorem sorted_of_members {v : Json} {found : List (String × Json)} (sorted : v.Sorted)
    (read : shape.members v = .ok found) : ∀ m ∈ found, m.2.Sorted := by
  cases v with
  | array items =>
    exact fun m mem => sortedItems_iff.1 sorted m.2 (mem_of_checkItems read m mem)
  | object members =>
    obtain ⟨listed, checked, read⟩ := Outcome.bind_eq_ok.1 read
    split at read
    · cases read
    · cases read
      exact fun m mem => sortedMembers_iff.1 sorted.2 m (subset_of_checkMembers checked mem)
  | _ => cases read

end Shape

/-- What is read from sorted values has a property. -/
def Reader.Yields {α : Type} (read : Reader α) (p : α → Prop) : Prop :=
  ∀ v a, v.Sorted → read v = .ok a → p a

namespace Reader.Yields

variable {α : Type} {read : Reader α} {p : α → Prop} {found : List (String × Json)}
  {name : String} {a : α}

theorem list (h : read.Yields p) : (Reader.list read).Yields fun xs => ∀ x ∈ xs, p x := by
  intro v xs sorted accepted
  cases v with
  | array items =>
    have related := (Outcome.mapM_eq_ok_iff.1 accepted).flip
    intro x mem
    obtain ⟨v, inside, accepted⟩ := exists_mem_of_forall₂ related mem
    exact h v x (sortedItems_iff.1 sorted v inside) accepted
  | _ => cases accepted

theorem require (h : read.Yields p) (sorted : ∀ m ∈ found, m.2.Sorted)
    (accepted : Json.require found name read = .ok a) : p a := by
  rw [Json.require] at accepted
  split at accepted
  · rename_i v written
    exact h v a (sorted _ (mem_of_member? written)) accepted
  · cases accepted

theorem withDefault (h : read.Yields p) {default : α} (holds : p default)
    (sorted : ∀ m ∈ found, m.2.Sorted)
    (accepted : Json.withDefault found name read default = .ok a) : p a := by
  rw [Json.withDefault] at accepted
  split at accepted
  · rename_i v written
    exact h v a (sorted _ (mem_of_member? written)) accepted
  · cases accepted
    exact holds

end Reader.Yields

end SwapPlan.Json
