import SwapPlan.Proofs.Json.Records
/-!
# Replacing the value of a field

A record may be an object or an array, and either has room for the value of a field.  A value that
the field reads alike may be put in place of another: the record is refused alike, or the fields that
it writes differ in that value only (`Shape.Room.members_fill`).
-/
set_option autoImplicit false

namespace SwapPlan.Json

/-- A record without the value of a field: the members of an object around it, or the items of an
array around it, with the field in its place. -/
inductive Shape.Room (shape : Shape) (name : String)
  | member (before after : List (String × Json))
  | item (before after : List Json)
    (place : (shape.fields.map Field.name)[before.length]? = some name)

def Shape.Room.fill {shape : Shape} {name : String} : shape.Room name → Json → Json
  | member before after, v => .object (before ++ (name, v) :: after)
  | item before after _, v => .array (before ++ v :: after)

structure Swapped (name : String) (v w : Json) (m n : String × Json) : Prop where
  named : m.1 = n.1
  value : m.2 = n.2 ∨ m.1 = name ∧ m.2 = v ∧ n.2 = w

section

variable {name : String} {v w : Json} {ms ns : List (String × Json)}

theorem swapped_refl (ms : List (String × Json)) : List.Forall₂ (Swapped name v w) ms ms :=
  List.forall₂_same.2 fun _ _ => ⟨rfl, .inl rfl⟩

theorem Swapped.of_named (name : String) (v w : Json) : Swapped name v w (name, v) (name, w) :=
  ⟨rfl, .inr ⟨rfl, rfl, rfl⟩⟩

theorem map_fst_of_swapped (h : List.Forall₂ (Swapped name v w) ms ns) :
    ms.map Prod.fst = ns.map Prod.fst := by
  induction h with
  | nil => rfl
  | cons first _ ih =>
    rw [List.map_cons, List.map_cons, first.named, ih]

theorem member?_of_swapped (h : List.Forall₂ (Swapped name v w) ms ns) (other : String) :
    member? other ms = member? other ns ∨
      other = name ∧ member? other ms = some v ∧ member? other ns = some w := by
  induction h with
  | nil => exact .inl rfl
  | @cons m n _ _ first _ ih =>
    obtain ⟨key, u⟩ := m
    obtain ⟨key', u'⟩ := n
    obtain rfl : key = key' := first.named
    rw [member?, member?, List.lookup_cons, List.lookup_cons]
    cases same : other == key with
    | true =>
      obtain rfl | ⟨rfl, rfl, rfl⟩ := first.value
      · exact .inl rfl
      · exact .inr ⟨beq_iff_eq.1 same, rfl, rfl⟩
    | false => exact ih

variable {α : Type} {read : Reader α} {other : String}

theorem require_of_swapped (h : List.Forall₂ (Swapped name v w) ms ns)
    (alike : other ≠ name ∨ read v = read w) :
    require ms other read = require ns other read := by
  obtain same | ⟨named, left, right⟩ := member?_of_swapped h other
  · rw [require, require, same]
  · rw [require, require, left, right]
    exact alike.resolve_left (not_not_intro named)

theorem withDefault_of_swapped (h : List.Forall₂ (Swapped name v w) ms ns)
    (alike : other ≠ name ∨ read v = read w) (default : α) :
    withDefault ms other read default = withDefault ns other read default := by
  obtain same | ⟨named, left, right⟩ := member?_of_swapped h other
  · rw [withDefault, withDefault, same]
  · rw [withDefault, withDefault, left, right]
    exact alike.resolve_left (not_not_intro named)

end

namespace Shape

variable {shape : Shape} {name : String} {v w : Json}

theorem checkMembers_swapped {ms ns : List (String × Json)}
    (alike : ∀ field ∈ shape.fields, field.name = name → field.check v = field.check w)
    (h : List.Forall₂ (Swapped name v w) ms ns) (seen : List String) :
    Outcome.Alike (List.Forall₂ (Swapped name v w)) (shape.checkMembers seen ms)
      (shape.checkMembers seen ns) := by
  induction h generalizing seen with
  | nil => exact .ok .nil
  | @cons m n _ _ first _ ih =>
    obtain ⟨key, u⟩ := m
    obtain ⟨key', u'⟩ := n
    obtain rfl : key = key' := first.named
    rw [checkMembers, checkMembers]
    cases found : shape.field? key with
    | none =>
      dsimp only
      split
      · exact .error _
      · exact ih seen
    | some field =>
      have checks : field.check u = field.check u' := by
        obtain rfl | ⟨rfl, rfl, rfl⟩ := first.value
        · rfl
        · have known := List.find?_some found
          exact alike field (List.mem_of_find?_eq_some found) (by simpa using known)
      dsimp only
      split
      · exact .error _
      · rw [checks]
        refine .bind_self _ fun _ => ?_
        exact (ih (key :: seen)).bind fun _ _ behind => .ok (.cons first behind)

theorem checkItems_swapped {fields : List Field} {before : List Json} (position : Nat)
    (alike : ∀ field ∈ fields, field.name = name → field.check v = field.check w)
    (place : (fields.map Field.name)[before.length]? = some name) (after : List Json) :
    Outcome.Alike (List.Forall₂ (Swapped name v w))
      (shape.checkItems position fields (before ++ v :: after))
      (shape.checkItems position fields (before ++ w :: after)) := by
  induction before generalizing fields position with
  | nil =>
    cases fields with
    | nil => cases place
    | cons field fields =>
      have named : field.name = name := by simpa using place
      rw [List.nil_append, List.nil_append, checkItems, checkItems, named,
        alike field (List.mem_cons_self ..) named]
      refine .bind_self _ fun _ => .bind_self _ fun behind => ?_
      exact .ok (.cons (.of_named name v w) (swapped_refl behind))
  | cons u before ih =>
    cases fields with
    | nil => cases place
    | cons field fields =>
      rw [List.cons_append, List.cons_append, checkItems, checkItems]
      have behind := ih (position + 1) (fun other mem => alike other (List.mem_cons_of_mem _ mem))
        (by simpa using place)
      refine .bind_self _ fun _ => behind.bind fun _ _ related => ?_
      exact .ok (.cons ⟨rfl, .inl rfl⟩ related)

theorem missing?_of_swapped {ms ns : List (String × Json)}
    (h : List.Forall₂ (Swapped name v w) ms ns) : shape.missing? ms = shape.missing? ns := by
  have present (ms : List (String × Json)) (key : String) :
      ms.any (·.1 = key) = (ms.map Prod.fst).any (· = key) := by
    rw [List.any_map]
    rfl
  simp only [missing?, present, map_fst_of_swapped h]

theorem nodup_of_checkMembers {seen : List String} {ms found : List (String × Json)}
    (read : shape.checkMembers seen ms = .ok found) :
    (found.map Prod.fst).Nodup ∧ ∀ m ∈ found, m.1 ∉ seen := by
  induction ms generalizing seen found with
  | nil =>
    cases read
    exact ⟨.nil, nofun⟩
  | cons m rest ih =>
    rw [checkMembers] at read
    split at read
    · split at read
      · cases read
      · rename_i fresh
        obtain ⟨_, _, read⟩ := Outcome.bind_eq_ok.1 read
        obtain ⟨others, behind, read⟩ := Outcome.bind_eq_ok.1 read
        cases read
        obtain ⟨nodup, apart⟩ := ih behind
        refine ⟨List.nodup_cons.2 ⟨fun mem => ?_, nodup⟩, List.forall_mem_cons.2 ⟨?_, ?_⟩⟩
        · obtain ⟨n, inside, same⟩ := List.mem_map.1 mem
          exact apart n inside (same ▸ List.mem_cons_self ..)
        · simpa using fresh
        · exact fun n inside known => apart n inside (List.mem_cons_of_mem _ known)
    · split at read
      · cases read
      · exact ih read

theorem mem_of_checkMembers {seen : List String} {ms found : List (String × Json)}
    (read : shape.checkMembers seen ms = .ok found) {m : String × Json} (mem : m ∈ ms)
    (known : (shape.field? m.1).isSome) : m ∈ found := by
  induction ms generalizing seen found with
  | nil => cases mem
  | cons n rest ih =>
    rw [checkMembers] at read
    split at read
    · split at read
      · cases read
      · obtain ⟨_, _, read⟩ := Outcome.bind_eq_ok.1 read
        obtain ⟨others, behind, read⟩ := Outcome.bind_eq_ok.1 read
        cases read
        obtain rfl | inside := List.mem_cons.1 mem
        · exact List.mem_cons_self ..
        · exact List.mem_cons_of_mem _ (ih behind inside)
    · rename_i unknown
      split at read
      · cases read
      · obtain rfl | inside := List.mem_cons.1 mem
        · rw [unknown] at known
          cases known
        · exact ih read inside

theorem prefix_of_checkItems {position : Nat} {fields : List Field} {items : List Json}
    {found : List (String × Json)} (read : shape.checkItems position fields items = .ok found) :
    found.map Prod.fst <+: fields.map Field.name := by
  induction items generalizing position fields found with
  | nil =>
    cases fields with
    | nil =>
      cases read
      exact List.prefix_rfl
    | cons field fields =>
      rw [checkItems] at read
      split at read
      · cases read
      · cases read
        exact List.nil_prefix
  | cons v rest ih =>
    cases fields with
    | nil => cases read
    | cons field fields =>
      obtain ⟨_, _, read⟩ := Outcome.bind_eq_ok.1 read
      obtain ⟨others, behind, read⟩ := Outcome.bind_eq_ok.1 read
      cases read
      exact List.cons_prefix_cons.2 ⟨rfl, ih behind⟩

theorem mem_of_checkItems_append {position : Nat} {fields : List Field} {before after : List Json}
    {found : List (String × Json)} (place : (fields.map Field.name)[before.length]? = some name)
    (read : shape.checkItems position fields (before ++ v :: after) = .ok found) :
    (name, v) ∈ found := by
  induction before generalizing position fields found with
  | nil =>
    cases fields with
    | nil => cases place
    | cons field fields =>
      obtain ⟨_, _, read⟩ := Outcome.bind_eq_ok.1 read
      obtain ⟨others, _, read⟩ := Outcome.bind_eq_ok.1 read
      cases read
      cases place
      exact List.mem_cons_self ..
  | cons u before ih =>
    cases fields with
    | nil => cases place
    | cons field fields =>
      obtain ⟨_, _, read⟩ := Outcome.bind_eq_ok.1 read
      obtain ⟨others, behind, read⟩ := Outcome.bind_eq_ok.1 read
      cases read
      exact List.mem_cons_of_mem _ (ih place behind)

namespace Room

theorem member?_fill {room : shape.Room name} {found : List (String × Json)}
    (names : (shape.fields.map Field.name).Nodup) {field : Field} (mem : field ∈ shape.fields)
    (named : field.name = name) (read : shape.members (room.fill v) = .ok found) :
    member? name found = some v := by
  cases room with
  | member before after =>
    obtain ⟨listed, checked, read⟩ := Outcome.bind_eq_ok.1 read
    split at read
    · cases read
    · cases read
      have known : (shape.field? name).isSome := by
        rw [← named, field?_of_mem names mem]
        rfl
      exact member?_of_mem (nodup_of_checkMembers checked).1
        (mem_of_checkMembers checked (List.mem_append_right _ (List.mem_cons_self ..)) known)
  | item before after place =>
    exact member?_of_mem (names.sublist (prefix_of_checkItems read).sublist)
      (mem_of_checkItems_append place read)

/-- A value that the field checks alike may be put in place of another. -/
theorem members_fill (room : shape.Room name)
    (alike : ∀ field ∈ shape.fields, field.name = name → field.check v = field.check w) :
    Outcome.Alike (List.Forall₂ (Swapped name v w)) (shape.members (room.fill v))
      (shape.members (room.fill w)) := by
  cases room with
  | member before after =>
    have swapped : List.Forall₂ (Swapped name v w) (before ++ (name, v) :: after)
        (before ++ (name, w) :: after) :=
      List.rel_append (swapped_refl before) (.cons (.of_named name v w) (swapped_refl after))
    rw [fill, fill, members, members]
    refine (checkMembers_swapped alike swapped []).bind fun found others related => ?_
    rw [missing?_of_swapped related]
    cases shape.missing? others with
    | none => exact .ok related
    | some missing => exact .error _
  | item before after place => exact checkItems_swapped 0 alike place after

end Room
end Shape
end SwapPlan.Json
