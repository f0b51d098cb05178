import Mathlib
/-!
# Lists related element by element

Which elements of two related lists correspond, and when a list has a related one at all.
-/
set_option autoImplicit false

namespace SwapPlan

variable {α β γ : Type} {R : α → β → Prop}

theorem forall₂_append_cons {before : List α} {x : α} {after : List α} {ys : List β}
    (h : List.Forall₂ R (before ++ x :: after) ys) :
    ∃ first y last, ys = first ++ y :: last ∧ List.Forall₂ R before first ∧ R x y ∧
      List.Forall₂ R after last := by
  induction before generalizing ys with
  | nil =>
    obtain ⟨y, last, related, rest, rfl⟩ := List.forall₂_cons_left_iff.1 h
    exact ⟨[], y, last, rfl, .nil, related, rest⟩
  | cons b before ih =>
    obtain ⟨z, zs, related, rest, rfl⟩ := List.forall₂_cons_left_iff.1 h
    obtain ⟨first, y, last, rfl, front, middle, back⟩ := ih rest
    exact ⟨z :: first, y, last, rfl, .cons related front, middle, back⟩

theorem exists_forall₂_iff {xs : List α} :
    (∃ ys, List.Forall₂ R xs ys) ↔ ∀ x ∈ xs, ∃ y, R x y := by
  induction xs with
  | nil => simp
  | cons x xs ih =>
    rw [List.forall_mem_cons, ← ih]
    constructor
    · rintro ⟨_, h⟩
      obtain ⟨y, ys, related, rest, rfl⟩ := List.forall₂_cons_left_iff.1 h
      exact ⟨⟨y, related⟩, ys, rest⟩
    · rintro ⟨⟨y, related⟩, ys, rest⟩
      exact ⟨y :: ys, .cons related rest⟩

theorem exists_mem_of_forall₂ {xs : List α} {ys : List β} (h : List.Forall₂ R xs ys) {x : α}
    (mem : x ∈ xs) : ∃ y ∈ ys, R x y := by
  obtain ⟨before, after, rfl⟩ := List.append_of_mem mem
  obtain ⟨first, y, last, rfl, _, related, _⟩ := forall₂_append_cons h
  exact ⟨y, List.mem_append_right _ (List.mem_cons_self ..), related⟩

theorem eq_map_of_forall₂ {S : α → γ → Prop} {f : β → γ} {xs : List α} {ys : List β} {zs : List γ}
    (h : List.Forall₂ R xs ys) (k : List.Forall₂ S xs zs)
    (each : ∀ x ∈ xs, ∀ y z, R x y → S x z → z = f y) : zs = ys.map f := by
  induction h generalizing zs with
  | nil =>
    cases k
    rfl
  | cons related _ ih =>
    obtain ⟨z, rest, other, others, rfl⟩ := List.forall₂_cons_left_iff.1 k
    rw [List.forall_mem_cons] at each
    rw [List.map_cons, ih others each.2, each.1 _ _ related other]

theorem forall₂_comp {S : β → γ → Prop} {xs : List α} {ys : List β} {zs : List γ}
    (h : List.Forall₂ R xs ys) (k : List.Forall₂ S ys zs) :
    List.Forall₂ (fun x z => ∃ y, R x y ∧ S y z) xs zs := by
  induction h generalizing zs with
  | nil =>
    cases k
    exact .nil
  | cons related _ ih =>
    obtain ⟨z, rest, other, others, rfl⟩ := List.forall₂_cons_left_iff.1 k
    exact .cons ⟨_, related, other⟩ (ih others)

theorem forall_mem_iff_forall_mem {p : β → Prop} {q : α → Prop} {xs : List α} {ys : List β}
    (h : List.Forall₂ R xs ys) (each : ∀ x ∈ xs, ∀ y ∈ ys, R x y → (p y ↔ q x)) :
    (∀ y ∈ ys, p y) ↔ ∀ x ∈ xs, q x := by
  induction h with
  | nil => simp
  | cons related _ ih =>
    have head := each _ (List.mem_cons_self ..) _ (List.mem_cons_self ..) related
    have tail := ih fun x mem y other =>
      each x (List.mem_cons_of_mem _ mem) y (List.mem_cons_of_mem _ other)
    rw [List.forall_mem_cons, List.forall_mem_cons, head, tail]

theorem forall_mem_iff_of_forall₂ {p : β → Prop} {xs : List α} {ys : List β}
    (unique : Relator.RightUnique R) (h : List.Forall₂ R xs ys) :
    (∀ y ∈ ys, p y) ↔ ∀ x ∈ xs, ∃ y, R x y ∧ p y := by
  refine forall_mem_iff_forall_mem h fun x _ y _ related => ?_
  constructor
  · exact fun holds => ⟨y, related, holds⟩
  · rintro ⟨z, other, holds⟩
    rw [unique related other]
    exact holds

theorem forall₂_iff_of_forall₂ {S : α → γ → Prop} {T : γ → β → Prop} {xs : List α} {zs : List γ}
    {ys : List β} (h : List.Forall₂ S xs zs) (same : ∀ x z y, S x z → (R x y ↔ T z y)) :
    List.Forall₂ R xs ys ↔ List.Forall₂ T zs ys := by
  induction h generalizing ys with
  | nil => simp
  | cons related _ ih =>
    simp only [List.forall₂_cons_left_iff, ih, same _ _ _ related]

theorem forall₂_ofFn_iff {n : Nat} {f : Fin n → α} {g : Fin n → β} :
    List.Forall₂ R (List.ofFn f) (List.ofFn g) ↔ ∀ k, R (f k) (g k) := by
  simp [List.forall₂_iff_get, Fin.forall_iff]

theorem exists_ofFn_of_forall₂ {n : Nat} {f : Fin n → α} {ys : List β}
    (h : List.Forall₂ R (List.ofFn f) ys) : ∃ g : Fin n → β, ys = List.ofFn g := by
  obtain rfl : n = ys.length := by rw [← h.length_eq, List.length_ofFn]
  exact ⟨ys.get, (List.ofFn_get ys).symm⟩

end SwapPlan
