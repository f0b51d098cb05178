import Mathlib
import SwapPlan.Plan.Compilation
/-!
# What the shape checks promise

A route has no fault exactly if its legs lead from end to end and all have hops.  The steps of a leg
with hops are in place exactly if it wraps first and unwraps last, and only the native token
(`Leg.wrapFault?_eq_none_iff`).
-/
set_option autoImplicit false

namespace SwapPlan

namespace Route

theorem firstEmpty?_eq_none_iff {legs : List Leg} {position : Nat} :
    firstEmpty? position legs = none ↔ ∀ leg ∈ legs, leg.hops ≠ [] := by
  induction legs generalizing position with
  | nil => simp [firstEmpty?]
  | cons leg rest ih =>
    rw [firstEmpty?, List.forall_mem_cons]
    cases leg.hops with
    | nil => simp
    | cons hop hops => simp [ih]

theorem firstBreak?_eq_none_iff {legs : List Leg} {position : Nat} :
    firstBreak? position legs = none ↔
      legs.IsChain fun leg next => leg.destToken = next.srcToken := by
  induction legs generalizing position with
  | nil => simp [firstBreak?]
  | cons leg rest ih =>
    cases rest with
    | nil => simp [firstBreak?]
    | cons next rest =>
      rw [firstBreak?, List.isChain_cons_cons]
      by_cases joined : leg.destToken = next.srcToken <;> simp [joined, ih]

/-- The legs of a route lead from its source token to its destination token. -/
structure Joined (route : Route) : Prop where
  starts : ∃ first, route.legs.head? = some first ∧ first.srcToken = route.srcToken
  ends : ∃ last, route.legs.getLast? = some last ∧ last.destToken = route.destToken
  chained : route.legs.IsChain fun leg next => leg.destToken = next.srcToken

theorem joined_iff {route : Route} {first last : Leg} (head : route.legs.head? = some first)
    (tail : route.legs.getLast? = some last) :
    route.Joined ↔ first.srcToken = route.srcToken ∧ last.destToken = route.destToken ∧
      route.legs.IsChain fun leg next => leg.destToken = next.srcToken := by
  constructor
  · rintro ⟨⟨_, found, starts⟩, ⟨_, found', ends⟩, chained⟩
    rw [head] at found
    rw [tail] at found'
    cases found
    cases found'
    exact ⟨starts, ends, chained⟩
  · rintro ⟨starts, ends, chained⟩
    exact ⟨⟨first, head, starts⟩, ⟨last, tail, ends⟩, chained⟩

/-- The checks of a route's shape pass exactly if its legs lead from end to end and all have hops. -/
theorem fault?_eq_none_iff {route : Route} :
    route.fault? = none ↔ route.Joined ∧ ∀ leg ∈ route.legs, leg.hops ≠ [] := by
  cases legs : route.legs with
  | nil =>
    refine iff_of_false ?_ ?_
    · rw [fault?, legs]
      exact nofun
    · rintro ⟨⟨⟨_, head, _⟩, _, _⟩, _⟩
      rw [legs] at head
      cases head
  | cons first rest =>
    have head : route.legs.head? = some first := by rw [legs, List.head?_cons]
    obtain ⟨last, tail⟩ : ∃ last, route.legs.getLast? = some last :=
      ⟨_, by rw [legs, List.getLast?_cons]⟩
    have empty : firstEmpty? 0 route.legs = none ↔ ∀ leg ∈ route.legs, leg.hops ≠ [] :=
      firstEmpty?_eq_none_iff
    have broken : firstBreak? 0 route.legs = none ↔
        route.legs.IsChain fun leg next => leg.destToken = next.srcToken := firstBreak?_eq_none_iff
    rw [← legs, joined_iff head tail, ← empty, ← broken, fault?, head, tail]
    by_cases starts : first.srcToken = route.srcToken
    · by_cases ends : last.destToken = route.destToken
      · cases firstEmpty? 0 route.legs <;> simp [starts, ends]
      · simp [starts, ends]
    · simp [starts]

theorem hops_ne_nil_of_fault? {route : Route} (h : route.fault? = none) :
    ∀ leg ∈ route.legs, leg.hops ≠ [] := (fault?_eq_none_iff.1 h).2

end Route

namespace Leg

variable {network : Network} {leg : Leg}

/-- A leg that may wrap first, on a native source, calls exchanges, and may unwrap last, on a native
destination. -/
def IsOrdered (network : Network) (leg : Leg) : Prop :=
  ∃ (wraps unwraps : Bool) (hops : List Hop), hops ≠ [] ∧
    leg.steps = (if wraps then [Step.wrapNative] else []) ++ hops.map Step.swap
      ++ (if unwraps then [Step.unwrapNative] else []) ∧
    (wraps = true → network.isNative leg.srcToken = true) ∧
    (unwraps = true → network.isNative leg.destToken = true)

theorem asksWrap_iff : leg.asksWrap = true ↔ .wrapNative ∈ leg.steps := by
  rw [asksWrap, List.any_eq_true]
  constructor
  · rintro ⟨step, mem, wraps⟩
    cases step <;> first | exact mem | cases wraps
  · exact fun mem => ⟨_, mem, rfl⟩

theorem asksUnwrap_iff : leg.asksUnwrap = true ↔ .unwrapNative ∈ leg.steps := by
  rw [asksUnwrap, List.any_eq_true]
  constructor
  · rintro ⟨step, mem, unwraps⟩
    cases step <;> first | exact mem | cases unwraps
  · exact fun mem => ⟨_, mem, rfl⟩

theorem IsOrdered.isNative_of_asksWrap (h : leg.IsOrdered network) (asks : leg.asksWrap = true) :
    network.isNative leg.srcToken = true := by
  obtain ⟨wraps, unwraps, hops, _, steps, source, _⟩ := h
  rw [asksWrap_iff, steps] at asks
  apply source
  cases wraps <;> cases unwraps <;> simp at asks ⊢

theorem IsOrdered.isNative_of_asksUnwrap (h : leg.IsOrdered network)
    (asks : leg.asksUnwrap = true) : network.isNative leg.destToken = true := by
  obtain ⟨wraps, unwraps, hops, _, steps, _, destination⟩ := h
  rw [asksUnwrap_iff, steps] at asks
  apply destination
  cases wraps <;> cases unwraps <;> simp at asks ⊢

/-- Behind the first step there are hops only, and then at most the step that unwraps. -/
theorem exists_hops_of_wrapFaultFrom? {position : Nat} {steps : List Step}
    (h : leg.wrapFaultFrom? network position steps = none) (behind : 0 < position)
    (total : leg.steps.length = position + steps.length) :
    ∃ (unwraps : Bool) (hops : List Hop),
      steps = hops.map Step.swap ++ (if unwraps then [Step.unwrapNative] else []) ∧
      (unwraps = true → network.isNative leg.destToken = true) := by
  induction steps generalizing position with
  | nil => exact ⟨false, [], rfl, nofun⟩
  | cons step rest ih =>
    rw [wrapFaultFrom?, Option.or_eq_none_iff] at h
    cases step with
    | swap hop =>
      rw [List.length_cons] at total
      obtain ⟨unwraps, hops, rfl, native⟩ := ih h.2 (Nat.succ_pos _) (by omega)
      exact ⟨unwraps, hop :: hops, rfl, native⟩
    | wrapNative =>
      have misplaced := h.1
      rw [stepFault?, if_pos (Nat.ne_of_gt behind)] at misplaced
      cases misplaced
    | unwrapNative =>
      have placed := h.1
      rw [stepFault?] at placed
      split at placed
      · cases placed
      · rename_i last
        rw [List.length_cons] at total
        have nothing : rest = [] := List.length_eq_zero_iff.1 (by omega)
        subst nothing
        refine ⟨true, [], rfl, fun _ => ?_⟩
        split at placed
        · assumption
        · cases placed

theorem wrapFaultFrom?_append {position : Nat} {steps more : List Step} :
    leg.wrapFaultFrom? network position (steps ++ more) = none ↔
      leg.wrapFaultFrom? network position steps = none ∧
      leg.wrapFaultFrom? network (position + steps.length) more = none := by
  induction steps generalizing position with
  | nil => simp [wrapFaultFrom?]
  | cons step rest ih =>
    rw [List.cons_append, wrapFaultFrom?, wrapFaultFrom?, Option.or_eq_none_iff,
      Option.or_eq_none_iff, ih, and_assoc, List.length_cons, Nat.add_right_comm, Nat.add_assoc]

theorem wrapFaultFrom?_swaps {position : Nat} {hops : List Hop} :
    leg.wrapFaultFrom? network position (hops.map .swap) = none := by
  induction hops generalizing position with
  | nil => rfl
  | cons hop rest ih => rw [List.map_cons, wrapFaultFrom?, stepFault?, ih, Option.or_none]

theorem IsOrdered.wrapFault? (h : leg.IsOrdered network) : leg.wrapFault? network = none := by
  obtain ⟨wraps, unwraps, hops, nonempty, steps, source, destination⟩ := h
  have size := congrArg List.length steps
  rw [Leg.wrapFault?, steps, wrapFaultFrom?_append, wrapFaultFrom?_append]
  refine ⟨⟨?_, wrapFaultFrom?_swaps⟩, ?_⟩
  · cases wraps with
    | false => rfl
    | true => simp [wrapFaultFrom?, stepFault?, source]
  · cases unwraps with
    | false => rfl
    | true =>
      simp only [List.length_append, if_true, List.length_cons, List.length_nil] at size
      simp [wrapFaultFrom?, stepFault?, destination, size]

theorem hops_of_steps {wraps unwraps : Bool} {hops : List Hop}
    (steps : leg.steps = (if wraps then [Step.wrapNative] else []) ++ hops.map Step.swap
      ++ (if unwraps then [Step.unwrapNative] else [])) : leg.hops = hops := by
  have swaps : (hops.map Step.swap).filterMap Step.hop? = hops := by
    rw [List.filterMap_map]
    exact List.filterMap_some
  have none : (if wraps then [Step.wrapNative] else []).filterMap Step.hop? = [] ∧
      (if unwraps then [Step.unwrapNative] else []).filterMap Step.hop? = [] := by
    cases wraps <;> cases unwraps <;> exact ⟨rfl, rfl⟩
  rw [Leg.hops, steps, List.filterMap_append, List.filterMap_append, swaps, none.1, none.2,
    List.nil_append, List.append_nil]

/-- The checks of a leg's steps pass exactly if wrapping comes first and unwrapping last, each at most
once and at an end that is the native token. -/
theorem wrapFault?_eq_none_iff :
    leg.wrapFault? network = none ∧ leg.hops ≠ [] ↔ leg.IsOrdered network := by
  constructor
  · rintro ⟨sound, nonempty⟩
    cases steps : leg.steps with
    | nil =>
      rw [Leg.hops, steps] at nonempty
      exact absurd rfl nonempty
    | cons first rest =>
      have total : leg.steps.length = 1 + rest.length := by
        rw [steps, List.length_cons, Nat.add_comm]
      rw [wrapFault?, steps, wrapFaultFrom?, Option.or_eq_none_iff] at sound
      -- A first step that unwraps is also the last one, which leaves no hop.
      cases first with
      | swap hop =>
        obtain ⟨unwraps, hops, rfl, native⟩ :=
          exists_hops_of_wrapFaultFrom? sound.2 Nat.one_pos total
        exact ⟨false, unwraps, hop :: hops, by simp, steps, nofun, native⟩
      | wrapNative =>
        obtain ⟨unwraps, hops, rfl, native⟩ :=
          exists_hops_of_wrapFaultFrom? sound.2 Nat.one_pos total
        have shape : leg.steps = (if true then [Step.wrapNative] else []) ++ hops.map Step.swap
            ++ (if unwraps then [Step.unwrapNative] else []) := steps
        rw [hops_of_steps shape] at nonempty
        refine ⟨true, unwraps, hops, nonempty, shape, fun _ => ?_, native⟩
        have placed := sound.1
        rw [stepFault?, if_neg (by simp)] at placed
        split at placed
        · assumption
        · cases placed
      | unwrapNative =>
        have placed := sound.1
        rw [stepFault?] at placed
        split at placed
        · cases placed
        · have nothing : rest = [] := List.length_eq_zero_iff.1 (by omega)
          rw [Leg.hops, steps, nothing] at nonempty
          exact absurd rfl nonempty
  · intro ordered
    refine ⟨ordered.wrapFault?, ?_⟩
    obtain ⟨wraps, unwraps, hops, nonempty, steps, _, _⟩ := ordered
    rw [hops_of_steps steps]
    exact nonempty

end Leg
end SwapPlan
