import SwapPlan.Proofs.Plan.Acceptance
/-!
# Hops in another order

A leg is split over its hops, and none of them looks at the others.  With the hops of a leg in another
order a route compiles just as well, and to the same records, those of the hops in that order
(`Compiler.compile_reordered`).
-/
set_option autoImplicit false

namespace SwapPlan

namespace Step

inductive SameKind : Step → Step → Prop
  | swap (hop other : Hop) : SameKind (.swap hop) (.swap other)
  | wrapNative : SameKind .wrapNative .wrapNative
  | unwrapNative : SameKind .unwrapNative .unwrapNative

def withHops : List Step → List Hop → List Step
  | swap _ :: rest, hop :: hops => swap hop :: withHops rest hops
  | step :: rest, hops => step :: withHops rest hops
  | [], _ => []

theorem SameKind.refl (step : Step) : SameKind step step := by
  cases step <;> constructor

theorem withHops_sameKind (steps : List Step) (hops : List Hop) :
    List.Forall₂ SameKind steps (withHops steps hops) := by
  induction steps, hops using withHops.induct with
  | case1 old rest hop hops ih => exact .cons (.swap old hop) ih
  | case2 step rest hops other ih =>
    rw [withHops]
    · exact .cons (.refl step) ih
    · exact other
  | case3 hops => exact .nil

theorem hops_withHops {steps : List Step} {hops : List Hop}
    (count : (steps.filterMap hop?).length = hops.length) :
    (withHops steps hops).filterMap hop? = hops := by
  induction steps generalizing hops with
  | nil => exact (List.length_eq_zero_iff.1 count.symm).symm
  | cons step rest ih =>
    cases step with
    | swap old =>
      cases hops with
      | nil => cases count
      | cons hop hops =>
        rw [withHops]
        exact congrArg (hop :: ·) (ih (Nat.succ.inj count))
    | wrapNative => exact ih count
    | unwrapNative => exact ih count

end Step

namespace Leg

variable {network : Network} {leg other : Leg}

/-- The leg with its swaps in another order.  Steps that wrap or unwrap stay where they are. -/
def reordered (leg : Leg) (σ : Equiv.Perm (Fin leg.hops.length)) : Leg :=
  { leg with steps := Step.withHops leg.steps (List.ofFn (leg.hops.get ∘ σ)) }

theorem hops_reordered (leg : Leg) (σ : Equiv.Perm (Fin leg.hops.length)) :
    (leg.reordered σ).hops = List.ofFn (leg.hops.get ∘ σ) :=
  Step.hops_withHops List.length_ofFn.symm

example (srcToken destToken : Address) (hop other : Hop) :
    (⟨srcToken, destToken, [.wrapNative, .swap hop, .swap other]⟩ : Leg).reordered (finRotate 2) =
      ⟨srcToken, destToken, [.wrapNative, .swap other, .swap hop]⟩ := rfl

theorem perm_reordered (leg : Leg) (σ : Equiv.Perm (Fin leg.hops.length)) :
    (leg.reordered σ).hops.Perm leg.hops := by
  have perm := σ.ofFn_comp_perm leg.hops.get
  rwa [List.ofFn_get, ← leg.hops_reordered σ] at perm

/-- Legs that have the same tokens, steps of the same kinds, and the same hops in some order. -/
structure Alike (leg other : Leg) : Prop where
  srcToken : other.srcToken = leg.srcToken
  destToken : other.destToken = leg.destToken
  kinds : List.Forall₂ Step.SameKind leg.steps other.steps
  hops : other.hops.Perm leg.hops

theorem Alike.refl (leg : Leg) : leg.Alike leg :=
  ⟨rfl, rfl, List.forall₂_same.2 fun step _ => .refl step, .refl _⟩

theorem alike_reordered (leg : Leg) (σ : Equiv.Perm (Fin leg.hops.length)) :
    leg.Alike (leg.reordered σ) where
  srcToken := rfl
  destToken := rfl
  kinds := Step.withHops_sameKind _ _
  hops := leg.perm_reordered σ

namespace Alike

theorem sum_eq (h : leg.Alike other) (f : Hop → Nat) :
    other.hops.foldr (fun hop sum => f hop + sum) 0 =
      leg.hops.foldr (fun hop sum => f hop + sum) 0 := by
  have sums := (h.hops.map f).sum_eq
  rwa [List.sum_eq_foldr, List.sum_eq_foldr, List.foldr_map, List.foldr_map] at sums

theorem splitTotal (h : leg.Alike other) : other.splitTotal = leg.splitTotal := by
  rw [Leg.splitTotal, h.sum_eq, Leg.splitTotal]

theorem total? (h : leg.Alike other) (field : AmountField) :
    other.total? field = leg.total? field := by
  rw [Leg.total?, h.sum_eq, Leg.total?]

theorem any_eq {p : Step → Bool} (h : leg.Alike other)
    (same : ∀ step second, step.SameKind second → p second = p step) :
    other.steps.any p = leg.steps.any p := by
  have kinds := h.kinds
  revert kinds
  generalize leg.steps = steps
  generalize other.steps = others
  intro kinds
  induction kinds with
  | nil => rfl
  | cons head _ ih => rw [List.any_cons, List.any_cons, same _ _ head, ih]

theorem asksWrap (h : leg.Alike other) : other.asksWrap = leg.asksWrap :=
  h.any_eq fun _ _ same => by cases same <;> rfl

theorem asksUnwrap (h : leg.Alike other) : other.asksUnwrap = leg.asksUnwrap :=
  h.any_eq fun _ _ same => by cases same <;> rfl

theorem stepFault? (h : leg.Alike other) {step second : Step} (same : step.SameKind second)
    (position : Nat) :
    other.stepFault? network position second = leg.stepFault? network position step := by
  have size := h.kinds.length_eq.symm
  cases same <;> simp only [Leg.stepFault?, h.srcToken, h.destToken, size]

theorem wrapFault? (h : leg.Alike other) : other.wrapFault? network = leg.wrapFault? network := by
  have from? {steps others : List Step} (kinds : List.Forall₂ Step.SameKind steps others)
      (position : Nat) : other.wrapFaultFrom? network position others =
        leg.wrapFaultFrom? network position steps := by
    induction kinds generalizing position with
    | nil => rfl
    | cons head _ ih =>
      rw [Leg.wrapFaultFrom?, Leg.wrapFaultFrom?, h.stepFault? head, ih]
  exact from? h.kinds 0

end Alike
end Leg

namespace Route

def outline (leg : Leg) : Address × Address × Bool :=
  (leg.srcToken, leg.destToken, leg.hops.isEmpty)

/-- The shape of a route is that of its outlines. -/
theorem fault?_eq_none_iff_outlines {route : Route} :
    route.fault? = none ↔
      (∃ first, (route.legs.map outline).head? = some first ∧ first.1 = route.srcToken) ∧
      (∃ last, (route.legs.map outline).getLast? = some last ∧ last.2.1 = route.destToken) ∧
      (route.legs.map outline).IsChain (fun leg next => leg.2.1 = next.1) ∧
      ∀ leg ∈ route.legs.map outline, leg.2.2 = false := by
  have first : (∃ first, (route.legs.map outline).head? = some first ∧
      first.1 = route.srcToken) ↔
      ∃ first, route.legs.head? = some first ∧ first.srcToken = route.srcToken := by
    cases route.legs <;> simp [outline]
  have last : (∃ last, (route.legs.map outline).getLast? = some last ∧
      last.2.1 = route.destToken) ↔
      ∃ last, route.legs.getLast? = some last ∧ last.destToken = route.destToken := by
    rw [List.getLast?_map]
    cases route.legs.getLast? <;> simp [outline]
  rw [fault?_eq_none_iff, first, last, List.isChain_map, List.forall_mem_map]
  simp only [outline, List.isEmpty_eq_false_iff]
  constructor
  · rintro ⟨⟨starts, ends, chained⟩, nonempty⟩
    exact ⟨starts, ends, chained, nonempty⟩
  · rintro ⟨starts, ends, chained, nonempty⟩
    exact ⟨⟨starts, ends, chained⟩, nonempty⟩

theorem fault?_alike {route : Route} {before after : List Leg} {leg other : Leg}
    (h : leg.Alike other) :
    ({ route with legs := before ++ other :: after } : Route).fault? = none ↔
      ({ route with legs := before ++ leg :: after } : Route).fault? = none := by
  have same : outline other = outline leg := by
    rw [outline, outline, h.srcToken, h.destToken, h.hops.isEmpty_eq]
  simp only [fault?_eq_none_iff_outlines, List.map_append, List.map_cons, same]

end Route

namespace Compiler

variable {compiler : Compiler} {side : Side} {recipient : Address} {layout : HeaderLayout}
  {chained : Bool} {leg other : Leg}

structure LegParts (compiler : Compiler) (side : Side) (recipient : Address)
    (layout : HeaderLayout) (chained : Bool) (leg : Leg) {n : Nat} (hops : Fin n → Hop)
    (calls : Fin n → ExecutorCall) (wrap : List Record) (made : Fin n → Record)
    (unwrap : List Record) : Prop where
  order : leg.hops = List.ofFn hops
  shares : leg.splitTotal = 100
  placed : leg.wrapFault? compiler.network = none
  called : ∀ k, compiler.Calls side recipient leg (hops k) (calls k)
  uniform : (compiler.edges leg (List.ofFn calls)).wrap = true ∨
    (compiler.edges leg (List.ofFn calls)).unwrap = true → ∀ k, (calls k).needsWrap = true
  wraps : compiler.EdgePacks layout leg (compiler.edges leg (List.ofFn calls)).wrap .srcAmount .wrap
    wrap
  packs : ∀ k, (calls k).Packs (compiler.edges leg (List.ofFn calls)).flags chained layout (made k)
  unwraps : compiler.EdgePacks layout leg (compiler.edges leg (List.ofFn calls)).unwrap .destAmount
    .unwrap unwrap

theorem legPacks_iff_parts {n : Nat} {hops : Fin n → Hop} (all : leg.hops = List.ofFn hops)
    {records : List Record} :
    compiler.LegPacks side recipient layout chained leg records ↔
      ∃ calls wrap made unwrap,
        compiler.LegParts side recipient layout chained leg hops calls wrap made unwrap ∧
        records = wrap ++ List.ofFn made ++ unwrap := by
  constructor
  · rintro ⟨shares, placed, calls, wrap, made, unwrap, called, uniform, wraps, packs, unwraps, rfl⟩
    rw [all] at called
    obtain ⟨calls, rfl⟩ := exists_ofFn_of_forall₂ called
    obtain ⟨made, rfl⟩ := exists_ofFn_of_forall₂ packs
    rw [List.forall_mem_ofFn_iff] at uniform
    exact ⟨calls, wrap, made, unwrap, ⟨all, shares, placed, forall₂_ofFn_iff.1 called, uniform, wraps,
      forall₂_ofFn_iff.1 packs, unwraps⟩, rfl⟩
  · rintro ⟨calls, wrap, made, unwrap, parts, rfl⟩
    have called := forall₂_ofFn_iff.2 parts.called
    rw [← all] at called
    exact ⟨parts.shares, parts.placed, List.ofFn calls, wrap, List.ofFn made, unwrap, called,
      fun edge => List.forall_mem_ofFn_iff.2 (parts.uniform edge), parts.wraps,
      forall₂_ofFn_iff.2 parts.packs, parts.unwraps, rfl⟩

theorem edges_alike (h : leg.Alike other) {calls others : List ExecutorCall}
    (perm : others.Perm calls) : compiler.edges other others = compiler.edges leg calls := by
  rw [edges, edges, h.asksWrap, h.asksUnwrap, h.srcToken, h.destToken, perm.any_eq]

theorem edgePacks_alike (h : leg.Alike other) {needed : Bool} {field : AmountField}
    {conversion : NativeWrapper.Conversion} {records : List Record} :
    compiler.EdgePacks layout other needed field conversion records ↔
      compiler.EdgePacks layout leg needed field conversion records := by
  rw [EdgePacks, h.total?, EdgePacks]

theorem calls_alike_iff (h : leg.Alike other) {hop : Hop} {call : ExecutorCall} :
    compiler.Calls side recipient other hop call ↔ compiler.Calls side recipient leg hop call := by
  rw [Calls, h.srcToken, h.destToken, Calls]

/-- No part of a leg's records depends on the order of the hops. -/
theorem legParts_reordered {n : Nat} {hops : Fin n → Hop} {calls : Fin n → ExecutorCall}
    {wrap unwrap : List Record} {made : Fin n → Record} (σ : Equiv.Perm (Fin n))
    (h : leg.Alike other) (all : leg.hops = List.ofFn hops)
    (reordered : other.hops = List.ofFn (hops ∘ σ)) :
    compiler.LegParts side recipient layout chained other (hops ∘ σ) (calls ∘ σ) wrap (made ∘ σ)
        unwrap ↔
      compiler.LegParts side recipient layout chained leg hops calls wrap made unwrap := by
  have same : compiler.edges other (List.ofFn (calls ∘ σ)) =
      compiler.edges leg (List.ofFn calls) := edges_alike h (σ.ofFn_comp_perm calls)
  have each (p : Fin n → Prop) : (∀ k, p (σ k)) ↔ ∀ k, p k := σ.forall_congr_right
  constructor
  · rintro ⟨_, shares, placed, called, uniform, wraps, packs, unwraps⟩
    rw [same] at uniform wraps packs unwraps
    exact ⟨all, h.splitTotal ▸ shares, h.wrapFault? ▸ placed,
      (each _).1 fun k => (calls_alike_iff h).1 (called k), fun edge => (each _).1 (uniform edge),
      (edgePacks_alike h).1 wraps, (each _).1 packs, (edgePacks_alike h).1 unwraps⟩
  · rintro ⟨_, shares, placed, called, uniform, wraps, packs, unwraps⟩
    rw [← same] at uniform wraps packs unwraps
    exact ⟨reordered, h.splitTotal.trans shares, h.wrapFault?.trans placed,
      fun k => (calls_alike_iff h).2 (called (σ k)), fun edge k => uniform edge (σ k),
      (edgePacks_alike h).2 wraps, fun k => packs (σ k), (edgePacks_alike h).2 unwraps⟩

theorem exists_parts_reordered {n : Nat} {hops : Fin n → Hop} (σ : Equiv.Perm (Fin n))
    (h : leg.Alike other) (all : leg.hops = List.ofFn hops)
    (reordered : other.hops = List.ofFn (hops ∘ σ)) {records : List Record} :
    compiler.LegPacks side recipient layout chained other records ↔
      ∃ calls wrap made unwrap,
        compiler.LegParts side recipient layout chained leg hops calls wrap made unwrap ∧
        records = wrap ++ List.ofFn (made ∘ σ) ++ unwrap := by
  rw [legPacks_iff_parts reordered]
  constructor
  · rintro ⟨calls, wrap, made, unwrap, parts, rfl⟩
    -- Every choice for the other order is one for the leg's own, taken back to it.
    have back {α : Type} (f : Fin n → α) : (f ∘ σ.symm) ∘ σ = f := by
      funext k
      exact congrArg f (σ.symm_apply_apply k)
    rw [← back calls, ← back made] at parts
    exact ⟨calls ∘ σ.symm, wrap, made ∘ σ.symm, unwrap,
      (legParts_reordered σ h all reordered).1 parts, by rw [back]⟩
  · rintro ⟨calls, wrap, made, unwrap, parts, rfl⟩
    exact ⟨calls ∘ σ, wrap, made ∘ σ, unwrap, (legParts_reordered σ h all reordered).2 parts, rfl⟩

theorem compile_around_eq_ok_iff {route : Route} {before after : List Leg} {executor : Executor}
    {plan : Plan} :
    compiler.compile { route with legs := before ++ leg :: after } executor = .ok plan ↔
      ∃ recipient front part back, compiler.network.executorAddress? executor = some recipient ∧
        ({ route with legs := before ++ leg :: after } : Route).fault? = none ∧
        compiler.legsRecords ⟨route.side, executor.layout, recipient, 0, 0⟩ before = .ok front ∧
        compiler.LegPacks route.side recipient executor.layout (0 < before.length) leg part ∧
        compiler.legsRecords
          (LegContext.behind ⟨route.side, executor.layout, recipient, 0, 0⟩ (before ++ [leg]))
          after = .ok back ∧
        plan = ⟨executor, front ++ part ++ back, compiler.network.tokenTransferProxy, recipient⟩ := by
  have next (context : LegContext) :
      (context.behind before).behind [leg] = context.behind (before ++ [leg]) := by
    simp [LegContext.behind, Nat.add_assoc]
  have chained (context : LegContext) (first : context.leg = 0) :
      (context.behind before).leg = before.length := by
    rw [LegContext.behind, first, Nat.zero_add]
  simp only [compile_eq_ok_iff, legsRecords_append_eq_ok_iff, legsRecords_cons_eq_ok_iff, next,
    chained]
  constructor
  · rintro ⟨recipient, _, known, shape, ⟨front, _, first, ⟨part, back, packed, last, rfl⟩, rfl⟩, rfl⟩
    exact ⟨recipient, front, part, back, known, shape, first, packed, last, by simp⟩
  · rintro ⟨recipient, front, part, back, known, shape, first, packed, last, rfl⟩
    exact ⟨recipient, _, known, shape, ⟨front, _, first, ⟨part, back, packed, last, rfl⟩, rfl⟩,
      by simp⟩

structure RouteParts (compiler : Compiler) (executor : Executor) (side : Side) (recipient : Address)
    (before : List Leg) (leg : Leg) (after : List Leg) (front : List Record)
    (calls : Fin leg.hops.length → ExecutorCall) (wrap : List Record)
    (made : Fin leg.hops.length → Record) (unwrap back : List Record) : Prop where
  first : compiler.legsRecords ⟨side, executor.layout, recipient, 0, 0⟩ before = .ok front
  parts : compiler.LegParts side recipient executor.layout (0 < before.length) leg leg.hops.get calls
    wrap made unwrap
  last : compiler.legsRecords
    (LegContext.behind ⟨side, executor.layout, recipient, 0, 0⟩ (before ++ [leg])) after = .ok back

theorem compile_alike_eq_ok_iff (compiler : Compiler) (executor : Executor) (route : Route)
    (before after : List Leg) (plan : Plan) (σ : Equiv.Perm (Fin leg.hops.length)) (h : leg.Alike other)
    (reordered : other.hops = List.ofFn (leg.hops.get ∘ σ)) :
    compiler.compile { route with legs := before ++ other :: after } executor = .ok plan ↔
      ∃ recipient front calls wrap made unwrap back,
        compiler.network.executorAddress? executor = some recipient ∧
        ({ route with legs := before ++ leg :: after } : Route).fault? = none ∧
        compiler.RouteParts executor route.side recipient before leg after front calls wrap made unwrap
          back ∧
        plan = ⟨executor, front ++ (wrap ++ List.ofFn (made ∘ σ) ++ unwrap) ++ back,
          compiler.network.tokenTransferProxy, recipient⟩ := by
  have order : leg.hops = List.ofFn leg.hops.get := (List.ofFn_get _).symm
  have counts (context : LegContext) :
      context.behind (before ++ [other]) = context.behind (before ++ [leg]) := by
    simp [LegContext.behind, h.hops.length_eq]
  simp only [compile_around_eq_ok_iff, Route.fault?_alike h, counts,
    exists_parts_reordered σ h order reordered]
  constructor
  · rintro ⟨recipient, front, _, back, known, shape, first,
      ⟨calls, wrap, made, unwrap, parts, rfl⟩, last, rfl⟩
    exact ⟨recipient, front, calls, wrap, made, unwrap, back, known, shape, ⟨first, parts, last⟩, rfl⟩
  · rintro ⟨recipient, front, calls, wrap, made, unwrap, back, known, shape, ⟨first, parts, last⟩, rfl⟩
    exact ⟨recipient, front, _, back, known, shape, first,
      ⟨calls, wrap, made, unwrap, parts, rfl⟩, last, rfl⟩

/-- A route compiles if it does with the hops of a leg in another order.  The records of the other legs
are then the same, and so are those of the leg, except that the ones of its hops stand in that order
too. -/
theorem compile_reordered (compiler : Compiler) (executor : Executor) (route : Route)
    (before after : List Leg) (leg : Leg) (σ : Equiv.Perm (Fin leg.hops.length)) :
    ((∃ plan,
        compiler.compile { route with legs := before ++ leg :: after } executor = .ok plan) ↔
      ∃ plan, compiler.compile
        { route with legs := before ++ leg.reordered σ :: after } executor = .ok plan) ∧
    ∀ plan, compiler.compile { route with legs := before ++ leg :: after } executor = .ok plan →
      ∃ front calls wrap made unwrap back,
        compiler.RouteParts executor route.side plan.targetExecutor before leg after front calls wrap
          made unwrap back ∧
        plan.records = front ++ (wrap ++ List.ofFn made ++ unwrap) ++ back ∧
        compiler.compile { route with legs := before ++ leg.reordered σ :: after } executor =
          .ok { plan with
            records := front ++ (wrap ++ List.ofFn (made ∘ σ) ++ unwrap) ++ back } := by
  have same (plan : Plan) := compile_alike_eq_ok_iff compiler executor route before after plan 1
    (.refl leg) (List.ofFn_get _).symm
  have changed (plan : Plan) := compile_alike_eq_ok_iff compiler executor route before after plan σ
    (leg.alike_reordered σ) (leg.hops_reordered σ)
  refine ⟨⟨?_, ?_⟩, ?_⟩
  · rintro ⟨plan, compiled⟩
    obtain ⟨recipient, front, calls, wrap, made, unwrap, back, known, shape, parts, _⟩ :=
      (same plan).1 compiled
    exact ⟨_, (changed _).2
      ⟨recipient, front, calls, wrap, made, unwrap, back, known, shape, parts, rfl⟩⟩
  · rintro ⟨plan, compiled⟩
    obtain ⟨recipient, front, calls, wrap, made, unwrap, back, known, shape, parts, _⟩ :=
      (changed plan).1 compiled
    exact ⟨_, (same _).2
      ⟨recipient, front, calls, wrap, made, unwrap, back, known, shape, parts, rfl⟩⟩
  · intro plan compiled
    obtain ⟨recipient, front, calls, wrap, made, unwrap, back, known, shape, parts, rfl⟩ :=
      (same plan).1 compiled
    exact ⟨front, calls, wrap, made, unwrap, back, parts, rfl, (changed _).2
      ⟨recipient, front, calls, wrap, made, unwrap, back, known, shape, parts, rfl⟩⟩

end Compiler
end SwapPlan
