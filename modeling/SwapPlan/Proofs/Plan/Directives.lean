import SwapPlan.Proofs.Plan.Patching
import SwapPlan.Proofs.Plan.Reordering
/-!
# Legs that ask for wrapping

A leg may ask for its input to be wrapped or its output to be unwrapped.  It may only do so where
the exchanges of its hops need the wrapped token, and there it is wrapped and unwrapped anyway.  So a
route that compiles has the same plan without the steps that ask
(`Compiler.compile_iff_withoutDirectives`).
-/
set_option autoImplicit false

namespace SwapPlan

def Leg.withoutDirectives (leg : Leg) : Leg :=
  { leg with steps := leg.steps.filter fun step => !(step.isWrap || step.isUnwrap) }

def Route.withoutDirectives (route : Route) : Route :=
  { route with legs := route.legs.map Leg.withoutDirectives }

namespace Leg

variable {network : Network}

theorem steps_withoutDirectives (leg : Leg) :
    leg.withoutDirectives.steps = leg.hops.map .swap := by
  rw [withoutDirectives, Leg.hops]
  induction leg.steps with
  | nil => rfl
  | cons step rest ih =>
    cases step with
    | swap hop => exact congrArg (Step.swap hop :: ·) ih
    | wrapNative => exact ih
    | unwrapNative => exact ih

@[simp] theorem hops_withoutDirectives (leg : Leg) : leg.withoutDirectives.hops = leg.hops := by
  rw [hops, steps_withoutDirectives, List.filterMap_map]
  exact List.filterMap_some

theorem asks_withoutDirectives (leg : Leg) :
    leg.withoutDirectives.asksWrap = false ∧ leg.withoutDirectives.asksUnwrap = false := by
  rw [asksWrap, asksUnwrap, steps_withoutDirectives, List.any_map, List.any_map]
  constructor
  · exact List.any_eq_false.2 fun _ _ => Bool.false_ne_true
  · exact List.any_eq_false.2 fun _ _ => Bool.false_ne_true

theorem wrapFault?_withoutDirectives (leg : Leg) :
    leg.withoutDirectives.wrapFault? network = none := by
  rw [wrapFault?, steps_withoutDirectives]
  exact wrapFaultFrom?_swaps

theorem splitTotal_withoutDirectives (leg : Leg) :
    leg.withoutDirectives.splitTotal = leg.splitTotal := by
  rw [splitTotal, hops_withoutDirectives, splitTotal]

theorem total?_withoutDirectives (leg : Leg) (field : AmountField) :
    leg.withoutDirectives.total? field = leg.total? field := by
  rw [total?, hops_withoutDirectives, total?]

theorem hops_ne_nil_of_splitTotal {leg : Leg} (shares : leg.splitTotal = 100) : leg.hops ≠ [] := by
  intro none
  rw [splitTotal, none] at shares
  cases shares

end Leg

theorem Route.fault?_withoutDirectives {route : Route} :
    route.withoutDirectives.fault? = none ↔ route.fault? = none := by
  have same : (route.legs.map Leg.withoutDirectives).map outline = route.legs.map outline := by
    rw [List.map_map]
    refine List.map_congr_left fun leg _ => ?_
    rw [Function.comp_apply, outline, leg.hops_withoutDirectives]
    rfl
  simp only [fault?_eq_none_iff_outlines, withoutDirectives, same]

namespace Compiler

variable {compiler : Compiler} {side : Side} {recipient : Address} {layout : HeaderLayout}
  {chained : Bool} {leg : Leg} {records : List Record}

/-- A leg may ask for wrapping: at its ends, on the native token, and for hops that all need it. -/
structure MayAsk (compiler : Compiler) (leg : Leg) : Prop where
  placed : leg.wrapFault? compiler.network = none
  needed : leg.asksWrap = true ∨ leg.asksUnwrap = true →
    ∀ hop ∈ leg.hops, (compiler.registry.find? hop.exchange).any Exchange.wrapsNative = true

/-- The records of a leg, whatever it asks for: one for each hop, and one on either side of them at
the most, where an end of the leg is the native token and an exchange needs it wrapped. -/
def LegConverts (compiler : Compiler) (side : Side) (recipient : Address) (layout : HeaderLayout)
    (chained : Bool) (leg : Leg) (records : List Record) : Prop :=
  ∃ calls wrap hops unwrap,
    List.Forall₂ (compiler.Calls side recipient leg) leg.hops calls ∧
    compiler.EdgePacks layout leg (compiler.nativeEnds leg calls).wrap .srcAmount .wrap wrap ∧
    List.Forall₂ (fun call r => call.Packs (compiler.nativeEnds leg calls).flags chained layout r)
      calls hops ∧
    compiler.EdgePacks layout leg (compiler.nativeEnds leg calls).unwrap .destAmount .unwrap
      unwrap ∧
    wrap.length ≤ 1 ∧ unwrap.length ≤ 1 ∧ records = wrap ++ hops ++ unwrap

theorem edges_withoutDirectives (compiler : Compiler) (leg : Leg) (calls : List ExecutorCall) :
    compiler.edges leg.withoutDirectives calls = compiler.nativeEnds leg calls := by
  obtain ⟨wraps, unwraps⟩ := leg.asks_withoutDirectives
  rw [edges, nativeEnds, wraps, unwraps, Bool.false_or, Bool.false_or, Bool.and_comm,
    Bool.and_comm (calls.any _)]
  rfl

theorem edgePacks_withoutDirectives {needed : Bool} {field : AmountField}
    {conversion : NativeWrapper.Conversion} :
    compiler.EdgePacks layout leg.withoutDirectives needed field conversion records ↔
      compiler.EdgePacks layout leg needed field conversion records := by
  rw [EdgePacks, leg.total?_withoutDirectives, EdgePacks]

theorem forall_wrapsNative {calls : List ExecutorCall}
    (made : List.Forall₂ (compiler.Calls side recipient leg) leg.hops calls) :
    (∀ call ∈ calls, call.needsWrap = true) ↔
      ∀ hop ∈ leg.hops, (compiler.registry.find? hop.exchange).any Exchange.wrapsNative = true :=
  forall_mem_iff_forall_mem made fun hop _ call _ called => by rw [called.needsWrap]

theorem legPacks_iff_withoutDirectives :
    compiler.LegPacks side recipient layout chained leg records ↔
      compiler.MayAsk leg ∧
      compiler.LegPacks side recipient layout chained leg.withoutDirectives records := by
  constructor
  · rintro ⟨shares, placed, calls, wrap, hops, unwrap, made, uniform, first, packed, last, rfl⟩
    have nonempty := Leg.hops_ne_nil_of_splitTotal shares
    have same := edges_eq_nativeEnds placed nonempty made uniform
    refine ⟨⟨placed, fun asks => ?_⟩, ?_⟩
    · refine (forall_wrapsNative made).1 (uniform ?_)
      exact asks.imp (fun asks => by simp [edges, asks]) fun asks => by simp [edges, asks]
    · rw [same, ← edges_withoutDirectives] at uniform first packed last
      refine ⟨leg.splitTotal_withoutDirectives.trans shares, leg.wrapFault?_withoutDirectives,
        calls, wrap, hops, unwrap, ?_, uniform, edgePacks_withoutDirectives.2 first, packed,
        edgePacks_withoutDirectives.2 last, rfl⟩
      rw [leg.hops_withoutDirectives]
      exact made
  · rintro ⟨⟨placed, needed⟩, shares, _, calls, wrap, hops, unwrap, made, uniform, first, packed,
      last, rfl⟩
    rw [leg.splitTotal_withoutDirectives] at shares
    rw [leg.hops_withoutDirectives] at made
    rw [edgePacks_withoutDirectives] at first last
    have nonempty := Leg.hops_ne_nil_of_splitTotal shares
    have uniform : (compiler.edges leg calls).wrap = true ∨
        (compiler.edges leg calls).unwrap = true → ∀ call ∈ calls, call.needsWrap = true := by
      intro edge
      by_cases asks : leg.asksWrap = true ∨ leg.asksUnwrap = true
      · exact (forall_wrapsNative made).2 (needed asks)
      · -- What is wrapped without being asked for is wrapped in the other leg, too.
        apply uniform
        rw [edges_withoutDirectives]
        simpa [edges, nativeEnds, not_or.1 asks, and_comm] using edge
    rw [edges_withoutDirectives, ← edges_eq_nativeEnds placed nonempty made uniform]
      at first packed last
    exact ⟨shares, placed, calls, wrap, hops, unwrap, made, uniform, first, packed, last, rfl⟩

theorem LegPacks.converts (h : compiler.LegPacks side recipient layout chained leg records) :
    compiler.LegConverts side recipient layout chained leg records := by
  obtain ⟨shares, placed, calls, wrap, hops, unwrap, made, uniform, first, packed, last, rfl⟩ := h
  have nonempty := Leg.hops_ne_nil_of_splitTotal shares
  rw [edges_eq_nativeEnds placed nonempty made uniform] at first packed last
  refine ⟨calls, wrap, hops, unwrap, made, first, packed, last, ?_, ?_, rfl⟩
  · rw [first.length_eq]
    exact Bool.toNat_le _
  · rw [last.length_eq]
    exact Bool.toNat_le _

theorem legsRecords_iff_withoutDirectives {context : LegContext} {legs : List Leg} :
    compiler.legsRecords context legs = .ok records ↔
      (∀ leg ∈ legs, compiler.MayAsk leg) ∧
      compiler.legsRecords context (legs.map Leg.withoutDirectives) = .ok records := by
  induction legs generalizing context records with
  | nil => simp
  | cons leg rest ih =>
    have next : context.behind [leg.withoutDirectives] = context.behind [leg] := by
      simp [LegContext.behind]
    rw [List.map_cons, legsRecords_cons_eq_ok_iff, legsRecords_cons_eq_ok_iff, next,
      List.forall_mem_cons]
    constructor
    · rintro ⟨first, others, packed, compiled, rfl⟩
      obtain ⟨may, packed⟩ := legPacks_iff_withoutDirectives.1 packed
      obtain ⟨all, compiled⟩ := ih.1 compiled
      exact ⟨⟨may, all⟩, first, others, packed, compiled, rfl⟩
    · rintro ⟨⟨may, all⟩, first, others, packed, compiled, rfl⟩
      have asked := legPacks_iff_withoutDirectives.2 ⟨may, packed⟩
      exact ⟨first, others, asked, ih.2 ⟨all, compiled⟩, rfl⟩

/-- A route has the plan that it has without asking for wrapping, if its legs may ask. -/
theorem compile_iff_withoutDirectives {route : Route} {executor : Executor} {plan : Plan} :
    compiler.compile route executor = .ok plan ↔
      (∀ leg ∈ route.legs, compiler.MayAsk leg) ∧
      compiler.compile route.withoutDirectives executor = .ok plan := by
  rw [compile_eq_ok_iff, compile_eq_ok_iff, Route.fault?_withoutDirectives]
  constructor
  · rintro ⟨recipient, records, known, shape, compiled, rfl⟩
    obtain ⟨may, compiled⟩ := legsRecords_iff_withoutDirectives.1 compiled
    exact ⟨may, recipient, records, known, shape, compiled, rfl⟩
  · rintro ⟨may, recipient, records, known, shape, compiled, rfl⟩
    have asked := legsRecords_iff_withoutDirectives.2 ⟨may, compiled⟩
    exact ⟨recipient, records, known, shape, asked, rfl⟩

/-- A compiled route has the same plan without the steps that ask for wrapping, data and records.
Its legs have at most one record before the hops and one behind them, whether they ask or not. -/
theorem compile_withoutDirectives {route : Route} {executor : Executor} {plan : Plan}
    (h : compiler.compile route executor = .ok plan) :
    compiler.compile route.withoutDirectives executor = .ok plan ∧
    ∃ parts, List.Forall₂ (fun entry part => compiler.LegConverts route.side plan.targetExecutor
        executor.layout (0 < entry.2) entry.1 part) route.legs.zipIdx parts ∧
      plan.records = parts.flatten := by
  refine ⟨(compile_iff_withoutDirectives.1 h).2, ?_⟩
  obtain ⟨recipient, records, _, _, compiled, rfl⟩ := compile_eq_ok_iff.1 h
  obtain ⟨parts, packs, rfl⟩ := legsRecords_eq_ok_iff.1 compiled
  exact ⟨parts, packs.imp fun _ _ => LegPacks.converts, rfl⟩

def askingRoute : Route :=
  { Route.sample .one with legs := [⟨.repeated 0xEE, .repeated 0x11,
      [.wrapNative, .swap (.sample .one)]⟩] }

theorem compile_withoutDirectives_asking :
    ∃ plan, (ofNetwork .sample).compile askingRoute .first = .ok plan ∧
      (ofNetwork .sample).compile (.sample .one) .first = .ok plan ∧
      ∃ parts, List.Forall₂ (fun entry part => (ofNetwork .sample).LegConverts .sell
          plan.targetExecutor .basic (0 < entry.2) entry.1 part) askingRoute.legs.zipIdx parts ∧
        plan.records = parts.flatten := by
  obtain ⟨plan, plain⟩ := exists_compile_sample .one
  have may : ∀ leg ∈ askingRoute.legs, (ofNetwork .sample).MayAsk leg := by
    intro leg mem
    rw [List.mem_singleton.1 mem]
    refine ⟨by decide, fun _ hop swaps => ?_⟩
    rw [List.mem_singleton.1 swaps]
    cbv
  have asked := compile_iff_withoutDirectives.2 ⟨may, plain⟩
  exact ⟨plan, asked, compile_withoutDirectives asked⟩

end Compiler
end SwapPlan
