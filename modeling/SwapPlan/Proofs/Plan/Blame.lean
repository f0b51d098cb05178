import SwapPlan.Proofs.Plan.Failures
/-!
# Which hop an error is about

An error that names a hop comes from the leg of that hop.  The legs before compile, and those behind do
not matter (`Compiler.compile_blames`).
-/
set_option autoImplicit false

namespace SwapPlan

/-- The legs before another one are a route to the token that it spends. -/
theorem Route.fault?_before {route : Route} {before after : List Leg} {leg : Leg}
    (h : route.fault? = none) (legs : route.legs = before ++ leg :: after) (some : before ≠ []) :
    ({ route with destToken := leg.srcToken, legs := before } : Route).fault? = none := by
  obtain ⟨⟨⟨first, head, starts⟩, _, chained⟩, nonempty⟩ := Route.fault?_eq_none_iff.1 h
  rw [legs] at head chained nonempty
  refine Route.fault?_eq_none_iff.2 ⟨⟨⟨first, ?_, starts⟩, ?_, ?_⟩, ?_⟩
  · rwa [List.head?_append_of_ne_nil _ some] at head
  · obtain ⟨last, tail⟩ : ∃ last, before.getLast? = Option.some last :=
      ⟨_, List.getLast?_eq_getLast_of_ne_nil some⟩
    exact ⟨last, tail, (List.isChain_append.1 chained).2.2 last tail leg rfl⟩
  · exact (List.isChain_append.1 chained).1
  · exact fun leg mem => nonempty leg (List.mem_append_left _ mem)

theorem Route.hopCount_eq (route : Route) :
    route.hopCount = (route.legs.flatMap Leg.hops).length := by
  rw [hopCount, List.length_flatMap, List.sum_eq_foldr, List.foldr_map]

theorem Route.getElem?_hops {route : Route} {before after : List Leg} {leg : Leg} {offset : Nat}
    (legs : route.legs = before ++ leg :: after) (inside : offset < leg.hops.length) :
    (before.map fun leg => leg.hops.length).sum + offset < route.hopCount ∧
    (route.legs.flatMap Leg.hops)[(before.map fun leg => leg.hops.length).sum + offset]? =
      leg.hops[offset]? := by
  have counted : (before.flatMap Leg.hops).length =
      (before.map fun leg => leg.hops.length).sum := List.length_flatMap
  have hops : route.legs.flatMap Leg.hops =
      before.flatMap Leg.hops ++ (leg.hops ++ after.flatMap Leg.hops) := by
    rw [legs, List.flatMap_append, List.flatMap_cons]
  constructor
  · rw [Route.hopCount_eq, hops, List.length_append, List.length_append, counted]
    omega
  · rw [hops, List.getElem?_append_right (by omega), counted, Nat.add_sub_cancel_left,
      List.getElem?_append_left inside]

theorem CompileError.hop?_ofExchange (hop : Nat) (name : String) (cause : ExchangeError) :
    (CompileError.ofExchange hop name cause).hop? = some hop := by
  cases cause <;> rfl

def LegContext.next (context : LegContext) (leg : Leg) : LegContext :=
  { context with leg := context.leg + 1, firstHop := context.firstHop + leg.hops.length }

theorem LegContext.foldl_next (legs : List Leg) (context : LegContext) :
    legs.foldl LegContext.next context = context.behind legs := by
  induction legs generalizing context with
  | nil => rfl
  | cons leg rest ih =>
    rw [List.foldl_cons, ih]
    simp [next, behind, Nat.add_assoc, Nat.add_comm 1]

namespace Compiler

variable {compiler : Compiler} {context : LegContext} {leg : Leg} {e : CompileError}

theorem LegFails.exists_hop (h : compiler.LegFails context leg e) (nonempty : leg.hops ≠ []) :
    ∃ offset < leg.hops.length, e.hop? = some (context.firstHop + offset) := by
  have first : 0 < leg.hops.length := List.length_pos_iff.2 nonempty
  cases h with
  | split => exact ⟨0, first, rfl⟩
  | misplaced => exact ⟨0, first, rfl⟩
  | @uncalled front back hop _ hops made fails =>
    refine ⟨front.length, by rw [hops]; simp, ?_⟩
    cases fails with
    | unknown => rfl
    | refused => exact CompileError.hop?_ofExchange ..
  | @mixed front back call made =>
    refine ⟨front.length, ?_, rfl⟩
    rw [made.length_eq]
    simp
  | overflow => exact ⟨0, first, rfl⟩
  | @unpacked front back call _ made packs fails =>
    refine ⟨front.length, ?_, ?_⟩
    · rw [made.length_eq]
      simp
    · cases fails <;> rfl

theorem legsRecords_eq_error_iff {legs : List Leg} :
    compiler.legsRecords context legs = .error e ↔
      ∃ before leg after, legs = before ++ leg :: after ∧
        (∃ records, compiler.legsRecords context before = .ok records) ∧
        compiler.legRecords (context.behind before) leg = .error e := by
  rw [Outcome.run_eq_error_iff compiler.legsRecords compiler.legRecords LegContext.next List.append
    (fun _ => ⟨[], rfl⟩) (fun _ _ _ => rfl)]
  simp only [LegContext.foldl_next]

theorem compile_eq_error_iff {route : Route} {executor : Executor} {h : Nat}
    (names : e.hop? = some h) :
    compiler.compile route executor = .error e ↔
      ∃ recipient, compiler.network.executorAddress? executor = some recipient ∧
        route.fault? = none ∧
        compiler.legsRecords ⟨route.side, executor.layout, recipient, 0, 0⟩ route.legs =
          .error e := by
  rw [compile]
  cases compiler.network.executorAddress? executor with
  | none =>
    refine iff_of_false ?_ (by simp)
    rintro ⟨⟩
    cases names
  | some recipient =>
    cases route.fault? with
    | some fault =>
      refine iff_of_false ?_ (by simp)
      rintro ⟨⟩
      cases names
    | none => simp [Outcome.bind_eq_error, pure, Except.pure]

/-- A swap over a single hop fails as the call of its exchange does. -/
theorem compile_single_eq_error {side : Side} {recipient srcToken destToken : Address}
    {spent gained : Word} {hop : Hop} {call : ExecutorCall} {executor : Executor}
    (known : compiler.network.executorAddress? executor = some recipient)
    (whole : hop.percent = 100)
    (called : compiler.Calls side recipient ⟨srcToken, destToken, [.swap hop]⟩ hop call)
    (fails : ∀ flags, call.Fails flags false executor.layout 0 e) :
    compiler.compile
      ⟨side, srcToken, destToken, spent, gained, [⟨srcToken, destToken, [.swap hop]⟩]⟩ executor =
        .error e := by
  let leg : Leg := ⟨srcToken, destToken, [.swap hop]⟩
  let context : LegContext := ⟨side, executor.layout, recipient, 0, 0⟩
  have names : e.hop? = some 0 := by
    cases fails .empty <;> rfl
  have total : leg.splitTotal = 100 := Leg.splitTotal_eq_hundred_iff.2 (shares_single whole)
  have placed : leg.wrapFault? compiler.network = none := ordered_single.wrapFault?
  have calls : compiler.hopCalls context leg 0 leg.hops = .ok [call] :=
    hopCalls_eq_ok_iff.2 (.cons called .nil)
  have edges : compiler.nativeEdges leg [call] 0 = .ok (compiler.edges leg [call]) := by
    refine nativeEdges_eq_ok_iff.2 ⟨rfl, ?_⟩
    rw [edges_wrap_iff, edges_unwrap_iff]
    exact uniform_single
  obtain ⟨_, wrapped⟩ : ∃ records, compiler.edgeRecord context leg
      (compiler.edges leg [call]).wrap .srcAmount .wrap 0 = .ok records := by
    simp only [edgeRecord_eq_ok_iff]
    exact exists_edgePacks_iff.2 fun _ => amount_single .srcAmount
  have hops : hopRecords context (compiler.edges leg [call]).flags 0 [call] = .error e :=
    hopRecords_eq_error_iff.2 ⟨[], call, [], rfl, by simp, fails _⟩
  have failed : compiler.legRecords context leg = .error e := by
    rw [legRecords, if_neg (not_not_intro total), placed]
    simp only [context, calls, edges, wrapped, hops, Outcome.ok_bind]
    rfl
  refine (compile_eq_error_iff names).2 ⟨recipient, known, fault?_single, ?_⟩
  exact legsRecords_eq_error_iff.2 ⟨[], leg, [], rfl, ⟨[], rfl⟩, failed⟩

/-- An error that names a hop comes from the leg of that hop, and says how the leg fails.  The legs
before it make a route that compiles, and with other legs behind it the route fails in the same way. -/
theorem compile_blames {route : Route} {executor : Executor} {h : Nat}
    (failed : compiler.compile route executor = .error e) (names : e.hop? = some h) :
    h < route.hopCount ∧
    ∃ recipient before leg after context,
      compiler.network.executorAddress? executor = some recipient ∧
      route.legs = before ++ leg :: after ∧
      context = ⟨route.side, executor.layout, recipient, before.length,
        (before.map fun leg => leg.hops.length).sum⟩ ∧
      context.firstHop ≤ h ∧ h < context.firstHop + leg.hops.length ∧
      (route.legs.flatMap Leg.hops)[h]? = leg.hops[h - context.firstHop]? ∧
      compiler.LegFails context leg e ∧
      (before ≠ [] → ∃ plan, compiler.compile
        { route with destToken := leg.srcToken, legs := before } executor = .ok plan) ∧
      ∀ others destToken,
        ({ route with destToken := destToken, legs := before ++ leg :: others } : Route).fault? =
          none →
        compiler.compile { route with destToken := destToken, legs := before ++ leg :: others }
          executor = .error e := by
  obtain ⟨recipient, known, shape, fails⟩ := (compile_eq_error_iff names).1 failed
  obtain ⟨before, leg, after, legs, ⟨records, compiled⟩, fails⟩ := legsRecords_eq_error_iff.1 fails
  have context : LegContext.behind ⟨route.side, executor.layout, recipient, 0, 0⟩ before =
      ⟨route.side, executor.layout, recipient, before.length,
        (before.map fun leg => leg.hops.length).sum⟩ := by
    simp [LegContext.behind]
  have nonempty := Route.hops_ne_nil_of_fault? shape leg
    (legs ▸ List.mem_append_right _ (List.mem_cons_self ..))
  have reason := legFails_of_eq_error fails
  rw [context] at reason
  obtain ⟨offset, inside, place⟩ := reason.exists_hop nonempty
  rw [names, Option.some.injEq] at place
  subst place
  obtain ⟨bound, hop⟩ := Route.getElem?_hops legs inside
  refine ⟨bound, recipient, before, leg, after, _, known, legs, rfl, Nat.le_add_right _ _,
    Nat.add_lt_add_left inside _, ?_, reason, ?_, ?_⟩
  · rw [hop, Nat.add_sub_cancel_left]
  · intro some
    exact ⟨_, compile_eq_ok_iff.2
      ⟨recipient, records, known, Route.fault?_before shape legs some, compiled, rfl⟩⟩
  · intro others destToken sound
    refine (compile_eq_error_iff names).2 ⟨recipient, known, sound, ?_⟩
    exact legsRecords_eq_error_iff.2 ⟨before, leg, others, rfl, ⟨records, compiled⟩, fails⟩

/-- The second hop of the second leg names no exchange. -/
theorem compile_blames_sample :
    let first : Leg := ⟨.repeated 0xEE, .repeated 0x11, [.swap (.sample .one)]⟩
    let second : Leg := ⟨.repeated 0x11, .repeated 0x33,
      [.swap { Hop.sample .one with percent := 50 }, .swap ⟨"curve", 50, .one, .one, .null⟩]⟩
    let route : Route := { Route.sample .one with
      destToken := .repeated 0x33
      legs := [first, second] }
    let e : CompileError := .unknownExchange 2 "curve"
    (ofNetwork .sample).compile route .first = .error e ∧ e.hop? = some 2 ∧
      2 < route.hopCount ∧ ∃ before leg after context,
        route.legs = before ++ leg :: after ∧ context.firstHop ≤ 2 ∧
        2 < context.firstHop + leg.hops.length ∧ (ofNetwork .sample).LegFails context leg e := by
  intro first second route e
  obtain ⟨plan, compiled⟩ := exists_compile_sample .one
  obtain ⟨recipient, records, known, _, reached, _⟩ := compile_eq_ok_iff.1 compiled
  let context : LegContext := ⟨.sell, .basic, recipient, 1, 1⟩
  have called : (ofNetwork .sample).Calls .sell recipient second
      { Hop.sample .one with percent := 50 }
      (PairRouter.swapCall ⟨.repeated 0x11, .repeated 0x33, .one, .one, .sell⟩
        [.repeated 0x11, .repeated 0x33] recipient (.repeated 0x22)) := by
    refine ⟨.pairRouter (.ofNetwork .sample), by cbv, ?_⟩
    exact PairRouter.executorCall_eq_ok_iff.2
      ⟨⟨none, []⟩, _, _, rfl, rfl, by decide +kernel, rfl⟩
  have hops : (ofNetwork .sample).hopCalls context second 1 second.hops = .error e := by
    refine hopCalls_eq_error_iff.2 ⟨[{ Hop.sample .one with percent := 50 }],
      ⟨"curve", 50, .one, .one, .null⟩, [], rfl, ?_, .unknown (by cbv)⟩
    intro x mem
    rw [List.mem_singleton.1 mem]
    exact ⟨_, called⟩
  have fails : (ofNetwork .sample).legRecords context second = .error e := by
    have even : ¬second.splitTotal ≠ 100 := by decide
    have placed : second.wrapFault? (ofNetwork .sample).network = none := rfl
    rw [legRecords, if_neg even]
    simp only [placed]
    exact Outcome.bind_eq_error.2 (.inl hops)
  have failed : (ofNetwork .sample).compile route .first = .error e := by
    refine (compile_eq_error_iff rfl).2 ⟨recipient, known, rfl, ?_⟩
    exact legsRecords_eq_error_iff.2 ⟨[first], second, [], rfl, ⟨records, reached⟩, fails⟩
  obtain ⟨bound, _, before, leg, after, context, _, legs, _, start, stop, _, reason, _⟩ :=
    compile_blames failed rfl
  exact ⟨failed, rfl, bound, before, leg, after, context, legs, start, stop, reason⟩

end Compiler
end SwapPlan
