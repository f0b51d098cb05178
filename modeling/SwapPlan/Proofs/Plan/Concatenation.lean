import SwapPlan.Proofs.Plan.Reading
import SwapPlan.Proofs.Plan.Shape
import SwapPlan.Proofs.Pointwise
/-!
# Routes leg by leg

A leg compiles alike on its own and inside a route: what stands before it is only counted, for errors,
and a leg behind the first has to say where its calls take the amount they spend.  So the plan of a
route is the plans of its legs, one behind the other (`Compiler.compile_ofLegs`).
-/
set_option autoImplicit false

namespace SwapPlan

/-- The route over a first leg and the rest, from the token that the first leg spends to the one that
the last leg gains. -/
def Route.ofLegs (side : Side) (first : Leg) (rest : List Leg) (srcAmount destAmount : Word) :
    Route where
  side := side
  srcToken := first.srcToken
  destToken := ((first :: rest).getLast (List.cons_ne_nil first rest)).destToken
  srcAmount := srcAmount
  destAmount := destAmount
  legs := first :: rest

theorem Route.fault?_ofLegs {side : Side} {first : Leg} {rest : List Leg} {spent gained : Word} :
    (Route.ofLegs side first rest spent gained).fault? = none ↔
      ((first :: rest).IsChain fun leg next => leg.destToken = next.srcToken) ∧
      ∀ leg ∈ first :: rest, leg.hops ≠ [] := by
  have tail : (Route.ofLegs side first rest spent gained).legs.getLast? =
      some ((first :: rest).getLast (List.cons_ne_nil first rest)) :=
    List.getLast?_eq_getLast_of_ne_nil _
  rw [fault?_eq_none_iff, joined_iff rfl tail]
  simp [ofLegs]

/-- A call that has a position for the amount it spends. -/
def ExecutorCall.Exposes (call : ExecutorCall) : Prop :=
  ∃ positions, call.layout.positions call.calldata = .ok positions ∧ positions.fromAmount ≠ none

theorem ExecutorCall.packs_chained_iff {call : ExecutorCall} {flags : Flags}
    {layout : HeaderLayout} {record : Record} :
    call.Packs flags true layout record ↔ call.Exposes ∧ call.Packs flags false layout record := by
  constructor
  · rintro ⟨positions, resolved, exposed, encoded⟩
    exact ⟨⟨positions, resolved, exposed rfl⟩, positions, resolved, nofun, encoded⟩
  · rintro ⟨⟨positions, resolved, exposed⟩, _, again, _, encoded⟩
    cases resolved.symm.trans again
    exact ⟨positions, resolved, fun _ => exposed, encoded⟩

namespace Compiler

variable {compiler : Compiler} {executor : Executor} {side : Side} {recipient : Address}
  {layout : HeaderLayout} {first leg : Leg} {rest legs : List Leg} {spent gained : Word}

def Exposes (compiler : Compiler) (side : Side) (recipient : Address) (leg : Leg) : Prop :=
  ∀ hop ∈ leg.hops, ∃ call, compiler.Calls side recipient leg hop call ∧ call.Exposes

theorem legPacks_chained_iff {records : List Record} :
    compiler.LegPacks side recipient layout true leg records ↔
      compiler.Exposes side recipient leg ∧
      compiler.LegPacks side recipient layout false leg records := by
  have unique : Relator.RightUnique (compiler.Calls side recipient leg) := fun _ _ _ => Calls.unique
  simp only [LegPacks, ExecutorCall.packs_chained_iff, List.forall₂_and_left]
  constructor
  · rintro ⟨shares, placed, calls, before, hops, after, made, uniform, wrapped, ⟨exposed, packed⟩,
      unwrapped, rfl⟩
    exact ⟨(forall_mem_iff_of_forall₂ unique made).1 exposed, shares, placed, calls, before, hops,
      after, made, uniform, wrapped, packed, unwrapped, rfl⟩
  · rintro ⟨exposed, shares, placed, calls, before, hops, after, made, uniform, wrapped, packed,
      unwrapped, rfl⟩
    exact ⟨shares, placed, calls, before, hops, after, made, uniform, wrapped,
      ⟨(forall_mem_iff_of_forall₂ unique made).2 exposed, packed⟩, unwrapped, rfl⟩

/-- Legs behind the first of a route compile as they do on their own, if they expose what they
spend. -/
theorem legsRecords_behind_eq_ok_iff {context : LegContext} {records : List Record}
    (behind : 0 < context.leg) :
    compiler.legsRecords context legs = .ok records ↔
      (∀ leg ∈ legs, compiler.Exposes context.side context.recipient leg) ∧
      ∃ parts, List.Forall₂ (compiler.LegPacks context.side context.recipient context.layout false)
          legs parts ∧
        records = parts.flatten := by
  induction legs generalizing context records with
  | nil => simp [legsRecords, eq_comm]
  | cons leg rest ih =>
    have later : 0 < (context.behind [leg]).leg := Nat.add_pos_left behind 1
    simp only [legsRecords_cons_eq_ok_iff, ih later, behind, decide_true, legPacks_chained_iff,
      List.forall_mem_cons, List.forall₂_cons_left_iff]
    constructor
    · rintro ⟨first, _, ⟨exposed, packed⟩, ⟨all, parts, packs, rfl⟩, rfl⟩
      exact ⟨⟨exposed, all⟩, first :: parts, ⟨first, parts, packed, packs, rfl⟩, rfl⟩
    · rintro ⟨⟨exposed, all⟩, _, ⟨first, parts, packed, packs, rfl⟩, rfl⟩
      exact ⟨first, parts.flatten, ⟨exposed, packed⟩, ⟨all, parts, packs, rfl⟩, rfl⟩

def LegRecords (compiler : Compiler) (side : Side) (recipient : Address) (layout : HeaderLayout)
    (leg : Leg) (records : List Record) : Prop :=
  leg.hops ≠ [] ∧ compiler.LegPacks side recipient layout false leg records

theorem forall₂_legRecords_iff {parts : List (List Record)} :
    List.Forall₂ (compiler.LegRecords side recipient layout) legs parts ↔
      (∀ leg ∈ legs, leg.hops ≠ []) ∧
      List.Forall₂ (compiler.LegPacks side recipient layout false) legs parts :=
  List.forall₂_and_left _ _

theorem legsRecords_ofLegs_eq_ok_iff {records : List Record} :
    compiler.legsRecords ⟨side, layout, recipient, 0, 0⟩ (first :: rest) = .ok records ↔
      (∀ leg ∈ rest, compiler.Exposes side recipient leg) ∧
      ∃ parts, List.Forall₂ (compiler.LegPacks side recipient layout false) (first :: rest) parts ∧
        records = parts.flatten := by
  have later : 0 < (LegContext.behind ⟨side, layout, recipient, 0, 0⟩ [first]).leg := Nat.one_pos
  rw [legsRecords_cons_eq_ok_iff]
  constructor
  · rintro ⟨part, _, packed, others, rfl⟩
    obtain ⟨exposed, parts, packs, rfl⟩ := (legsRecords_behind_eq_ok_iff later).1 others
    exact ⟨exposed, part :: parts, .cons packed packs, rfl⟩
  · rintro ⟨exposed, _, packs, rfl⟩
    obtain ⟨part, parts, packed, others, rfl⟩ := List.forall₂_cons_left_iff.1 packs
    exact ⟨part, _, packed, (legsRecords_behind_eq_ok_iff later).2 ⟨exposed, parts, others, rfl⟩,
      rfl⟩

theorem compile_ofLegs_eq_ok_iff {plan : Plan}
    (known : compiler.network.executorAddress? executor = some recipient) :
    compiler.compile (.ofLegs side first rest spent gained) executor = .ok plan ↔
      ((first :: rest).IsChain fun leg next => leg.destToken = next.srcToken) ∧
      (∀ leg ∈ rest, compiler.Exposes side recipient leg) ∧
      ∃ parts, List.Forall₂ (compiler.LegRecords side recipient executor.layout) (first :: rest)
          parts ∧
        plan = ⟨executor, parts.flatten, compiler.network.tokenTransferProxy, recipient⟩ := by
  rw [compile_eq_ok_iff]
  constructor
  · intro compiled
    obtain ⟨_, _, again, shape, packed, rfl⟩ := compiled
    cases known.symm.trans again
    obtain ⟨chained, nonempty⟩ := Route.fault?_ofLegs.1 shape
    obtain ⟨exposed, parts, packs, rfl⟩ := legsRecords_ofLegs_eq_ok_iff.1 packed
    exact ⟨chained, exposed, parts, forall₂_legRecords_iff.2 ⟨nonempty, packs⟩, rfl⟩
  · rintro ⟨chained, exposed, parts, packs, rfl⟩
    obtain ⟨nonempty, packs⟩ := forall₂_legRecords_iff.1 packs
    exact ⟨recipient, _, known, Route.fault?_ofLegs.2 ⟨chained, nonempty⟩,
      legsRecords_ofLegs_eq_ok_iff.2 ⟨exposed, parts, packs, rfl⟩, rfl⟩

theorem compile_single_eq_ok_iff {plan : Plan}
    (known : compiler.network.executorAddress? executor = some recipient) :
    compiler.compile (.ofLegs side leg [] spent gained) executor = .ok plan ↔
      ∃ part, compiler.LegRecords side recipient executor.layout leg part ∧
        plan = ⟨executor, part, compiler.network.tokenTransferProxy, recipient⟩ := by
  rw [compile_ofLegs_eq_ok_iff known]
  constructor
  · rintro ⟨_, _, parts, packs, rfl⟩
    obtain ⟨part, _, packed, none, rfl⟩ := List.forall₂_cons_left_iff.1 packs
    cases none
    exact ⟨part, packed, by simp⟩
  · rintro ⟨part, packed, rfl⟩
    exact ⟨.singleton leg, by simp, [part], .cons packed .nil, by simp⟩

def Alone (side : Side) (legs : List Leg) (singles : List Route) : Prop :=
  List.Forall₂ (fun leg single => ∃ spent gained, single = .ofLegs side leg [] spent gained) legs
    singles

theorem exists_plans_iff {singles : List Route} {records : List Record}
    (known : compiler.network.executorAddress? executor = some recipient)
    (alone : Alone side legs singles) :
    (∃ plans, List.Forall₂ (fun single part => compiler.compile single executor = .ok part)
        singles plans ∧ records = plans.flatMap Plan.records) ↔
      ∃ parts, List.Forall₂ (compiler.LegRecords side recipient executor.layout) legs parts ∧
        records = parts.flatten := by
  have pointwise (plans : List Plan) :
      List.Forall₂ (fun leg plan => ∃ part,
          compiler.LegRecords side recipient executor.layout leg part ∧
          plan = ⟨executor, part, compiler.network.tokenTransferProxy, recipient⟩) legs plans ↔
        List.Forall₂ (fun single part => compiler.compile single executor = .ok part)
          singles plans := by
    apply forall₂_iff_of_forall₂ alone
    rintro leg _ plan ⟨spent, gained, rfl⟩
    exact (compile_single_eq_ok_iff known).symm
  constructor
  · rintro ⟨plans, compiled, rfl⟩
    have packs := (pointwise plans).2 compiled
    refine ⟨plans.map Plan.records, List.forall₂_map_right_iff.2 (packs.imp ?_), rfl⟩
    rintro leg _ ⟨part, packed, rfl⟩
    exact packed
  · rintro ⟨parts, packs, rfl⟩
    refine ⟨parts.map fun part =>
      ⟨executor, part, compiler.network.tokenTransferProxy, recipient⟩, (pointwise _).1 ?_, ?_⟩
    · exact List.forall₂_map_right_iff.2 (packs.imp fun leg part packed => ⟨part, packed, rfl⟩)
    · rw [List.flatMap_map]
      exact List.flatMap_id.symm

/-- A route compiles exactly if its legs chain, each of them compiles on its own, and those behind the
first expose what they spend; its records, and so its data, are then those of its legs in order.  The
amounts of the routes play no part. -/
theorem compile_ofLegs {singles : List Route} (alone : Alone side (first :: rest) singles) :
    ((∃ plan, compiler.compile (.ofLegs side first rest spent gained) executor = .ok plan) ↔
      ((first :: rest).IsChain fun leg next => leg.destToken = next.srcToken) ∧
      (∀ single ∈ singles, ∃ plan, compiler.compile single executor = .ok plan) ∧
      ∃ recipient, compiler.network.executorAddress? executor = some recipient ∧
        ∀ leg ∈ rest, compiler.Exposes side recipient leg) ∧
    ∀ plan, compiler.compile (.ofLegs side first rest spent gained) executor = .ok plan →
      ∃ plans, List.Forall₂ (fun single part => compiler.compile single executor = .ok part)
          singles plans ∧
        plan.records = plans.flatMap Plan.records ∧ plan.data = plans.flatMap Plan.data := by
  rw [← exists_forall₂_iff]
  constructor
  · constructor
    · rintro ⟨plan, compiled⟩
      obtain ⟨recipient, _, known, _, _⟩ := compile_eq_ok_iff.1 compiled
      obtain ⟨chained, exposed, parts, packs, _⟩ := (compile_ofLegs_eq_ok_iff known).1 compiled
      obtain ⟨plans, compiles, _⟩ := (exists_plans_iff known alone).2 ⟨parts, packs, rfl⟩
      exact ⟨chained, ⟨plans, compiles⟩, recipient, known, exposed⟩
    · rintro ⟨chained, ⟨plans, compiles⟩, recipient, known, exposed⟩
      obtain ⟨parts, packs, _⟩ := (exists_plans_iff known alone).1 ⟨plans, compiles, rfl⟩
      exact ⟨_, (compile_ofLegs_eq_ok_iff known).2 ⟨chained, exposed, parts, packs, rfl⟩⟩
  · intro plan compiled
    obtain ⟨recipient, _, known, _, _⟩ := compile_eq_ok_iff.1 compiled
    obtain ⟨_, _, parts, packs, rfl⟩ := (compile_ofLegs_eq_ok_iff known).1 compiled
    obtain ⟨plans, compiles, records⟩ := (exists_plans_iff known alone).2 ⟨parts, packs, rfl⟩
    refine ⟨plans, compiles, records, ?_⟩
    calc
      _ = parts.flatten.flatMap Record.bytes := rfl
      _ = (plans.flatMap Plan.records).flatMap Record.bytes := by rw [records]
      _ = plans.flatMap Plan.data := List.flatMap_assoc

theorem compile_ofLegs_sample :
    let first : Leg := ⟨.repeated 0xEE, .repeated 0x11, [.swap (.sample .one)]⟩
    let onward : Leg := ⟨.repeated 0x11, .repeated 0x33, [.swap (.sample .one)]⟩
    ∃ plan front back,
      (ofNetwork .sample).compile (.ofLegs .sell first [onward] .one .one) .first = .ok plan ∧
      (ofNetwork .sample).compile (.ofLegs .sell first [] .one .one) .first = .ok front ∧
      (ofNetwork .sample).compile (.ofLegs .sell onward [] .max .one) .first = .ok back ∧
      plan.records = front.records ++ back.records ∧ plan.data = front.data ++ back.data := by
  intro first onward
  let request : SwapRequest := ⟨.repeated 0x11, .repeated 0x33, .one, .one, .sell⟩
  let call := PairRouter.swapCall request [.repeated 0x11, .repeated 0x33] (.repeated 0xE1)
    (.repeated 0x22)
  have known : (ofNetwork .sample).network.executorAddress? .first = some (.repeated 0xE1) := by
    decide
  have called : (ofNetwork .sample).Calls .sell (.repeated 0xE1) onward (.sample .one) call := by
    refine ⟨.pairRouter (.ofNetwork .sample), by cbv, ?_⟩
    exact PairRouter.executorCall_eq_ok_iff.2
      ⟨⟨none, []⟩, _, _, rfl, rfl, by decide +kernel, rfl⟩
  have exposed : (ofNetwork .sample).Exposes .sell (.repeated 0xE1) onward := by
    intro hop mem
    have size : call.calldata.length = 196 + 32 * 2 := PairRouter.length_swapCall _ _ _ _
    have short : call.calldata.length < 2 ^ 256 := by
      rw [size]
      decide
    rw [List.mem_singleton.1 mem]
    exact ⟨call, called, _, PairRouter.positions_swapCall rfl (by decide) short,
      Option.some_ne_none 4⟩
  obtain ⟨swap, packed⟩ :
      ∃ r, call.Packs ((ofNetwork .sample).edges onward [call]).flags false .basic r :=
    PairRouter.exists_packs rfl (by decide) (by decide) _ _
  have compiles : ∀ single ∈ [.ofLegs .sell first [] .one .one, .ofLegs .sell onward [] .max .one],
      ∃ plan, (ofNetwork .sample).compile single .first = .ok plan := by
    rw [List.forall_mem_cons, List.forall_mem_singleton]
    refine ⟨exists_compile_sample .one, _, (compile_single_eq_ok_iff known).2 ⟨[swap], ?_, rfl⟩⟩
    have direct : (ofNetwork .sample).edges onward [call] = ⟨false, false⟩ := rfl
    refine ⟨List.cons_ne_nil _ _, rfl, rfl, [call], [], [swap], [], .cons called .nil, ?_, rfl,
      .cons packed .nil, rfl, rfl⟩
    simp [direct]
  have alone : Alone .sell [first, onward]
      [.ofLegs .sell first [] .one .one, .ofLegs .sell onward [] .max .one] :=
    .cons ⟨_, _, rfl⟩ (.cons ⟨_, _, rfl⟩ .nil)
  obtain ⟨plan, compiled⟩ : ∃ plan, (ofNetwork .sample).compile
      (.ofLegs .sell first [onward] .one .one) .first = .ok plan := by
    refine (compile_ofLegs alone).1.2 ⟨by simp [first, onward], compiles, _, known, ?_⟩
    rw [List.forall_mem_singleton]
    exact exposed
  obtain ⟨plans, each, records, data⟩ := (compile_ofLegs alone).2 plan compiled
  obtain ⟨front, _, opened, others, rfl⟩ := List.forall₂_cons_left_iff.1 each
  obtain ⟨back, _, followed, none, rfl⟩ := List.forall₂_cons_left_iff.1 others
  cases none
  simp only [List.flatMap_cons, List.flatMap_nil, List.append_nil] at records data
  exact ⟨plan, front, back, compiled, opened, followed, records, data⟩

end Compiler
end SwapPlan
