import SwapPlan.Plan.Compilation
import SwapPlan.Proofs.Outcome
/-!
# When legs compile

What each stage of compilation needs to succeed, and what it then gives.  The stages count legs and
hops for their errors only, so none of the conditions mentions a count: a leg compiles alike
wherever it stands in a route, except that the hops of later legs have to expose the amount they
spend.
-/
set_option autoImplicit false

namespace SwapPlan

def ExecutorCall.Packs (call : ExecutorCall) (flags : Flags) (chained : Bool)
    (layout : HeaderLayout) (record : Record) : Prop :=
  ∃ positions, call.layout.positions call.calldata = .ok positions ∧
    (chained = true → positions.fromAmount ≠ none) ∧
    (call.instruction positions flags).encode layout = .ok record

theorem ExecutorCall.pack_eq_ok_iff {call : ExecutorCall} {flags : Flags} {chained : Bool}
    {hop : Nat} {layout : HeaderLayout} {record : Record} :
    call.pack flags chained hop layout = .ok record ↔ call.Packs flags chained layout record := by
  simp only [pack, Outcome.bind_eq_ok, Outcome.mapError_eq_ok]
  apply exists_congr
  intro positions
  apply and_congr_right
  intro _
  cases chained <;> cases positions.fromAmount <;> simp [Outcome.mapError_eq_ok]

theorem ExecutorCall.Packs.unique {call : ExecutorCall} {flags : Flags} {chained : Bool}
    {layout : HeaderLayout} {r s : Record} (h : call.Packs flags chained layout r)
    (k : call.Packs flags chained layout s) : r = s := by
  obtain ⟨positions, resolved, _, encoded⟩ := h
  obtain ⟨_, again, _, recoded⟩ := k
  cases resolved.symm.trans again
  cases encoded.symm.trans recoded
  rfl

def LegContext.behind (context : LegContext) (legs : List Leg) : LegContext :=
  { context with
    leg := context.leg + legs.length
    firstHop := context.firstHop + (legs.map fun leg => leg.hops.length).sum }

namespace Compiler

variable {compiler : Compiler} {context : LegContext} {leg : Leg}

def Calls (compiler : Compiler) (side : Side) (recipient : Address) (leg : Leg) (hop : Hop)
    (call : ExecutorCall) : Prop :=
  ∃ exchange, compiler.registry.find? hop.exchange = some exchange ∧
    exchange.executorCall ⟨leg.srcToken, leg.destToken, hop.srcAmount, hop.destAmount, side⟩
      recipient hop.data = .ok call

theorem Calls.unique {side : Side} {recipient : Address} {hop : Hop}
    {call other : ExecutorCall}
    (h : compiler.Calls side recipient leg hop call)
    (k : compiler.Calls side recipient leg hop other) : call = other := by
  obtain ⟨exchange, found, made⟩ := h
  obtain ⟨_, again, remade⟩ := k
  cases found.symm.trans again
  cases made.symm.trans remade
  rfl

def edges (compiler : Compiler) (leg : Leg) (calls : List ExecutorCall) : NativeEdges where
  wrap := leg.asksWrap || (calls.any (·.needsWrap) && compiler.network.isNative leg.srcToken)
  unwrap := leg.asksUnwrap || (calls.any (·.needsWrap) && compiler.network.isNative leg.destToken)

def EdgePacks (compiler : Compiler) (layout : HeaderLayout) (leg : Leg) (needed : Bool)
    (field : AmountField) (conversion : NativeWrapper.Conversion) (records : List Record) : Prop :=
  if needed then
    ∃ amount call record, leg.total? field = some amount ∧
      compiler.registry.wrapper.convert conversion amount = .ok call ∧
      call.Packs .empty false layout record ∧ records = [record]
  else records = []

def LegPacks (compiler : Compiler) (side : Side) (recipient : Address) (layout : HeaderLayout)
    (chained : Bool) (leg : Leg) (records : List Record) : Prop :=
  leg.splitTotal = 100 ∧ leg.wrapFault? compiler.network = none ∧
  ∃ calls before hops after,
    List.Forall₂ (compiler.Calls side recipient leg) leg.hops calls ∧
    ((compiler.edges leg calls).wrap = true ∨ (compiler.edges leg calls).unwrap = true →
      ∀ call ∈ calls, call.needsWrap = true) ∧
    compiler.EdgePacks layout leg (compiler.edges leg calls).wrap .srcAmount .wrap before ∧
    List.Forall₂ (fun call r => call.Packs (compiler.edges leg calls).flags chained layout r)
      calls hops ∧
    compiler.EdgePacks layout leg (compiler.edges leg calls).unwrap .destAmount .unwrap after ∧
    records = before ++ hops ++ after

theorem hopCall_eq_ok_iff {position : Nat} {hop : Hop} {call : ExecutorCall} :
    compiler.hopCall context leg position hop = .ok call ↔
      compiler.Calls context.side context.recipient leg hop call := by
  rw [hopCall, Calls]
  cases compiler.registry.find? hop.exchange <;> simp [Outcome.mapError_eq_ok]

theorem hopCalls_eq_ok_iff {position : Nat} {hops : List Hop} {calls : List ExecutorCall} :
    compiler.hopCalls context leg position hops = .ok calls ↔
      List.Forall₂ (compiler.Calls context.side context.recipient leg) hops calls := by
  induction hops generalizing position calls with
  | nil => simp [hopCalls, eq_comm]
  | cons hop rest ih =>
    simp only [hopCalls, Outcome.bind_eq_ok, hopCall_eq_ok_iff, ih, Outcome.pure_eq_ok,
      List.forall₂_cons_left_iff]
    constructor
    · rintro ⟨call, made, others, all, rfl⟩
      exact ⟨call, others, made, all, rfl⟩
    · rintro ⟨call, others, made, all, rfl⟩
      exact ⟨call, made, others, all, rfl⟩

theorem hopRecords_eq_ok_iff {flags : Flags} {position : Nat} {calls : List ExecutorCall}
    {records : List Record} :
    hopRecords context flags position calls = .ok records ↔
      List.Forall₂ (fun call r => call.Packs flags (0 < context.leg) context.layout r)
        calls records := by
  induction calls generalizing position records with
  | nil => simp [hopRecords, eq_comm]
  | cons call rest ih =>
    simp only [hopRecords, Outcome.bind_eq_ok, ExecutorCall.pack_eq_ok_iff, ih,
      Outcome.pure_eq_ok, List.forall₂_cons_left_iff]
    constructor
    · rintro ⟨record, packed, others, all, rfl⟩
      exact ⟨record, others, packed, all, rfl⟩
    · rintro ⟨record, others, packed, all, rfl⟩
      exact ⟨record, packed, others, all, rfl⟩

theorem nativeEdges_eq_ok_iff {calls : List ExecutorCall} {firstHop : Nat} {e : NativeEdges} :
    compiler.nativeEdges leg calls firstHop = .ok e ↔
      e = compiler.edges leg calls ∧
      (e.wrap = true ∨ e.unwrap = true → ∀ call ∈ calls, call.needsWrap = true) := by
  unfold nativeEdges
  extract_lets needed wanted
  have edged : wanted = compiler.edges leg calls := rfl
  rw [← edged]
  clear_value wanted
  cases found : calls.findIdx? (!·.needsWrap) with
  | none =>
    rw [List.findIdx?_eq_none_iff] at found
    constructor
    · rintro ⟨⟩
      exact ⟨rfl, fun _ => by simpa using found⟩
    · rintro ⟨rfl, _⟩
      rfl
  | some position =>
    have direct : ¬∀ call ∈ calls, call.needsWrap = true := by
      intro all
      have absent : calls.findIdx? (!·.needsWrap) = none := by
        rw [List.findIdx?_eq_none_iff]
        simpa using all
      rw [absent] at found
      cases found
    cases wraps : wanted.wrap || wanted.unwrap with
    | true =>
      simp only [if_true, reduceCtorEq, false_iff, not_and]
      rintro rfl all
      exact direct (all (by simpa using wraps))
    | false =>
      simp only [Bool.false_eq_true, if_false, Except.ok.injEq]
      constructor
      · rintro rfl
        refine ⟨rfl, fun h => ?_⟩
        rw [← Bool.or_eq_true, wraps] at h
        cases h
      · exact fun h => h.1.symm

theorem edgeRecord_eq_ok_iff {needed : Bool} {field : AmountField}
    {conversion : NativeWrapper.Conversion} {hop : Nat} {records : List Record} :
    compiler.edgeRecord context leg needed field conversion hop = .ok records ↔
      compiler.EdgePacks context.layout leg needed field conversion records := by
  cases needed with
  | false => simp [edgeRecord, EdgePacks, eq_comm]
  | true =>
    simp only [edgeRecord, EdgePacks, if_true]
    cases leg.total? field with
    | none => simp
    | some amount =>
      simp only [Outcome.bind_eq_ok, Outcome.mapError_eq_ok, ExecutorCall.pack_eq_ok_iff,
        Outcome.pure_eq_ok, Option.some.injEq]
      constructor
      · rintro ⟨call, made, record, packed, rfl⟩
        exact ⟨amount, call, record, rfl, made, packed, rfl⟩
      · rintro ⟨_, call, record, rfl, made, packed, rfl⟩
        exact ⟨call, made, record, packed, rfl⟩

/-- A leg compiles alike whatever legs and hops stand before it, but for its being the first. -/
theorem legRecords_eq_ok_iff {records : List Record} :
    compiler.legRecords context leg = .ok records ↔
      compiler.LegPacks context.side context.recipient context.layout (0 < context.leg) leg
        records := by
  rw [legRecords, LegPacks]
  split
  · rename_i total
    simp [total]
  · rename_i total
    rw [not_ne_iff] at total
    cases leg.wrapFault? compiler.network with
    | some fault => simp
    | none =>
      simp only [Outcome.bind_eq_ok, hopCalls_eq_ok_iff, nativeEdges_eq_ok_iff,
        edgeRecord_eq_ok_iff, hopRecords_eq_ok_iff, Outcome.pure_eq_ok, total, true_and]
      constructor
      · rintro ⟨calls, made, _, ⟨rfl, wrapped⟩, before, first, hops, packed, after, last, rfl⟩
        exact ⟨calls, before, hops, after, made, wrapped, first, packed, last, rfl⟩
      · rintro ⟨calls, before, hops, after, made, wrapped, first, packed, last, rfl⟩
        exact ⟨calls, made, _, ⟨rfl, wrapped⟩, before, first, hops, packed, after, last, rfl⟩

theorem legsRecords_cons_eq_ok_iff {legs : List Leg} {records : List Record} :
    compiler.legsRecords context (leg :: legs) = .ok records ↔
      ∃ first rest, compiler.LegPacks context.side context.recipient context.layout
          (0 < context.leg) leg first ∧
        compiler.legsRecords (context.behind [leg]) legs = .ok rest ∧
        records = first ++ rest := by
  have next : ({ context with
      leg := context.leg + 1
      firstHop := context.firstHop + leg.hops.length } : LegContext) = context.behind [leg] := by
    simp [LegContext.behind]
  simp only [legsRecords, Outcome.bind_eq_ok, Outcome.pure_eq_ok, legRecords_eq_ok_iff, next]
  constructor
  · rintro ⟨first, packed, rest, others, rfl⟩
    exact ⟨first, rest, packed, others, rfl⟩
  · rintro ⟨first, rest, packed, others, rfl⟩
    exact ⟨first, packed, rest, others, rfl⟩

theorem legsRecords_append_eq_ok_iff {before after : List Leg} {records : List Record} :
    compiler.legsRecords context (before ++ after) = .ok records ↔
      ∃ first second, compiler.legsRecords context before = .ok first ∧
        compiler.legsRecords (context.behind before) after = .ok second ∧
        records = first ++ second := by
  induction before generalizing context records with
  | nil =>
    have same : context.behind [] = context := rfl
    simp [legsRecords, same, @eq_comm _ records]
  | cons leg rest ih =>
    have next : (context.behind [leg]).behind rest = context.behind (leg :: rest) := by
      simp [LegContext.behind, Nat.add_assoc, Nat.add_comm 1]
    simp only [List.cons_append, legsRecords_cons_eq_ok_iff, ih, next]
    constructor
    · rintro ⟨part, _, compiled, ⟨first, second, packed, packs, rfl⟩, rfl⟩
      exact ⟨part ++ first, second, ⟨part, first, compiled, packed, rfl⟩, packs, by simp⟩
    · rintro ⟨_, second, ⟨part, first, compiled, packed, rfl⟩, packs, rfl⟩
      exact ⟨part, first ++ second, compiled, ⟨first, second, packed, packs, rfl⟩, by simp⟩

theorem legsRecords_eq_ok_iff {legs : List Leg} {records : List Record} :
    compiler.legsRecords context legs = .ok records ↔
      ∃ parts, List.Forall₂ (fun entry part => compiler.LegPacks context.side context.recipient
          context.layout (0 < entry.2) entry.1 part) (legs.zipIdx context.leg) parts ∧
        records = parts.flatten := by
  induction legs generalizing context records with
  | nil => simp [legsRecords, eq_comm]
  | cons leg rest ih =>
    simp only [legsRecords_cons_eq_ok_iff, ih, List.zipIdx_cons, List.forall₂_cons_left_iff]
    constructor
    · rintro ⟨first, _, packed, ⟨parts, packs, rfl⟩, rfl⟩
      exact ⟨first :: parts, ⟨first, parts, packed, packs, rfl⟩, rfl⟩
    · rintro ⟨_, ⟨first, parts, packed, packs, rfl⟩, rfl⟩
      exact ⟨first, parts.flatten, packed, ⟨parts, packs, rfl⟩, rfl⟩

theorem compile_eq_ok_iff {route : Route} {executor : Executor} {plan : Plan} :
    compiler.compile route executor = .ok plan ↔
      ∃ recipient records,
        compiler.network.executorAddress? executor = some recipient ∧ route.fault? = none ∧
        compiler.legsRecords ⟨route.side, executor.layout, recipient, 0, 0⟩ route.legs =
          .ok records ∧
        plan = ⟨executor, records, compiler.network.tokenTransferProxy, recipient⟩ := by
  rw [compile]
  cases compiler.network.executorAddress? executor with
  | none => simp
  | some recipient =>
    cases route.fault? with
    | some fault => simp
    | none =>
      simp only [Outcome.bind_eq_ok, Outcome.pure_eq_ok, Option.some.injEq, true_and]
      constructor
      · rintro ⟨records, compiled, rfl⟩
        exact ⟨recipient, records, rfl, compiled, rfl⟩
      · rintro ⟨_, records, rfl, compiled, rfl⟩
        exact ⟨records, compiled, rfl⟩

end Compiler
end SwapPlan
