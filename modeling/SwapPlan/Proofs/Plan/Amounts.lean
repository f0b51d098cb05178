import SwapPlan.Proofs.Exchange.Amounts
import SwapPlan.Proofs.Plan.Reading
/-!
# Amounts in a plan

Two routes that differ in their amounts only compile to plans that differ in the words of the amounts
only: record by record the headers are the same, and so is the calldata outside of the words that the
layout of the call declares for amounts (`Compiler.compile_withoutAmounts`).
-/
set_option autoImplicit false

namespace SwapPlan

def Hop.withoutAmounts (hop : Hop) : Hop :=
  { hop with
    srcAmount := .zero
    destAmount := .zero }

def Step.withoutAmounts : Step → Step
  | swap hop => swap hop.withoutAmounts
  | wrapNative => wrapNative
  | unwrapNative => unwrapNative

def Leg.withoutAmounts (leg : Leg) : Leg :=
  { leg with steps := leg.steps.map Step.withoutAmounts }

def Route.withoutAmounts (route : Route) : Route :=
  { route with
    srcAmount := .zero
    destAmount := .zero
    legs := route.legs.map Leg.withoutAmounts }

@[simp]
theorem Leg.hops_withoutAmounts (leg : Leg) :
    leg.withoutAmounts.hops = leg.hops.map Hop.withoutAmounts := by
  rw [withoutAmounts, hops, hops, List.filterMap_map, List.map_filterMap]
  congr 1
  funext step
  cases step <;> rfl

theorem Leg.tokens_of_withoutAmounts {leg second : Leg}
    (same : leg.withoutAmounts = second.withoutAmounts) :
    leg.srcToken = second.srcToken ∧ leg.destToken = second.destToken := by
  obtain ⟨srcToken, destToken, _⟩ := Leg.mk.inj same
  exact ⟨srcToken, destToken⟩

@[simp]
theorem Leg.asksWrap_withoutAmounts (leg : Leg) :
    leg.withoutAmounts.asksWrap = leg.asksWrap := by
  rw [asksWrap, asksWrap, withoutAmounts, List.any_map]
  congr 1
  funext step
  cases step <;> rfl

@[simp]
theorem Leg.asksUnwrap_withoutAmounts (leg : Leg) :
    leg.withoutAmounts.asksUnwrap = leg.asksUnwrap := by
  rw [asksUnwrap, asksUnwrap, withoutAmounts, List.any_map]
  congr 1
  funext step
  cases step <;> rfl

namespace Compiler

def EdgeCalls (compiler : Compiler) (leg : Leg) (needed : Bool) (field : AmountField)
    (conversion : NativeWrapper.Conversion) (calls : List ExecutorCall) : Prop :=
  if needed then
    ∃ amount, leg.total? field = some amount ∧
      calls = [compiler.registry.wrapper.conversionCall conversion amount]
  else calls = []

/-- The calls behind the records of a leg: those of its hops in order, between the conversions of its
input and output. -/
def LegCalls (compiler : Compiler) (side : Side) (recipient : Address) (leg : Leg)
    (calls : List ExecutorCall) : Prop :=
  ∃ before made after,
    compiler.EdgeCalls leg (compiler.edges leg made).wrap .srcAmount .wrap before ∧
    List.Forall₂ (compiler.Calls side recipient leg) leg.hops made ∧
    compiler.EdgeCalls leg (compiler.edges leg made).unwrap .destAmount .unwrap after ∧
    calls = before ++ made ++ after

def LegsCalls (compiler : Compiler) (side : Side) (recipient : Address) (legs : List Leg)
    (calls : List ExecutorCall) : Prop :=
  ∃ parts, List.Forall₂ (compiler.LegCalls side recipient) legs parts ∧ calls = parts.flatten

end Compiler

/-- The records of calls and of others that differ from them in their amounts only: they have the same
headers, and hold the calldata of the calls. -/
structure PackedAlike (calls others : List ExecutorCall) (records changed : List Record) :
    Prop where
  alike : List.Forall₂ ExecutorCall.SameButAmounts calls others
  headers : List.Forall₂ (fun r s : Record => r.header = s.header ∧ r.header.length = headerLength)
    records changed
  calldata : List.Forall₂ (fun (call : ExecutorCall) r => r.calldata = call.calldata) calls records
  recalldata : List.Forall₂ (fun (call : ExecutorCall) r => r.calldata = call.calldata) others
    changed

theorem PackedAlike.nil : PackedAlike [] [] [] [] := ⟨.nil, .nil, .nil, .nil⟩

theorem PackedAlike.append {calls others calls' others' : List ExecutorCall}
    {records changed records' changed' : List Record}
    (h : PackedAlike calls others records changed)
    (k : PackedAlike calls' others' records' changed') :
    PackedAlike (calls ++ calls') (others ++ others') (records ++ records')
      (changed ++ changed') where
  alike := List.rel_append h.alike k.alike
  headers := List.rel_append h.headers k.headers
  calldata := List.rel_append h.calldata k.calldata
  recalldata := List.rel_append h.recalldata k.recalldata

theorem ExecutorCall.Packs.length_lt {call : ExecutorCall} {flags : Flags} {chained : Bool}
    {layout : HeaderLayout} {r : Record} (h : call.Packs flags chained layout r) :
    call.calldata.length < 2 ^ 256 := by
  obtain ⟨_, _, _, encoded⟩ := h
  exact Instruction.length_lt_of_encode encoded

theorem ExecutorCall.Packs.alike {call other : ExecutorCall} {flags : Flags} {chained : Bool}
    {layout : HeaderLayout} {r s : Record} (h : call.Packs flags chained layout r)
    (k : other.Packs flags chained layout s) (same : call.SameButAmounts other) :
    PackedAlike [call] [other] [r] [s] := by
  obtain ⟨positions, resolved, _, encoded⟩ := h
  obtain ⟨_, again, _, recoded⟩ := k
  obtain ⟨_, fixed, refixed, agree⟩ := same.differ
  cases resolved.symm.trans fixed
  cases again.symm.trans refixed
  obtain ⟨header, calldata⟩ := Instruction.parts_of_encode encoded
  obtain ⟨reheader, recalldata⟩ := Instruction.parts_of_encode recoded
  have changed : other.instruction positions flags =
      { call.instruction positions flags with calldata := other.calldata } := by
    rw [same.alike]
    rfl
  have length : other.calldata.length = (call.instruction positions flags).calldata.length :=
    agree.length
  have headers : r.header = s.header := by
    rw [header, reheader, changed, Instruction.headerImage_calldata length]
  have size : r.header.length = headerLength := by
    rw [header, Instruction.length_headerImage]
  exact ⟨.cons same .nil, .cons ⟨headers, size⟩ .nil, .cons calldata .nil, .cons recalldata .nil⟩

namespace Compiler

variable {compiler : Compiler} {side : Side} {recipient : Address} {layout : HeaderLayout}
  {leg second : Leg} {records others : List Record}

theorem Calls.sameButAmounts {hop other : Hop} {call changed : ExecutorCall}
    (tokens : leg.srcToken = second.srcToken ∧ leg.destToken = second.destToken)
    (same : hop.withoutAmounts = other.withoutAmounts)
    (h : compiler.Calls side recipient leg hop call)
    (k : compiler.Calls side recipient second other changed)
    (short : call.calldata.length < 2 ^ 256) : call.SameButAmounts changed := by
  obtain ⟨exchange, percent, srcAmount, destAmount, data⟩ := hop
  obtain ⟨_, _, _, _, _⟩ := other
  cases same
  -- Both hops name one exchange, and hand it the same data.
  obtain ⟨e, found, made⟩ := h
  obtain ⟨_, again, remade⟩ := k
  cases found.symm.trans again
  rw [← tokens.1, ← tokens.2] at remade
  exact Exchange.sameButAmounts made remade short

theorem EdgePacks.alike {needed : Bool} {field : AmountField}
    {conversion : NativeWrapper.Conversion}
    (h : compiler.EdgePacks layout leg needed field conversion records)
    (k : compiler.EdgePacks layout second needed field conversion others) :
    ∃ calls recalls, compiler.EdgeCalls leg needed field conversion calls ∧
      compiler.EdgeCalls second needed field conversion recalls ∧
      PackedAlike calls recalls records others := by
  cases needed with
  | false =>
    cases h
    cases k
    exact ⟨[], [], rfl, rfl, .nil⟩
  | true =>
    obtain ⟨amount, _, r, total, made, packed, rfl⟩ := h
    obtain ⟨changed, _, s, retotal, remade, repacked, rfl⟩ := k
    rw [NativeWrapper.convert_eq_ok] at made remade
    cases made
    cases remade
    have same := compiler.registry.wrapper.conversionCall_sameButAmounts conversion amount changed
    exact ⟨_, _, ⟨amount, total, rfl⟩, ⟨changed, retotal, rfl⟩, packed.alike repacked same⟩

theorem calls_alike {flags : Flags} {chained : Bool} {hops rehops : List Hop}
    {calls recalls : List ExecutorCall}
    (tokens : leg.srcToken = second.srcToken ∧ leg.destToken = second.destToken)
    (same : hops.map Hop.withoutAmounts = rehops.map Hop.withoutAmounts)
    (made : List.Forall₂ (compiler.Calls side recipient leg) hops calls)
    (remade : List.Forall₂ (compiler.Calls side recipient second) rehops recalls)
    (packed : List.Forall₂ (fun call r => call.Packs flags chained layout r) calls records) :
    List.Forall₂ ExecutorCall.SameButAmounts calls recalls := by
  induction made generalizing rehops recalls records with
  | nil =>
    obtain rfl : rehops = [] := by simpa using same.symm
    cases remade
    exact .nil
  | cons called _ ih =>
    cases remade with
    | nil => cases same
    | cons recalled remade =>
      obtain ⟨head, tail⟩ := List.cons.inj same
      cases packed with
      | cons packs packed =>
        exact .cons (called.sameButAmounts tokens head recalled packs.length_lt)
          (ih tail remade packed)

theorem hops_alike {flags : Flags} {chained : Bool} {calls recalls : List ExecutorCall}
    (alike : List.Forall₂ ExecutorCall.SameButAmounts calls recalls)
    (packed : List.Forall₂ (fun call r => call.Packs flags chained layout r) calls records)
    (repacked : List.Forall₂ (fun call r => call.Packs flags chained layout r) recalls others) :
    PackedAlike calls recalls records others := by
  induction alike generalizing records others with
  | nil =>
    cases packed
    cases repacked
    exact .nil
  | cons same _ ih =>
    obtain ⟨r, _, packs, rest, rfl⟩ := List.forall₂_cons_left_iff.1 packed
    obtain ⟨s, _, repacks, others, rfl⟩ := List.forall₂_cons_left_iff.1 repacked
    exact (packs.alike repacks same).append (ih rest others)

theorem edges_withoutAmounts {calls recalls : List ExecutorCall}
    (same : leg.withoutAmounts = second.withoutAmounts)
    (alike : List.Forall₂ ExecutorCall.SameButAmounts calls recalls) :
    compiler.edges leg calls = compiler.edges second recalls := by
  obtain ⟨srcToken, destToken⟩ := Leg.tokens_of_withoutAmounts same
  have asksWrap := congrArg Leg.asksWrap same
  have asksUnwrap := congrArg Leg.asksUnwrap same
  rw [Leg.asksWrap_withoutAmounts, Leg.asksWrap_withoutAmounts] at asksWrap
  rw [Leg.asksUnwrap_withoutAmounts, Leg.asksUnwrap_withoutAmounts] at asksUnwrap
  have needed : calls.any (·.needsWrap) = recalls.any (·.needsWrap) := by
    induction alike with
    | nil => rfl
    | cons head _ ih => rw [List.any_cons, List.any_cons, ih, head.alike]
  rw [edges, edges, srcToken, destToken, asksWrap, asksUnwrap, needed]

/-- The calls of hops that differ in their amounts only differ in their amounts only. -/
theorem LegPacks.alike {chained : Bool} (same : leg.withoutAmounts = second.withoutAmounts)
    (h : compiler.LegPacks side recipient layout chained leg records)
    (k : compiler.LegPacks side recipient layout chained second others) :
    ∃ calls recalls, compiler.LegCalls side recipient leg calls ∧
      compiler.LegCalls side recipient second recalls ∧
      PackedAlike calls recalls records others := by
  obtain ⟨_, _, calls, before, hops, after, made, _, first, packed, last, rfl⟩ := h
  obtain ⟨_, _, recalls, rebefore, rehops, reafter, remade, _, refirst, repacked, relast, rfl⟩ := k
  have tokens := Leg.tokens_of_withoutAmounts same
  have hopsAlike := congrArg Leg.hops same
  rw [Leg.hops_withoutAmounts, Leg.hops_withoutAmounts] at hopsAlike
  -- The calls decide which conversions a leg needs, so they are compared first.
  have differ := calls_alike tokens hopsAlike made remade packed
  rw [← edges_withoutAmounts same differ] at refirst repacked relast
  obtain ⟨deposits, redeposits, deposited, redeposited, wrapped⟩ := first.alike refirst
  obtain ⟨withdrawals, rewithdrawals, withdrawn, rewithdrawn, unwrapped⟩ := last.alike relast
  refine ⟨_, _, ⟨deposits, calls, withdrawals, deposited, made, withdrawn, rfl⟩,
    ⟨redeposits, recalls, rewithdrawals, ?_, remade, ?_, rfl⟩,
    (wrapped.append (hops_alike differ packed repacked)).append unwrapped⟩
  · rwa [← edges_withoutAmounts same differ]
  · rwa [← edges_withoutAmounts same differ]

theorem legsRecords_alike {context : LegContext} {legs seconds : List Leg}
    (same : legs.map Leg.withoutAmounts = seconds.map Leg.withoutAmounts)
    (h : compiler.legsRecords context legs = .ok records)
    (k : compiler.legsRecords context seconds = .ok others) :
    ∃ calls recalls, compiler.LegsCalls context.side context.recipient legs calls ∧
      compiler.LegsCalls context.side context.recipient seconds recalls ∧
      PackedAlike calls recalls records others := by
  induction legs generalizing context seconds records others with
  | nil =>
    obtain rfl : seconds = [] := by simpa using same.symm
    cases h
    cases k
    exact ⟨[], [], ⟨[], .nil, rfl⟩, ⟨[], .nil, rfl⟩, .nil⟩
  | cons leg rest ih =>
    cases seconds with
    | nil => cases same
    | cons second seconds =>
      obtain ⟨head, tail⟩ := List.cons.inj same
      obtain ⟨first, last, packed, compiled, rfl⟩ := legsRecords_cons_eq_ok_iff.1 h
      obtain ⟨refirst, relast, repacked, recompiled, rfl⟩ := legsRecords_cons_eq_ok_iff.1 k
      -- The legs behind are counted alike.
      have count : leg.hops.length = second.hops.length := by
        have hops := congrArg (fun leg => leg.hops.length) head
        simpa using hops
      have behind : context.behind [second] = context.behind [leg] := by
        simp [LegContext.behind, count]
      rw [behind] at recompiled
      obtain ⟨calls, recalls, part, repart, alike⟩ := packed.alike head repacked
      obtain ⟨_, _, ⟨parts, made, rfl⟩, ⟨reparts, remade, rfl⟩, others⟩ :=
        ih tail compiled recompiled
      exact ⟨_, _, ⟨calls :: parts, .cons part made, rfl⟩, ⟨recalls :: reparts, .cons repart remade, rfl⟩,
        alike.append others⟩

/-- Amounts do not reach the headers of a plan, nor its calldata outside of the words that the layouts
of its calls declare for them. -/
theorem compile_withoutAmounts {route other : Route} {executor : Executor} {plan changed : Plan}
    (same : route.withoutAmounts = other.withoutAmounts)
    (h : compiler.compile route executor = .ok plan)
    (k : compiler.compile other executor = .ok changed) :
    ∃ calls recalls,
      compiler.LegsCalls route.side plan.targetExecutor route.legs calls ∧
      compiler.LegsCalls other.side changed.targetExecutor other.legs recalls ∧
      PackedAlike calls recalls plan.records changed.records := by
  obtain ⟨recipient, records, known, _, compiled, rfl⟩ := compile_eq_ok_iff.1 h
  obtain ⟨_, others, reknown, _, recompiled, rfl⟩ := compile_eq_ok_iff.1 k
  cases known.symm.trans reknown
  obtain ⟨side, _, _, _, _, legs⟩ := Route.mk.inj same
  rw [← side] at recompiled ⊢
  exact legsRecords_alike legs compiled recompiled

theorem eq_of_legsCalls_sample {amount : Word} {calls : List ExecutorCall}
    (h : (ofNetwork .sample).LegsCalls .sell (.repeated 0xE1) (Route.sample amount).legs calls) :
    ∃ deposit, calls = [deposit, Hop.sampleCall amount] := by
  obtain ⟨parts, legs, rfl⟩ := h
  obtain ⟨part, _, ⟨before, made, after, first, hops, last, rfl⟩, none, rfl⟩ :=
    List.forall₂_cons_left_iff.1 legs
  cases none
  obtain ⟨call, _, called, none, rfl⟩ := List.forall₂_cons_left_iff.1 hops
  cases none
  cases called.unique (calls_sample amount)
  obtain ⟨_, _, rfl⟩ := first
  cases last
  exact ⟨_, rfl⟩

/-- The sample route with the largest amount: of the swap one word is another, and the header none. -/
theorem compile_withoutAmounts_sample :
    (Route.sample .one).withoutAmounts = (Route.sample .max).withoutAmounts ∧
    ∃ plan changed deposit swap redeposit reswap,
      (ofNetwork .sample).compile (.sample .one) .first = .ok plan ∧
      (ofNetwork .sample).compile (.sample .max) .first = .ok changed ∧
      plan.records = [deposit, swap] ∧ changed.records = [redeposit, reswap] ∧
      swap.header = reswap.header ∧ swap.header.length = headerLength ∧
      swap.calldata.slice? 4 Word.size = some Word.one.bytes ∧
      reswap.calldata.slice? 4 Word.size = some Word.max.bytes ∧
      swap.calldata.AgreeOutside [4, 36] Word.size reswap.calldata := by
  obtain ⟨deposit, swap, compiled, packed⟩ := exists_records_sample .one
  obtain ⟨redeposit, reswap, recompiled, repacked⟩ := exists_records_sample .max
  have same : (Route.sample .one).withoutAmounts = (Route.sample .max).withoutAmounts := rfl
  obtain ⟨calls, recalls, made, remade, alike, headers, holds, reholds⟩ :=
    compile_withoutAmounts same compiled recompiled
  obtain ⟨first, rfl⟩ := eq_of_legsCalls_sample made
  obtain ⟨refirst, rfl⟩ := eq_of_legsCalls_sample remade
  simp only [List.forall₂_cons] at alike headers holds reholds
  obtain ⟨positions, resolved, _, agree⟩ := alike.2.1.differ
  cases resolved.symm.trans (positions_sampleCall .one)
  refine ⟨same, _, _, deposit, swap, redeposit, reswap, compiled, recompiled, rfl, rfl,
    headers.2.1.1, headers.2.1.2, ?_, ?_, ?_⟩
  · rw [holds.2.1]
    exact slice?_sampleCall .one
  · rw [reholds.2.1]
    exact slice?_sampleCall .max
  · rw [holds.2.1, reholds.2.1]
    exact agree

end Compiler
end SwapPlan
