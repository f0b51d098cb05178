import SwapPlan.Proofs.Exchange.Spending
import SwapPlan.Proofs.Plan.Reading
import SwapPlan.Proofs.Pointwise
/-!
# Patching the amount of a hop

In a plan that sells, the amount that a hop spends stands in the calldata of the hop's record, where
the record says, and nowhere else in the plan: compiling the route with another amount overwrites that
word (`Compiler.compile_spending`).
-/
set_option autoImplicit false

namespace SwapPlan

def Hop.spending (hop : Hop) (amount : Word) : Hop := { hop with srcAmount := amount }

/-- A place for a hop: everything else of the legs of a route. -/
structure HopPlace where
  legsBefore : List Leg
  srcToken : Address
  destToken : Address
  stepsBefore : List Step
  stepsAfter : List Step
  legsAfter : List Leg

def HopPlace.leg (place : HopPlace) (hop : Hop) : Leg :=
  ⟨place.srcToken, place.destToken, place.stepsBefore ++ .swap hop :: place.stepsAfter⟩

def HopPlace.legs (place : HopPlace) (hop : Hop) : List Leg :=
  place.legsBefore ++ place.leg hop :: place.legsAfter

namespace Compiler

/-- Whether an end of a leg is the native token and one of its exchanges needs the wrapped form. -/
def wrapsAt (compiler : Compiler) (leg : Leg) (token : Address) : Bool :=
  compiler.network.isNative token &&
    leg.hops.any fun hop => (compiler.registry.find? hop.exchange).any Exchange.wrapsNative

def recordCount (compiler : Compiler) (leg : Leg) : Nat :=
  (compiler.wrapsAt leg leg.srcToken).toNat + leg.hops.length +
    (compiler.wrapsAt leg leg.destToken).toNat

/-- The number of records before that of the hop at a place. -/
def recordIndex (compiler : Compiler) (place : HopPlace) (hop : Hop) : Nat :=
  (place.legsBefore.map compiler.recordCount).sum +
    (compiler.wrapsAt (place.leg hop) place.srcToken).toNat +
    (place.stepsBefore.filterMap Step.hop?).length

end Compiler

theorem HopPlace.hops_leg (place : HopPlace) (hop : Hop) :
    (place.leg hop).hops = place.stepsBefore.filterMap Step.hop? ++
      hop :: place.stepsAfter.filterMap Step.hop? := by
  rw [Leg.hops, leg, List.filterMap_append, List.filterMap_cons]
  rfl

/-- The record of a call with another amount spent is the record of the call with the amount at its
position overwritten. -/
theorem ExecutorCall.Packs.patch {call patched : ExecutorCall} {amount : Word} {flags : Flags}
    {chained : Bool} {layout : HeaderLayout} {r s : Record} (patches : call.PatchesTo amount patched)
    (h : call.Packs flags chained layout r) (k : patched.Packs flags chained layout s)
    {i : Instruction} (read : Instruction.decodeAt layout r.bytes 0 = .ok i) {offset : UInt16}
    (spends : i.positions.fromAmount = some offset) :
    i.calldata = call.calldata ∧ offset.toNat + Word.size ≤ i.calldata.length ∧
      headerLength + i.calldata.length = r.bytes.length ∧
      s.bytes = r.bytes.overwrite (headerLength + offset.toNat) amount.bytes := by
  obtain ⟨positions, resolved, _, encoded⟩ := h
  obtain ⟨inside, fits, rfl⟩ := Instruction.encode_eq_ok_iff.1 encoded
  have whole := Instruction.decodeAt_image inside fits [] []
  rw [List.nil_append, List.append_nil, List.length_nil, read] at whole
  split at whole
  · cases whole
  · cases whole
    have short : call.calldata.length < 2 ^ 256 := Instruction.length_lt_of_encode encoded
    have spent : positions.fromAmount = some offset := spends
    obtain ⟨again, room, overwritten⟩ := patches.patches short positions offset resolved spent
    obtain ⟨_, reresolved, _, recoded⟩ := k
    cases again.symm.trans reresolved
    obtain ⟨_, _, rfl⟩ := Instruction.encode_eq_ok_iff.1 recoded
    have changed : patched.instruction positions flags =
        { call.instruction positions flags with
          calldata := call.calldata.overwrite offset.toNat amount.bytes } := by
      rw [patches.alike, overwritten]
      rfl
    have length : ((call.instruction positions flags).image layout).length =
        headerLength + call.calldata.length := Instruction.length_image _ _
    refine ⟨rfl, room, length.symm, ?_⟩
    rw [changed]
    rw [← amount.length_bytes] at room
    exact Instruction.image_overwrite (i := call.instruction positions flags) room

namespace Compiler

variable {compiler : Compiler} {side : Side} {recipient : Address} {layout : HeaderLayout}
  {chained : Bool} {leg : Leg} {records : List Record}

theorem Calls.needsWrap {hop : Hop} {call : ExecutorCall}
    (h : compiler.Calls side recipient leg hop call) :
    call.needsWrap = (compiler.registry.find? hop.exchange).any Exchange.wrapsNative := by
  obtain ⟨exchange, found, made⟩ := h
  rw [found, Option.any_some, Exchange.needsWrap_of_executorCall made]

theorem Calls.patchesTo {hop : Hop} {amount : Word} {call patched : ExecutorCall}
    (sells : side = .sell) (h : compiler.Calls side recipient leg hop call)
    (k : compiler.Calls side recipient leg (hop.spending amount) patched) :
    call.PatchesTo amount patched := by
  obtain ⟨exchange, found, made⟩ := h
  obtain ⟨_, again, remade⟩ := k
  cases found.symm.trans again
  exact Exchange.patchesTo_spending sells made remade

theorem any_needsWrap {hops : List Hop} {calls : List ExecutorCall}
    (h : List.Forall₂ (compiler.Calls side recipient leg) hops calls) :
    calls.any (·.needsWrap) =
      hops.any fun hop => (compiler.registry.find? hop.exchange).any Exchange.wrapsNative := by
  induction h with
  | nil => rfl
  | cons called _ ih => rw [List.any_cons, List.any_cons, called.needsWrap, ih]

theorem EdgePacks.length_eq {needed : Bool} {field : AmountField}
    {conversion : NativeWrapper.Conversion}
    (h : compiler.EdgePacks layout leg needed field conversion records) :
    records.length = needed.toNat := by
  cases needed with
  | false =>
    cases h
    rfl
  | true =>
    obtain ⟨_, _, _, _, _, _, rfl⟩ := h
    rfl

theorem EdgePacks.unique_wrap {needed : Bool} {other : Leg} {before after : List Record}
    (h : compiler.EdgePacks layout leg needed .srcAmount .wrap before)
    (k : compiler.EdgePacks layout other needed .srcAmount .wrap after) : before = after := by
  cases needed with
  | false => exact h.trans k.symm
  | true =>
    obtain ⟨_, _, _, _, made, packed, rfl⟩ := h
    obtain ⟨_, _, _, _, remade, repacked, rfl⟩ := k
    rw [NativeWrapper.convert_eq_ok] at made remade
    cases made
    cases remade
    exact congrArg (fun r => [r]) (packed.unique repacked)

theorem EdgePacks.unique_unwrap {needed : Bool} {other : Leg} {before after : List Record}
    (total : leg.total? .destAmount = other.total? .destAmount)
    (h : compiler.EdgePacks layout leg needed .destAmount .unwrap before)
    (k : compiler.EdgePacks layout other needed .destAmount .unwrap after) : before = after := by
  cases needed with
  | false => exact h.trans k.symm
  | true =>
    obtain ⟨_, _, _, gained, made, packed, rfl⟩ := h
    obtain ⟨_, _, _, regained, remade, repacked, rfl⟩ := k
    cases gained.symm.trans (total.trans regained)
    cases made.symm.trans remade
    exact congrArg (fun r => [r]) (packed.unique repacked)

theorem nativeEnds_eq_wrapsAt {calls : List ExecutorCall}
    (h : List.Forall₂ (compiler.Calls side recipient leg) leg.hops calls) :
    compiler.nativeEnds leg calls =
      ⟨compiler.wrapsAt leg leg.srcToken, compiler.wrapsAt leg leg.destToken⟩ := by
  rw [nativeEnds, any_needsWrap h]
  rfl

theorem LegPacks.length_eq (h : compiler.LegPacks side recipient layout chained leg records)
    (nonempty : leg.hops ≠ []) : records.length = compiler.recordCount leg := by
  obtain ⟨_, sound, calls, before, hops, after, made, wrapped, first, packed, last, rfl⟩ := h
  rw [edges_eq_nativeEnds sound nonempty made wrapped, nativeEnds_eq_wrapsAt made] at first last
  rw [List.length_append, List.length_append, first.length_eq, last.length_eq,
    ← packed.length_eq, ← made.length_eq, recordCount]

theorem length_legsRecords {context : LegContext} {legs : List Leg}
    (h : compiler.legsRecords context legs = .ok records)
    (nonempty : ∀ leg ∈ legs, leg.hops ≠ []) :
    records.length = (legs.map compiler.recordCount).sum := by
  induction legs generalizing context records with
  | nil =>
    cases h
    rfl
  | cons leg rest ih =>
    rw [List.forall_mem_cons] at nonempty
    obtain ⟨first, others, packed, compiled, rfl⟩ := legsRecords_cons_eq_ok_iff.1 h
    rw [List.length_append, packed.length_eq nonempty.1, ih compiled nonempty.2, List.map_cons,
      List.sum_cons]

/-- With another amount at a hop a leg keeps all its records but that of the hop. -/
theorem LegPacks.patch {place : HopPlace} {hop : Hop} {amount : Word} {others : List Record}
    (sells : side = .sell)
    (h : compiler.LegPacks side recipient layout chained (place.leg hop) records)
    (k : compiler.LegPacks side recipient layout chained (place.leg (hop.spending amount))
      others) :
    ∃ front r s rear call patched flags,
      records = front ++ r :: rear ∧ others = front ++ s :: rear ∧
      front.length = (compiler.wrapsAt (place.leg hop) place.srcToken).toNat +
        (place.stepsBefore.filterMap Step.hop?).length ∧
      compiler.Calls side recipient (place.leg hop) hop call ∧ call.PatchesTo amount patched ∧
      call.Packs flags chained layout r ∧ patched.Packs flags chained layout s := by
  obtain ⟨_, sound, calls, before, hops, after, made, wrapped, first, packed, last, rfl⟩ := h
  obtain ⟨_, _, recalls, rebefore, rehops, reafter, remade, _, refirst, repacked, relast, rfl⟩ := k
  have count := nativeEnds_eq_wrapsAt made
  rw [← edges_eq_nativeEnds sound (by simp [place.hops_leg]) made wrapped] at count
  rw [place.hops_leg] at made remade
  obtain ⟨callsBefore, call, callsAfter, rfl, front, called, back⟩ := forall₂_append_cons made
  obtain ⟨_, patched, _, rfl, refront, recalled, reback⟩ := forall₂_append_cons remade
  have unique : Relator.RightUnique (compiler.Calls side recipient (place.leg hop)) :=
    fun _ _ _ => Calls.unique
  cases List.right_unique_forall₂' unique front refront
  cases List.right_unique_forall₂' unique back reback
  have patches := called.patchesTo sells recalled
  -- The two legs differ in the calldata of one call, which the edges of a leg do not read.
  have edges : compiler.edges (place.leg (hop.spending amount))
      (callsBefore ++ patched :: callsAfter) =
        compiler.edges (place.leg hop) (callsBefore ++ call :: callsAfter) := by
    have wraps : patched.needsWrap = call.needsWrap := by rw [patches.alike]
    simp only [Compiler.edges, Leg.asksWrap, Leg.asksUnwrap, HopPlace.leg, List.any_append,
      List.any_cons, Step.isWrap, Step.isUnwrap, wraps]
  have total : (place.leg hop).total? .destAmount =
      (place.leg (hop.spending amount)).total? .destAmount := by
    rw [Leg.total?, Leg.total?, place.hops_leg, place.hops_leg]
    simp only [List.foldr_append, List.foldr_cons]
    rfl
  rw [edges] at refirst repacked relast
  obtain ⟨recordsBefore, r, recordsAfter, rfl, packedBefore, packs, packedAfter⟩ :=
    forall₂_append_cons packed
  obtain ⟨_, s, _, rfl, repackedBefore, repacks, repackedAfter⟩ := forall₂_append_cons repacked
  have same : Relator.RightUnique (fun c r => ExecutorCall.Packs c
      (compiler.edges (place.leg hop) (callsBefore ++ call :: callsAfter)).flags chained layout r) :=
    fun _ _ _ => ExecutorCall.Packs.unique
  cases first.unique_wrap refirst
  cases List.right_unique_forall₂' same packedBefore repackedBefore
  cases List.right_unique_forall₂' same packedAfter repackedAfter
  cases last.unique_unwrap total relast
  refine ⟨before ++ recordsBefore, r, s, recordsAfter ++ after, call, patched, _, by simp, by simp,
    ?_, called, patches, packs, repacks⟩
  rw [List.length_append, first.length_eq, ← packedBefore.length_eq, ← front.length_eq, count]
  rfl

theorem legsRecords_patch {context : LegContext} {place : HopPlace} {hop : Hop} {amount : Word}
    {others : List Record} (sells : context.side = .sell)
    (h : compiler.legsRecords context (place.legs hop) = .ok records)
    (k : compiler.legsRecords context (place.legs (hop.spending amount)) = .ok others)
    (nonempty : ∀ leg ∈ place.legsBefore, leg.hops ≠ []) :
    ∃ front r s rear call patched flags chained,
      records = front ++ r :: rear ∧ others = front ++ s :: rear ∧
      front.length = compiler.recordIndex place hop ∧
      compiler.Calls context.side context.recipient (place.leg hop) hop call ∧
      call.PatchesTo amount patched ∧ call.Packs flags chained context.layout r ∧
      patched.Packs flags chained context.layout s := by
  rw [HopPlace.legs, legsRecords_append_eq_ok_iff] at h k
  obtain ⟨first, _, earlier, middle, rfl⟩ := h
  obtain ⟨_, _, reearlier, remiddle, rfl⟩ := k
  cases earlier.symm.trans reearlier
  obtain ⟨part, last, packed, later, rfl⟩ := legsRecords_cons_eq_ok_iff.1 middle
  obtain ⟨_, relast, repacked, relater, rfl⟩ := legsRecords_cons_eq_ok_iff.1 remiddle
  have behind : (context.behind place.legsBefore).behind [place.leg (hop.spending amount)] =
      (context.behind place.legsBefore).behind [place.leg hop] := by
    simp [LegContext.behind, place.hops_leg]
  rw [behind] at relater
  cases later.symm.trans relater
  obtain ⟨front, r, s, rear, call, patched, flags, rfl, rfl, count, called, patches, packs, repacks⟩ :=
    packed.patch sells repacked
  refine ⟨first ++ front, r, s, rear ++ last, call, patched, flags, _, by simp, by simp, ?_, called,
    patches, packs, repacks⟩
  rw [List.length_append, length_legsRecords earlier nonempty, count, recordIndex, Nat.add_assoc]

/-- In a plan that sells, the record of a hop has a number that the route alone fixes, and where the
record gives a position of the amount spent, compiling the route with another amount at the hop
overwrites the word at that position of the hop's calldata, and changes nothing else of the plan. -/
theorem compile_spending {route : Route} {executor : Executor} {place : HopPlace} {hop : Hop}
    {amount : Word} {plan patched : Plan} (sells : route.side = .sell)
    (legs : route.legs = place.legs hop) (h : compiler.compile route executor = .ok plan)
    (k : compiler.compile { route with legs := place.legs (hop.spending amount) } executor =
      .ok patched) :
    ∃ front record rear call,
      plan.records = front ++ record :: rear ∧ front.length = compiler.recordIndex place hop ∧
      compiler.Calls route.side plan.targetExecutor (place.leg hop) hop call ∧
      ∀ i offset, Instruction.decodeAt executor.layout record.bytes 0 = .ok i →
        i.positions.fromAmount = some offset →
          i.calldata = call.calldata ∧ offset.toNat + Word.size ≤ i.calldata.length ∧
          patched.data = plan.data.overwrite
            ((front.flatMap Record.bytes).length + headerLength + offset.toNat) amount.bytes := by
  obtain ⟨recipient, records, known, shape, compiled, rfl⟩ := compile_eq_ok_iff.1 h
  obtain ⟨_, others, reknown, _, recompiled, rfl⟩ := compile_eq_ok_iff.1 k
  cases known.symm.trans reknown
  have nonempty := Route.hops_ne_nil_of_fault? shape
  rw [legs] at compiled nonempty
  obtain ⟨front, r, s, rear, call, remade, flags, chained, rfl, rfl, count, called, patches, packs,
    repacks⟩ := legsRecords_patch sells compiled recompiled
      fun leg mem => nonempty leg (List.mem_append_left _ mem)
  refine ⟨front, r, rear, call, rfl, count, called, fun i offset read spends => ?_⟩
  obtain ⟨same, room, size, overwritten⟩ := packs.patch patches repacks read spends
  refine ⟨same, room, ?_⟩
  have inside : headerLength + offset.toNat + amount.bytes.length ≤ r.bytes.length := by
    rw [amount.length_bytes]
    omega
  have whole := Bytes.overwrite_part (front.flatMap Record.bytes) (rear.flatMap Record.bytes) inside
  simpa [Plan.data, overwritten, Nat.add_assoc] using whole.symm

/-- The sample route with the largest amount: the word at position 4 of its swap is overwritten. -/
theorem compile_spending_sample :
    ∃ plan patched deposit swap i, (ofNetwork .sample).compile (.sample .one) .first = .ok plan ∧
      (ofNetwork .sample).compile (.sample .max) .first = .ok patched ∧
      plan.records = [deposit, swap] ∧ Instruction.decodeAt .basic swap.bytes 0 = .ok i ∧
      i.positions.fromAmount = some 4 ∧ i.calldata.slice? 4 Word.size = some Word.one.bytes ∧
      patched.data =
        plan.data.overwrite (deposit.bytes.length + headerLength + 4) Word.max.bytes := by
  let place : HopPlace := ⟨[], .repeated 0xEE, .repeated 0x11, [], [], []⟩
  obtain ⟨deposit, swap, compiled, packed⟩ := exists_records_sample .one
  obtain ⟨patched, recompiled⟩ := exists_compile_sample .max
  have legs : (Route.sample .one).legs = place.legs (.sample .one) := rfl
  have again : (ofNetwork .sample).compile
      { Route.sample .one with legs := place.legs ((Hop.sample .one).spending .max) } .first =
        .ok patched := recompiled
  obtain ⟨front, record, rear, _, records, count, _, overwritten⟩ :=
    compile_spending rfl legs compiled again
  have index : (ofNetwork .sample).recordIndex place (.sample .one) = 1 := by cbv
  rw [index] at count
  obtain ⟨first, rfl⟩ := List.length_eq_one_iff.1 count
  cases records
  obtain ⟨positions, resolved, carries⟩ := packed.carries
  cases resolved.symm.trans (positions_sampleCall .one)
  have read := carries.decodeAt
  obtain ⟨_, _, changed⟩ := overwritten _ 4 read rfl
  rw [List.flatMap_singleton] at changed
  exact ⟨_, patched, deposit, swap, _, compiled, recompiled, rfl, read, rfl, slice?_sampleCall .one,
    changed⟩

end Compiler
end SwapPlan
