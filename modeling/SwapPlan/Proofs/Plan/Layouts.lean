import SwapPlan.Proofs.Call.Bounds
import SwapPlan.Proofs.Plan.Targets
import SwapPlan.Proofs.Record.Canonical
/-!
# One route in both layouts

Executors at one address take the same calls, and their layouts refuse nothing of them but calldata
that is too long for the narrower length.  The plans read back the same, except that one layout has
no column for the position of the output (`Compiler.compile_layouts`).
-/
set_option autoImplicit false

namespace SwapPlan

/-- A call that uses neither of the numbers for which the basic layout has a single byte, beyond what
the byte holds. -/
structure ExecutorCall.Portable (call : ExecutorCall) : Prop where
  returned : call.layout.location .returnAmount = none
  special : Instruction.number call.special < 2 ^ 8

theorem Exchange.portable_of_executorCall {exchange : Exchange} {request : SwapRequest}
    {recipient : Address} {data : Json} {call : ExecutorCall}
    (h : exchange.executorCall request recipient data = .ok call) : call.Portable := by
  have absent : Instruction.number none < 2 ^ 8 := Nat.two_pow_pos 8
  have handled : Instruction.number (some PegModule.specialExchange) < 2 ^ 8 := by decide
  cases exchange with
  | converter e =>
    rw [executorCall] at h
    obtain ⟨_, _, _, _, _, rfl⟩ := Converter.executorCall_eq_ok_iff.1 h
    exact ⟨rfl, absent⟩
  | pairRouter e =>
    rw [executorCall] at h
    obtain ⟨_, _, _, _, _, _, rfl⟩ := PairRouter.executorCall_eq_ok_iff.1 h
    refine ⟨?_, absent⟩
    cases request.side <;> rfl
  | pegModule e =>
    rw [executorCall] at h
    obtain ⟨_, way, _, _, _, _, _, _, rfl⟩ := PegModule.executorCall_eq_ok_iff.1 h
    refine ⟨?_, handled⟩
    cases way <;> rfl
  | nativeWrapper e =>
    rw [executorCall] at h
    obtain ⟨conversion, _, rfl⟩ := NativeWrapper.executorCall_eq_ok_iff.1 h
    refine ⟨?_, absent⟩
    cases conversion <;> rfl

namespace ExecutorCall

variable {call : ExecutorCall} {flags : Flags} {chained : Bool} {layout : HeaderLayout}
  {record : Record}

/-- Positions are inside the calldata, so that short calldata is all that another layout needs. -/
theorem Packs.relayout (portable : call.Portable) (h : call.Packs flags chained layout record)
    (short : record.calldata.length < 2 ^ 16) (other : HeaderLayout) :
    ∃ r, call.Packs flags chained other r := by
  obtain ⟨positions, resolved, spends, encoded⟩ := h
  rw [(Instruction.parts_of_encode encoded).2] at short
  have returned := CallLayout.returnAmount_of_positions resolved portable.returned
  have inside : (other.restrict positions).firstOutside? call.calldata.length = none := by
    refine other.firstOutside?_restrict fun entry mem offset found => ?_
    have room := CallLayout.positions_inside resolved entry mem offset found
    unfold Word.size at room
    omega
  obtain ⟨r, recoded⟩ : ∃ r, (call.instruction positions flags).encode other = .ok r := by
    refine Instruction.exists_encode inside short ?_ portable.special
    change Instruction.number positions.returnAmount < 2 ^ 8
    rw [returned]
    exact Nat.two_pow_pos 8
  exact ⟨r, positions, resolved, spends, recoded⟩

/-- A call that returns no amount reads back the same from both layouts, up to the position that the
basic one lacks. -/
theorem reading_basic (call : ExecutorCall) {positions : Positions} (returned : positions.returnAmount = none)
    (edges : NativeEdges) :
    call.reading (HeaderLayout.kept .basic positions) edges =
      (call.reading (HeaderLayout.kept .multiField positions) edges).settled .basic := by
  obtain ⟨fromAmount, toAmount, srcToken, _⟩ := positions
  cases returned
  simp only [reading, Instruction.settled, HeaderLayout.kept, Instruction.mk.injEq, true_and,
    and_true]
  apply Flags.ext_bits
  intro i hi
  simp only [HeaderLayout.lacking, Flags.union, Flags.absences, BitVec.getLsbD_or,
    Flags.getLsbD_ofConditions, List.any_append, List.any_cons, List.any_nil, Option.isNone_none,
    Bool.true_and, Bool.or_false]
  cases toAmount.isNone <;> grind

end ExecutorCall

theorem Record.Carries.calldata {layout : HeaderLayout} {r : Record} {i : Instruction}
    (h : r.Carries layout i) : r.calldata = i.calldata := by
  obtain ⟨written, encoded, _, rfl⟩ := h
  exact (Instruction.parts_of_encode encoded).2

theorem Record.Carries.short {r : Record} {i : Instruction} (h : r.Carries .multiField i) :
    i.calldata.length < 2 ^ 16 := by
  obtain ⟨written, encoded, _, rfl⟩ := h
  obtain ⟨_, fits, _⟩ := Instruction.encode_eq_ok_iff.1 encoded
  exact fits (.length, 2) (by decide)

namespace Network

theorem settled_depositing (network : Network) :
    network.depositing.settled .basic = network.depositing := by
  rw [depositing, Instruction.settled, Instruction.mk.injEq]
  refine ⟨rfl, rfl, rfl, ?_, rfl⟩
  dsimp only
  decide

theorem settled_withdrawing (network : Network) (gained : Word) :
    (network.withdrawing gained).settled .basic = network.withdrawing gained := by
  rw [withdrawing, Instruction.settled, Instruction.mk.injEq]
  refine ⟨rfl, rfl, rfl, ?_, rfl⟩
  dsimp only
  decide

end Network

namespace Compiler

variable {compiler : Compiler} {side : Side} {recipient : Address} {layout : HeaderLayout}
  {chained : Bool} {leg : Leg} {records : List Record}

theorem Calls.portable {hop : Hop} {call : ExecutorCall}
    (h : compiler.Calls side recipient leg hop call) : call.Portable := by
  obtain ⟨exchange, _, made⟩ := h
  exact Exchange.portable_of_executorCall made

theorem LegPacks.relayout (h : compiler.LegPacks side recipient layout chained leg records)
    (short : ∀ r ∈ records, r.calldata.length < 2 ^ 16) (other : HeaderLayout) :
    ∃ others, compiler.LegPacks side recipient other chained leg others := by
  obtain ⟨shares, placed, calls, before, hops, after, made, uniform, first, packed, last, rfl⟩ := h
  rw [List.forall_mem_append, List.forall_mem_append] at short
  -- What the conversions need does not depend on the layout.
  obtain ⟨_, before⟩ : ∃ others, compiler.EdgePacks other leg (compiler.edges leg calls).wrap
      .srcAmount .wrap others := exists_edgePacks_iff.2 (exists_edgePacks_iff.1 ⟨_, first⟩)
  obtain ⟨_, after⟩ : ∃ others, compiler.EdgePacks other leg (compiler.edges leg calls).unwrap
      .destAmount .unwrap others := exists_edgePacks_iff.2 (exists_edgePacks_iff.1 ⟨_, last⟩)
  obtain ⟨_, packs⟩ : ∃ others, List.Forall₂ (fun call r =>
      call.Packs (compiler.edges leg calls).flags chained other r) calls others := by
    refine exists_forall₂_iff.2 fun call mem => ?_
    obtain ⟨hop, _, called⟩ := exists_mem_of_forall₂ made.flip mem
    obtain ⟨r, among, fits⟩ := exists_mem_of_forall₂ packed mem
    exact fits.relayout (Calls.portable called) (short.1.2 r among) other
  exact ⟨_, shares, placed, calls, _, _, _, made, uniform, before, packs, after, rfl⟩

/-- A route with a plan of short calls has a plan for every executor at the same address. -/
theorem exists_compile_relayout {route : Route} {executor other : Executor} {plan : Plan}
    (same : compiler.network.executorAddress? executor =
      compiler.network.executorAddress? other)
    (h : compiler.compile route executor = .ok plan)
    (short : ∀ r ∈ plan.records, r.calldata.length < 2 ^ 16) :
    ∃ plan, compiler.compile route other = .ok plan := by
  obtain ⟨recipient, records, known, shape, compiled, rfl⟩ := compile_eq_ok_iff.1 h
  obtain ⟨parts, packs, rfl⟩ := legsRecords_eq_ok_iff.1 compiled
  obtain ⟨others, recompiled⟩ : ∃ others,
      compiler.legsRecords ⟨route.side, other.layout, recipient, 0, 0⟩ route.legs = .ok others := by
    refine exists_legsRecords_iff.2 fun entry mem => ?_
    obtain ⟨part, among, packed⟩ := exists_mem_of_forall₂ packs mem
    exact packed.relayout (fun r inside => short r (List.mem_flatten_of_mem among inside)) _
  exact ⟨_, compile_eq_ok_iff.2 ⟨recipient, others, same ▸ known, shape, recompiled, rfl⟩⟩

theorem LegReads.relayout {is js : List Instruction}
    (h : compiler.LegReads side recipient .multiField leg is)
    (k : compiler.LegReads side recipient .basic leg js) :
    js = is.map (·.settled .basic) ∧ ∀ i ∈ is, i.positions.returnAmount = none := by
  obtain ⟨calls, hops, gained, made, read, total, rfl⟩ := h
  obtain ⟨_, rehops, regained, remade, reread, retotal, rfl⟩ := k
  have unique : Relator.RightUnique (compiler.Calls side recipient leg) := fun _ _ _ => Calls.unique
  cases List.right_unique_forall₂' unique made remade
  have middle : rehops = hops.map (·.settled .basic) := by
    refine eq_map_of_forall₂ read reread fun call mem i j reads rereads => ?_
    obtain ⟨hop, _, called⟩ := exists_mem_of_forall₂ made.flip mem
    obtain ⟨positions, resolved, rfl⟩ := reads
    obtain ⟨_, again, rfl⟩ := rereads
    cases resolved.symm.trans again
    have portable := Calls.portable called
    exact call.reading_basic (CallLayout.returnAmount_of_positions resolved portable.returned) _
  have last : (compiler.nativeEnds leg calls).unwrap = true → regained = gained := by
    intro unwraps
    exact Word.ext ((retotal unwraps).trans (total unwraps).symm)
  constructor
  · rw [List.map_append, List.map_append, middle]
    congr 1
    · congr 1
      split
      · rw [List.map_singleton, Network.settled_depositing]
      · rfl
    · split
      · rename_i unwraps
        rw [List.map_singleton, Network.settled_withdrawing, last unwraps]
      · rfl
  · rw [List.forall_mem_append, List.forall_mem_append]
    refine ⟨⟨?_, ?_⟩, ?_⟩
    · split <;> simp [Network.depositing, Positions.none]
    · intro i mem
      obtain ⟨_, _, _, _, rfl⟩ := exists_mem_of_forall₂ read.flip mem
      rfl
    · split <;> simp [Network.withdrawing, Positions.none]

theorem legsReads_relayout {legs : List Leg} {parts others : List (List Instruction)}
    (h : List.Forall₂ (compiler.LegReads side recipient .multiField) legs parts)
    (k : List.Forall₂ (compiler.LegReads side recipient .basic) legs others) :
    others.flatten = parts.flatten.map (·.settled .basic) ∧
      ∀ i ∈ parts.flatten, i.positions.returnAmount = none := by
  constructor
  · rw [List.map_flatten, eq_map_of_forall₂ h k fun _ _ _ _ reads rereads =>
      (reads.relayout rereads).1]
  · intro i mem
    obtain ⟨part, among, inside⟩ := List.mem_flatten.1 mem
    obtain ⟨leg, mem, reads⟩ := exists_mem_of_forall₂ h.flip among
    obtain ⟨other, _, rereads⟩ := exists_mem_of_forall₂ k mem
    exact (LegReads.relayout reads rereads).2 i inside

variable {network : Network} {route : Route}

theorem compile_relayout {old : Executor} {newer older : Plan} (basic : old.layout = .basic)
    (same : network.executorAddress? old = network.executorAddress? .third)
    (h : (ofNetwork network).compile route .third = .ok newer)
    (k : (ofNetwork network).compile route old = .ok older) :
    ∃ is, newer.decode = .ok is ∧ older.decode = .ok (is.map (·.settled .basic)) ∧
      (∀ i ∈ is, i.positions.returnAmount = none) ∧
      ∀ r ∈ older.records, r.calldata.length < 2 ^ 16 := by
  obtain ⟨parts, known, reads, carry, decoded⟩ := compile_carries h
  obtain ⟨others, again, rereads, recarry, redecoded⟩ := compile_carries k
  rw [same, known, Option.some.injEq] at again
  rw [basic, ← again] at rereads
  obtain ⟨settled, returned⟩ := legsReads_relayout reads rereads
  rw [settled] at recarry redecoded
  refine ⟨parts.flatten, decoded, redecoded, returned, fun r mem => ?_⟩
  -- The call of a record is also in a record of the newer plan, which holds short calls only.
  obtain ⟨_, among, carried⟩ := exists_mem_of_forall₂ recarry mem
  obtain ⟨i, inside, rfl⟩ := List.mem_map.1 among
  obtain ⟨_, _, carries⟩ := exists_mem_of_forall₂ carry.flip inside
  have short : i.calldata.length < 2 ^ 16 := Record.Carries.short carries
  rw [carried.calldata]
  exact short

/-- With the executors of both layouts at one address, a route compiles for the newer layout exactly if
it compiles for the basic one to calls of at most 65535 bytes.  The plans then read back the same,
except that the basic one has no position of the output, and flags it absent. -/
theorem compile_layouts {old : Executor} (basic : old.layout = .basic)
    (same : network.executorAddress? old = network.executorAddress? .third) :
    ((∃ newer, (ofNetwork network).compile route .third = .ok newer) ↔
      ∃ older, (ofNetwork network).compile route old = .ok older ∧
        ∀ r ∈ older.records, r.calldata.length ≤ 65535) ∧
    ∀ newer older, (ofNetwork network).compile route .third = .ok newer →
      (ofNetwork network).compile route old = .ok older →
      ∃ is, newer.decode = .ok is ∧ older.decode = .ok (is.map (·.settled .basic)) ∧
        ∀ i ∈ is, i.positions.returnAmount = none := by
  refine ⟨⟨?_, ?_⟩, ?_⟩
  · rintro ⟨newer, compiled⟩
    obtain ⟨_, _, _, carry, _⟩ := compile_carries compiled
    obtain ⟨older, recompiled⟩ := exists_compile_relayout same.symm compiled fun r mem => by
      obtain ⟨_, _, carried⟩ := exists_mem_of_forall₂ carry mem
      rw [carried.calldata]
      exact carried.short
    obtain ⟨_, _, _, _, short⟩ := compile_relayout basic same compiled recompiled
    exact ⟨older, recompiled, fun r mem => Nat.le_of_lt_succ (short r mem)⟩
  · rintro ⟨older, compiled, short⟩
    exact exists_compile_relayout same compiled fun r mem => Nat.lt_succ_of_le (short r mem)
  · intro newer older compiled recompiled
    obtain ⟨is, decoded, redecoded, returned, _⟩ := compile_relayout basic same compiled recompiled
    exact ⟨is, decoded, redecoded, returned⟩

/-- A network with the executors of both layouts at one address, and a router. -/
theorem compile_layouts_sample :
    let network : Network := { Network.sample with
      executors := Network.sample.executors.insert .third (.repeated 0xE1) }
    Executor.first.layout = .basic ∧
    network.executorAddress? .first = network.executorAddress? .third ∧
    ∃ newer older is, (ofNetwork network).compile (.sample .one) .third = .ok newer ∧
      (ofNetwork network).compile (.sample .one) .first = .ok older ∧
      (∀ r ∈ older.records, r.calldata.length ≤ 65535) ∧
      newer.decode = .ok is ∧ older.decode = .ok (is.map (·.settled .basic)) := by
  intro network
  have same : network.executorAddress? .first = network.executorAddress? .third := by decide
  have known : network.executorAddress? .third = some (.repeated 0xE1) := by decide
  have listed : network.exchangeAddress? PairRouter.key = some (.repeated 0x22) := by cbv
  obtain ⟨newer, compiled⟩ := exists_compile_router .one known listed
  obtain ⟨alike, plans⟩ := @compile_layouts network (.sample .one) .first rfl same
  obtain ⟨older, recompiled, short⟩ := alike.1 ⟨newer, compiled⟩
  obtain ⟨is, decoded, redecoded, _⟩ := plans newer older compiled recompiled
  exact ⟨rfl, same, newer, older, is, compiled, recompiled, short, decoded, redecoded⟩

end Compiler
end SwapPlan
