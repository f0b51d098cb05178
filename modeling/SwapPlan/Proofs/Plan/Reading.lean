import SwapPlan.Proofs.Exchange.Spending
import SwapPlan.Proofs.Plan.Legs
import SwapPlan.Proofs.Plan.Shape
import SwapPlan.Proofs.Record.Boundaries
/-!
# What a plan says

A compiled plan reads back leg by leg: a deposit where the leg is wrapped, one instruction per hop
as its exchange makes the call, and a withdrawal where the leg is unwrapped.
-/
set_option autoImplicit false

namespace SwapPlan

/-- The instruction that a hop's call stands for in a plan. -/
def ExecutorCall.reading (call : ExecutorCall) (positions : Positions) (edges : NativeEdges) :
    Instruction where
  target := call.target
  positions := positions
  special := call.special
  flags := .ofConditions ([(.needsWrap, edges.wrap), (.unwrapOutput, edges.unwrap),
    (.specialExchange, call.special.isSome), (.noRecipient, !call.namesRecipient),
    (.noDestToken, !call.namesDestToken), (.sendNative, call.sendsNative)]
    ++ Flags.absences positions)
  calldata := call.calldata

namespace Network

def depositing (network : Network) : Instruction where
  target := network.wrappedNative
  positions := .none
  special := none
  flags := .ofConditions ([(.sendNative, true), (.noRecipient, true), (.noDestToken, true)]
    ++ Flags.absences .none)
  calldata := NativeWrapper.deposit.selector

def withdrawing (network : Network) (amount : Word) : Instruction where
  target := network.wrappedNative
  positions := { Positions.none with fromAmount := some 4 }
  special := none
  flags := .ofConditions ([(.noRecipient, true), (.noDestToken, true)]
    ++ Flags.absences { Positions.none with fromAmount := some 4 })
  calldata := NativeWrapper.withdraw.selector ++ amount.bytes

end Network

namespace Compiler

/-- How a leg treats the native token: it is wrapped or unwrapped at a native end if one of its calls
needs that. -/
def nativeEnds (compiler : Compiler) (leg : Leg) (calls : List ExecutorCall) : NativeEdges where
  wrap := compiler.network.isNative leg.srcToken && calls.any (·.needsWrap)
  unwrap := compiler.network.isNative leg.destToken && calls.any (·.needsWrap)

/-- The instructions that a leg stands for in a plan: those of its hops in order, after a deposit if
the leg is wrapped, and before a withdrawal of all that the hops gain if it is unwrapped. -/
def LegReads (compiler : Compiler) (side : Side) (recipient : Address) (layout : HeaderLayout)
    (leg : Leg) (instructions : List Instruction) : Prop :=
  ∃ calls hops gained,
    List.Forall₂ (compiler.Calls side recipient leg) leg.hops calls ∧
    List.Forall₂ (fun call i => ∃ positions,
      call.layout.positions call.calldata = .ok positions ∧
      i = call.reading (layout.kept positions) (compiler.nativeEnds leg calls)) calls hops ∧
    ((compiler.nativeEnds leg calls).unwrap = true →
      gained.toNat = (leg.hops.map (·.destAmount.toNat)).sum) ∧
    instructions =
      (if (compiler.nativeEnds leg calls).wrap then [compiler.network.depositing] else [])
        ++ hops
        ++ (if (compiler.nativeEnds leg calls).unwrap then [compiler.network.withdrawing gained]
          else [])

end Compiler

theorem NativeEdges.flags_neither : NativeEdges.flags ⟨false, false⟩ = .empty := by decide

theorem ExecutorCall.normalForm_instruction (call : ExecutorCall) (positions : Positions)
    (edges : NativeEdges) (layout : HeaderLayout) :
    (call.instruction positions edges.flags).normalForm layout =
      call.reading (layout.kept positions) edges := by
  simp only [instruction, Instruction.normalForm, reading, Instruction.mk.injEq, true_and, and_true]
  apply Flags.ext_bits
  intro i hi
  have blank : Flags.empty.bits.getLsbD i = false := BitVec.getLsbD_zero
  simp only [NativeEdges.flags, Flags.getLsbD_set, Flags.union, Flags.without, Flags.absences,
    BitVec.getLsbD_or, BitVec.getLsbD_and, BitVec.getLsbD_not, Flags.getLsbD_ofConditions,
    List.cons_append, List.nil_append, List.any_cons, List.any_nil, hi, blank]
  simp (disch := decide) only [Flags.getLsbD_named, Flags.getLsbD_carriage hi]
  interval_cases i <;> simp +decide

theorem ExecutorCall.hasUndefined_instruction (call : ExecutorCall) (positions : Positions)
    (edges : NativeEdges) :
    (call.instruction positions edges.flags).flags.hasUndefined = false := by
  have none : (call.instruction positions edges.flags).flags.undefinedBits = 0 := by
    rw [instruction, NativeEdges.flags, Flags.undefinedBits_set _ _ _ (by decide),
      Flags.undefinedBits_set _ _ _ (by decide), Flags.undefinedBits_set _ _ _ (by decide),
      Flags.undefinedBits_set _ _ _ (by decide), Flags.undefinedBits_set _ _ _ (by decide)]
    decide
  rw [Flags.hasUndefined, none]
  rfl

theorem ExecutorCall.Packs.carries {call : ExecutorCall} {edges : NativeEdges} {chained : Bool}
    {layout : HeaderLayout} {record : Record} (h : call.Packs edges.flags chained layout record) :
    ∃ positions, call.layout.positions call.calldata = .ok positions ∧
      record.Carries layout (call.reading (layout.kept positions) edges) := by
  obtain ⟨positions, resolved, _, encoded⟩ := h
  exact ⟨positions, resolved, _, encoded, call.hasUndefined_instruction positions edges,
    (call.normalForm_instruction positions edges layout).symm⟩

namespace Compiler

variable {network : Network} {layout : HeaderLayout} {leg : Leg} {records : List Record}

theorem kept_conversionPositions (conversion : NativeWrapper.Conversion) :
    layout.kept (NativeWrapper.conversionPositions conversion) =
      NativeWrapper.conversionPositions conversion := by
  cases conversion <;> cases layout <;> rfl

theorem reading_deposit (amount : Word) :
    ((NativeWrapper.ofNetwork network).conversionCall .wrap amount).reading
      (NativeWrapper.conversionPositions .wrap) ⟨false, false⟩ = network.depositing := by
  rw [ExecutorCall.reading, Network.depositing, Instruction.mk.injEq]
  refine ⟨rfl, rfl, rfl, ?_, rfl⟩
  simp only [NativeWrapper.conversionCall]
  decide

theorem reading_withdrawal (amount : Word) :
    ((NativeWrapper.ofNetwork network).conversionCall .unwrap amount).reading
      (NativeWrapper.conversionPositions .unwrap) ⟨false, false⟩ = network.withdrawing amount := by
  rw [ExecutorCall.reading, Network.withdrawing, Instruction.mk.injEq]
  refine ⟨rfl, rfl, rfl, ?_, rfl⟩
  simp only [NativeWrapper.conversionCall]
  decide

theorem conversion_carries {conversion : NativeWrapper.Conversion} {amount : Word}
    {record : Record}
    (h : ((NativeWrapper.ofNetwork network).conversionCall conversion amount).Packs .empty false
      layout record) :
    record.Carries layout
      (((NativeWrapper.ofNetwork network).conversionCall conversion amount).reading
        (NativeWrapper.conversionPositions conversion) ⟨false, false⟩) := by
  rw [← NativeEdges.flags_neither] at h
  obtain ⟨positions, resolved, carried⟩ := h.carries
  have known := resolved.symm.trans (NativeWrapper.positions_conversion conversion amount)
  rw [Except.ok.injEq] at known
  rwa [known, kept_conversionPositions] at carried

theorem EdgePacks.carries_deposit {needed : Bool}
    (h : (ofNetwork network).EdgePacks layout leg needed .srcAmount .wrap records) :
    List.Forall₂ (Record.Carries layout) records (if needed then [network.depositing] else []) := by
  cases needed with
  | false =>
    cases h
    exact .nil
  | true =>
    obtain ⟨amount, call, record, _, made, packed, rfl⟩ := h
    rw [NativeWrapper.convert_eq_ok] at made
    cases made
    have carried := conversion_carries packed
    rw [reading_deposit] at carried
    exact .cons carried .nil

theorem EdgePacks.carries_withdrawal {needed : Bool}
    (h : (ofNetwork network).EdgePacks layout leg needed .destAmount .unwrap records) :
    ∃ gained : Word,
      (needed = true → gained.toNat = (leg.hops.map (·.destAmount.toNat)).sum) ∧
      List.Forall₂ (Record.Carries layout) records
        (if needed then [network.withdrawing gained] else []) := by
  cases needed with
  | false =>
    cases h
    exact ⟨.zero, nofun, .nil⟩
  | true =>
    obtain ⟨amount, call, record, total, made, packed, rfl⟩ := h
    rw [NativeWrapper.convert_eq_ok] at made
    cases made
    have carried := conversion_carries packed
    rw [reading_withdrawal] at carried
    refine ⟨amount, fun _ => ?_, .cons carried .nil⟩
    rw [Leg.total?, Word.ofNat?] at total
    split at total <;> cases total
    rw [List.sum_eq_foldr, List.foldr_map]
    rfl

/-- What a leg asks for adds nothing to what its ends need: it may only ask at a native end, and then
all of its calls need the wrapped token. -/
theorem edges_eq_nativeEnds {compiler : Compiler} {side : Side} {recipient : Address}
    {calls : List ExecutorCall} (sound : leg.wrapFault? compiler.network = none)
    (nonempty : leg.hops ≠ [])
    (made : List.Forall₂ (compiler.Calls side recipient leg) leg.hops calls)
    (wrapped : (compiler.edges leg calls).wrap = true ∨
      (compiler.edges leg calls).unwrap = true → ∀ call ∈ calls, call.needsWrap = true) :
    compiler.edges leg calls = compiler.nativeEnds leg calls := by
  have ordered := Leg.wrapFault?_eq_none_iff.1 ⟨sound, nonempty⟩
  have needed : leg.asksWrap = true ∨ leg.asksUnwrap = true →
      calls.any (·.needsWrap) = true := by
    intro asks
    have some : calls ≠ [] := by
      rintro rfl
      exact nonempty (List.forall₂_nil_right_iff.1 made)
    obtain ⟨call, mem⟩ := List.exists_mem_of_ne_nil calls some
    refine List.any_eq_true.2 ⟨call, mem, wrapped ?_ call mem⟩
    rcases asks with asks | asks
    · exact .inl (by simp [edges, asks])
    · exact .inr (by simp [edges, asks])
  rw [edges, nativeEnds]
  congr 1
  · cases asks : leg.asksWrap with
    | false => rw [Bool.false_or, Bool.and_comm]
    | true => simp [needed (.inl asks), ordered.isNative_of_asksWrap asks]
  · cases asks : leg.asksUnwrap with
    | false => rw [Bool.false_or, Bool.and_comm]
    | true => simp [needed (.inr asks), ordered.isNative_of_asksUnwrap asks]

theorem hops_carry {edges : NativeEdges} {chained : Bool} {calls : List ExecutorCall}
    (h : List.Forall₂ (fun call r => call.Packs edges.flags chained layout r) calls records) :
    ∃ hops, List.Forall₂ (fun call i => ∃ positions,
        call.layout.positions call.calldata = .ok positions ∧
        i = call.reading (layout.kept positions) edges) calls hops ∧
      List.Forall₂ (Record.Carries layout) records hops := by
  induction h with
  | nil => exact ⟨[], .nil, .nil⟩
  | cons packed _ ih =>
    obtain ⟨positions, resolved, carried⟩ := packed.carries
    obtain ⟨hops, read, carry⟩ := ih
    exact ⟨_ :: hops, .cons ⟨positions, resolved, rfl⟩ read, .cons carried carry⟩

theorem LegPacks.carries {side : Side} {recipient : Address} {chained : Bool}
    (h : (ofNetwork network).LegPacks side recipient layout chained leg records)
    (nonempty : leg.hops ≠ []) :
    ∃ instructions, (ofNetwork network).LegReads side recipient layout leg instructions ∧
      List.Forall₂ (Record.Carries layout) records instructions := by
  obtain ⟨_, sound, calls, before, hops, after, made, wrapped, first, packed, last, rfl⟩ := h
  rw [edges_eq_nativeEnds sound nonempty made wrapped] at first packed last
  obtain ⟨instructions, read, carried⟩ := hops_carry packed
  obtain ⟨gained, total, withdrawn⟩ := EdgePacks.carries_withdrawal last
  refine ⟨_, ⟨calls, instructions, gained, made, read, total, rfl⟩, ?_⟩
  exact List.rel_append (List.rel_append (EdgePacks.carries_deposit first) carried) withdrawn

theorem legsRecords_carry {context : LegContext} {legs : List Leg}
    (h : (ofNetwork network).legsRecords context legs = .ok records)
    (nonempty : ∀ leg ∈ legs, leg.hops ≠ []) :
    ∃ parts,
      List.Forall₂ ((ofNetwork network).LegReads context.side context.recipient context.layout)
        legs parts ∧
      List.Forall₂ (Record.Carries context.layout) records parts.flatten := by
  induction legs generalizing context records with
  | nil =>
    cases h
    exact ⟨[], .nil, .nil⟩
  | cons leg rest ih =>
    rw [List.forall_mem_cons] at nonempty
    obtain ⟨first, others, packed, compiled, rfl⟩ := legsRecords_cons_eq_ok_iff.1 h
    obtain ⟨instructions, read, carried⟩ := packed.carries nonempty.1
    obtain ⟨parts, reads, carry⟩ := ih compiled nonempty.2
    exact ⟨instructions :: parts, .cons read reads, List.rel_append carried carry⟩

/-- The records of a compiled plan carry the instructions that its legs stand for. -/
theorem compile_carries {route : Route} {executor : Executor} {plan : Plan}
    (h : (ofNetwork network).compile route executor = .ok plan) :
    ∃ parts, network.executorAddress? executor = some plan.targetExecutor ∧
      List.Forall₂ ((ofNetwork network).LegReads route.side plan.targetExecutor executor.layout)
        route.legs parts ∧
      List.Forall₂ (Record.Carries executor.layout) plan.records parts.flatten ∧
      plan.decode = .ok parts.flatten := by
  obtain ⟨recipient, records, known, shape, compiled, rfl⟩ := compile_eq_ok_iff.1 h
  obtain ⟨parts, reads, carry⟩ :=
    legsRecords_carry compiled (Route.hops_ne_nil_of_fault? shape)
  exact ⟨parts, known, reads, carry, decodePlan_of_carries carry⟩

/-- A compiled plan reads back, leg by leg in order, as the instructions its legs stand for. -/
theorem decode_compile {route : Route} {executor : Executor} {plan : Plan}
    (h : (ofNetwork network).compile route executor = .ok plan) :
    plan.data = (plan.records.map Record.bytes).flatten ∧
    ∃ recipient parts, network.executorAddress? executor = some recipient ∧
      List.Forall₂ ((ofNetwork network).LegReads route.side recipient executor.layout)
        route.legs parts ∧
      plan.decode = .ok parts.flatten := by
  obtain ⟨recipient, records, known, shape, compiled, rfl⟩ := compile_eq_ok_iff.1 h
  obtain ⟨parts, reads, carry⟩ :=
    legsRecords_carry compiled (Route.hops_ne_nil_of_fault? shape)
  exact ⟨List.flatMap_def, recipient, parts, known, reads, decodePlan_of_carries carry⟩

end Compiler

theorem ExecutorCall.exists_packs {call : ExecutorCall} {positions : Positions} {flags : Flags}
    {layout : HeaderLayout}
    (resolved : call.layout.positions call.calldata = .ok positions)
    (inside : (layout.restrict positions).firstOutside? call.calldata.length = none)
    (short : call.calldata.length < 2 ^ 16)
    (returned : Instruction.number positions.returnAmount < 2 ^ 8)
    (special : Instruction.number call.special < 2 ^ 8) :
    ∃ r, call.Packs flags false layout r := by
  obtain ⟨r, encoded⟩ :=
    Instruction.exists_encode (i := call.instruction positions flags) inside short returned special
  exact ⟨r, positions, resolved, nofun, encoded⟩

theorem NativeWrapper.exists_packs (wrapper : NativeWrapper) (conversion : Conversion)
    (amount : Word) (flags : Flags) (layout : HeaderLayout) :
    ∃ r, (wrapper.conversionCall conversion amount).Packs flags false layout r := by
  have size := length_conversionData conversion amount
  refine ExecutorCall.exists_packs (positions_conversion conversion amount) ?_ ?_ ?_
    (Nat.two_pow_pos 8)
  · rw [conversionCall, size]
    cases conversion <;> cases layout <;> decide
  · rw [conversionCall, size]
    cases conversion <;> decide
  · cases conversion <;> decide

theorem PairRouter.exists_packs {request : SwapRequest} {path : List Address}
    {recipient target : Address} (sells : request.side = .sell) (long : 2 ≤ path.length)
    (short : path.length ≤ 2000) (flags : Flags) (layout : HeaderLayout) :
    ∃ r, (swapCall request path recipient target).Packs flags false layout r := by
  have size := length_swapCall request path recipient target
  have small : (swapCall request path recipient target).calldata.length < 2 ^ 16 := by omega
  refine ExecutorCall.exists_packs
    (positions_swapCall sells long (Nat.lt_trans small (by decide)))
    (layout.firstOutside?_restrict ?_) small (by decide) (Nat.two_pow_pos 8)
  simp [Positions.named, size]
  omega

def Network.sample : Network where
  chainId := 1
  name := "sample"
  nativeToken := .repeated 0xEE
  wrappedNative := .repeated 0xC0
  augustus := .repeated 0xA0
  tokenTransferProxy := .repeated 0xB0
  executors := AddressBook.empty.insert .first (.repeated 0xE1)
  adapters := .empty
  exchanges := AddressBook.empty.insert PairRouter.key (.repeated 0x22)

def Hop.sample (amount : Word) : Hop := ⟨PairRouter.key, 100, amount, .one, .null⟩

def Route.sample (amount : Word) : Route where
  side := .sell
  srcToken := .repeated 0xEE
  destToken := .repeated 0x11
  srcAmount := .one
  destAmount := .one
  legs := [⟨.repeated 0xEE, .repeated 0x11, [.swap (.sample amount)]⟩]

def Hop.sampleCall (amount : Word) : ExecutorCall :=
  PairRouter.swapCall ⟨.repeated 0xEE, .repeated 0x11, amount, .one, .sell⟩
    [.repeated 0xC0, .repeated 0x11] (.repeated 0xE1) (.repeated 0x22)

namespace Compiler

theorem calls_sample (amount : Word) :
    (ofNetwork .sample).Calls .sell (.repeated 0xE1)
      ⟨.repeated 0xEE, .repeated 0x11, [.swap (.sample amount)]⟩ (.sample amount)
      (Hop.sampleCall amount) := by
  refine ⟨.pairRouter (.ofNetwork .sample), by cbv, ?_⟩
  exact PairRouter.executorCall_eq_ok_iff.2 ⟨⟨none, []⟩, _, _, rfl, rfl, by decide +kernel, rfl⟩

theorem exists_records_sample (amount : Word) :
    ∃ deposit swap, (ofNetwork .sample).compile (.sample amount) .first =
        .ok ⟨.first, [deposit, swap], .repeated 0xB0, .repeated 0xE1⟩ ∧
      (Hop.sampleCall amount).Packs (NativeEdges.flags ⟨true, false⟩) false .basic swap := by
  let leg : Leg := ⟨.repeated 0xEE, .repeated 0x11, [.swap (.sample amount)]⟩
  let call := Hop.sampleCall amount
  obtain ⟨deposit, first⟩ := (NativeWrapper.ofNetwork .sample).exists_packs .wrap amount .empty
    .basic
  obtain ⟨swap, second⟩ :
      ∃ r, call.Packs ((ofNetwork .sample).edges leg [call]).flags false .basic r :=
    PairRouter.exists_packs rfl (by decide) (by decide) _ _
  have packed : (ofNetwork .sample).LegPacks .sell (.repeated 0xE1) .basic false leg
      [deposit, swap] := by
    refine ⟨rfl, rfl, [call], [deposit], [swap], [], .cons (calls_sample amount) .nil, ?_, ?_,
      .cons second .nil, rfl, rfl⟩
    · intro _ c mem
      rw [List.mem_singleton.1 mem]
      rfl
    · refine ⟨amount, _, deposit, ?_, NativeWrapper.convert_eq_ok _ _ _, first, rfl⟩
      exact Word.ofNat?_toNat amount
  have compiled : (ofNetwork .sample).legsRecords ⟨.sell, .basic, .repeated 0xE1, 0, 0⟩ [leg] =
      .ok ([deposit, swap] ++ []) := legsRecords_cons_eq_ok_iff.2 ⟨_, [], packed, rfl, rfl⟩
  exact ⟨deposit, swap,
    compile_eq_ok_iff.2 ⟨.repeated 0xE1, _, by decide, rfl, compiled, rfl⟩, second⟩

theorem exists_compile_sample (amount : Word) :
    ∃ plan, (ofNetwork .sample).compile (.sample amount) .first = .ok plan :=
  let ⟨_, _, compiled, _⟩ := exists_records_sample amount
  ⟨_, compiled⟩

theorem positions_sampleCall (amount : Word) :
    (Hop.sampleCall amount).layout.positions (Hop.sampleCall amount).calldata =
      .ok ⟨some 4, some 36, some 196, none⟩ := by
  refine PairRouter.positions_swapCall rfl (by decide) ?_
  show (Hop.sampleCall amount).calldata.length < 2 ^ 256
  rw [Hop.sampleCall, PairRouter.length_swapCall]
  decide

theorem slice?_sampleCall (amount : Word) :
    (Hop.sampleCall amount).calldata.slice? 4 Word.size = some amount.bytes :=
  Function.slice?_call (PairRouter.describe_arguments
    ⟨.repeated 0xEE, .repeated 0x11, amount, .one, .sell⟩ [.repeated 0xC0, .repeated 0x11]
    (.repeated 0xE1)) ⟨0, []⟩ rfl rfl

theorem decode_compile_sample :
    ∃ plan, (ofNetwork .sample).compile (.sample .one) .first = .ok plan ∧
      ∃ recipient parts, Network.sample.executorAddress? .first = some recipient ∧
        List.Forall₂ ((ofNetwork .sample).LegReads .sell recipient .basic)
          (Route.sample .one).legs parts ∧
        plan.decode = .ok parts.flatten := by
  obtain ⟨plan, compiled⟩ := exists_compile_sample .one
  exact ⟨plan, compiled, (decode_compile compiled).2⟩

end Compiler
end SwapPlan
