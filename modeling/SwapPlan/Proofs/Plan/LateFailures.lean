import SwapPlan.Proofs.Exchange.Fields
import SwapPlan.Proofs.Exchange.Refusals
import SwapPlan.Proofs.Plan.Blame
import SwapPlan.Proofs.Plan.Layouts
import SwapPlan.Proofs.Plan.SourceTokens
import SwapPlan.Proofs.Record.WireImage
/-!
# How packing fails

Once its call is made, a hop fails for two reasons only: it is chained and its call has no position for
the amount spent, or the calldata is too long for the layout.  The narrow layout refuses calls over a
path of more than 2041 tokens, and no others (`Compiler.compile_late_failures`); the bound is exact
(`Compiler.exists_compile_third_iff`, `Compiler.compile_third_of_long`).
-/
set_option autoImplicit false

namespace SwapPlan

namespace ExecutorCall

variable {call : ExecutorCall} {positions : Positions}

theorem inside_instruction (resolved : call.layout.positions call.calldata = .ok positions)
    (flags : Flags) (layout : HeaderLayout) :
    (call.instruction positions flags).Inside layout := by
  refine Instruction.inside_iff.2 (layout.firstOutside?_restrict ?_)
  intro entry member offset present
  have room := CallLayout.positions_inside resolved entry member offset present
  exact Nat.lt_of_lt_of_le (Nat.lt_add_of_pos_right (by decide)) room

/-- A call of an exchange is refused by a layout only for the length of its calldata. -/
theorem overflow_of_encode {flags : Flags} {layout : HeaderLayout} {cause : EncodingError}
    (portable : call.Portable)
    (resolved : call.layout.positions call.calldata = .ok positions)
    (failed : (call.instruction positions flags).encode layout = .error cause) :
    2 ^ layout.lengthBits ≤ call.calldata.length ∧
      cause = .overflow .length call.calldata.length layout.lengthBits := by
  have returned : positions.returnAmount = none :=
    CallLayout.returnAmount_of_positions resolved portable.returned
  cases Instruction.encode_eq_error_iff.1 failed with
  | outside split before outside =>
    have inside := inside_instruction resolved flags layout
    have entry := inside (_, some _) (split ▸ List.mem_append_right _ List.mem_cons_self) _ rfl
    exact absurd outside (Nat.not_le.2 entry)
  | long _ long => exact ⟨long, rfl⟩
  | returned _ _ _ large =>
    have zero : Instruction.number positions.returnAmount = 0 := by
      rw [returned]
      rfl
    have number : 255 < Instruction.number positions.returnAmount := large
    omega
  | special _ _ _ _ large =>
    have number : 255 < Instruction.number call.special := large
    have byte := portable.special
    omega

end ExecutorCall

namespace Exchange

def path? : Exchange → Json → Option (List Address)
  | converter _, data =>
    (readHopData Converter.key Converter.HopData.ofJson data).toOption.map (·.path)
  | pairRouter _, data =>
    (readHopData PairRouter.key PairRouter.HopData.ofJson data).toOption.map (·.path)
  | pegModule _, _ => none
  | nativeWrapper _, _ => none

variable {exchange : Exchange} {request : SwapRequest} {recipient : Address} {data : Json}
  {call : ExecutorCall}

theorem length_cases (h : exchange.executorCall request recipient data = .ok call) :
    (∃ path, exchange.path? data = some path ∧ path ≠ [] ∧
      call.calldata.length = 196 + 32 * path.length) ∨
    (∀ path, exchange.path? data = some path → path = []) ∧ call.calldata.length ≤ 260 := by
  cases exchange with
  | converter e =>
    rw [executorCall] at h
    obtain ⟨hop, network, accepted, long, _, rfl⟩ := Converter.executorCall_eq_ok_iff.1 h
    have read := Converter.readHopData_of_accept accepted
    refine .inl ⟨hop.path, ?_, ?_, Converter.length_conversionCall request hop network⟩
    · rw [path?, read]
      rfl
    · exact List.ne_nil_of_length_pos (by omega)
  | pairRouter e =>
    rw [executorCall] at h
    obtain ⟨hop, path, target, accepted, found, _, rfl⟩ := PairRouter.executorCall_eq_ok_iff.1 h
    have read := PairRouter.readHopData_of_accept accepted
    obtain ⟨_, rfl⟩ := PairRouter.path_eq_ok_iff.1 found
    have given : path? (.pairRouter e) data = some hop.path := by
      rw [path?, read]
      rfl
    rw [PairRouter.length_swapCall, List.length_map, PairRouter.tokens]
    by_cases empty : hop.path = []
    · refine .inr ⟨?_, ?_⟩
      · intro path same
        rw [given, Option.some.injEq] at same
        rw [← same, empty]
      · rw [empty]
        exact Nat.le_refl 260
    · refine .inl ⟨hop.path, given, empty, ?_⟩
      rw [if_neg (by simpa using empty)]
  | pegModule e =>
    rw [executorCall] at h
    obtain ⟨_, _, _, _, _, _, _, _, rfl⟩ := PegModule.executorCall_eq_ok_iff.1 h
    refine .inr ⟨fun path given => ?_, ?_⟩
    · cases given
    · rw [PegModule.length_gemCall]
      decide
  | nativeWrapper e =>
    rw [executorCall] at h
    obtain ⟨conversion, _, rfl⟩ := NativeWrapper.executorCall_eq_ok_iff.1 h
    refine .inr ⟨fun path given => ?_, ?_⟩
    · cases given
    · rw [NativeWrapper.conversionCall, NativeWrapper.length_conversionData]
      cases conversion <;> decide

end Exchange

def Hop.path? (hop : Hop) : Option (List Address) :=
  if hop.exchange.toLower = Converter.key then
    (readHopData Converter.key Converter.HopData.ofJson hop.data).toOption.map (·.path)
  else if hop.exchange.toLower = PairRouter.key then
    (readHopData PairRouter.key PairRouter.HopData.ofJson hop.data).toOption.map (·.path)
  else none

theorem Exchange.path?_of_find? {network : Network} {hop : Hop} {exchange : Exchange}
    (found : (Registry.ofNetwork network).find? hop.exchange = some exchange) :
    exchange.path? hop.data = hop.path? := by
  obtain ⟨member, named⟩ := Registry.mem_of_find? found
  simp only [ofNetwork, List.mem_cons, List.not_mem_nil, or_false] at member
  unfold Hop.path?
  rw [← named]
  rcases member with rfl | rfl | rfl | rfl <;>
    simp [path?, key, Converter.key, PairRouter.key, PegModule.key, NativeWrapper.key]

/-- An error in packing the call of a hop. -/
inductive CompileError.OfPacking : CompileError → Prop
  | position (hop : Nat) (cause : PositionError) : OfPacking (.position hop cause)
  | encoding (hop : Nat) (cause : EncodingError) : OfPacking (.encoding hop cause)

namespace Compiler

/-- All calls that the hops of a route can have are shorter than a limit: that of memory, or that of the
lengths that a layout has room for. -/
def CallsBelow (compiler : Compiler) (route : Route) (limit : Nat) : Prop :=
  ∀ leg ∈ route.legs, ∀ hop ∈ leg.hops, ∀ recipient call,
    compiler.Calls route.side recipient leg hop call → call.calldata.length < limit

section Legs

variable {compiler : Compiler} {context : LegContext} {leg : Leg} {e : CompileError}

theorem LegFails.exists_fails (h : compiler.LegFails context leg e) (packing : e.OfPacking) :
    ∃ offset hop call flags chained, leg.hops[offset]? = some hop ∧
      compiler.Calls context.side context.recipient leg hop call ∧
      call.Fails flags chained context.layout (context.firstHop + offset) e := by
  cases h with
  | split => cases packing
  | misplaced => cases packing
  | uncalled _ _ fails =>
    cases fails with
    | unknown => cases packing
    | @refused _ cause => cases cause <;> cases packing
  | mixed => cases packing
  | overflow => cases packing
  | @unpacked front back call _ made _ fails =>
    obtain ⟨first, hop, last, hops, before, called, _⟩ := forall₂_append_cons made.flip
    refine ⟨front.length, hop, call, _, _, ?_, called, fails⟩
    rw [hops, before.length_eq, List.getElem?_append_right (Nat.le_refl _), Nat.sub_self,
      List.getElem?_cons_zero]

theorem LegFails.ne_abi (h : compiler.LegFails context leg e) (hop : Nat) (name : String)
    (error : AbiError) : e ≠ .exchange hop name (.abi error) := by
  rintro rfl
  cases h with
  | uncalled _ _ fails =>
    generalize same : CompileError.exchange hop name (.abi error) = failure at fails
    cases fails with
    | unknown => cases same
    | @refused exchange cause _ refusal =>
      cases cause with
      | abi other =>
        exact (exchange.screens_executorCall _ context.recipient _).ne_abi other refusal
      | _ => cases same
  | unpacked _ _ fails => cases fails

variable {route : Route} {executor : Executor}

theorem exists_fails_of_compile (packing : e.OfPacking)
    (failed : compiler.compile route executor = .error e) :
    ∃ recipient, ∃ leg ∈ route.legs, ∃ hop ∈ leg.hops, ∃ i call flags chained,
      (route.legs.flatMap Leg.hops)[i]? = some hop ∧
      compiler.Calls route.side recipient leg hop call ∧
      call.Fails flags chained executor.layout i e := by
  have names : ∃ i, e.hop? = some i := by
    cases packing with
    | position i => exact ⟨i, rfl⟩
    | encoding i => exact ⟨i, rfl⟩
  obtain ⟨i, names⟩ := names
  obtain ⟨recipient, _, _, fails⟩ := (compile_eq_error_iff names).1 failed
  obtain ⟨before, leg, after, legs, _, fails⟩ := legsRecords_eq_error_iff.1 fails
  obtain ⟨offset, hop, call, flags, chained, found, called, fails⟩ :=
    (legFails_of_eq_error fails).exists_fails packing
  obtain ⟨inside, _⟩ := List.getElem?_eq_some_iff.1 found
  obtain ⟨_, place⟩ := Route.getElem?_hops legs inside
  have member : leg ∈ route.legs := legs ▸ List.mem_append_right _ List.mem_cons_self
  refine ⟨recipient, leg, member, hop, List.mem_of_getElem? found, _, call, flags, chained,
    place.trans found, called, ?_⟩
  have start : (LegContext.behind ⟨route.side, executor.layout, recipient, 0, 0⟩ before).firstHop =
      (before.map fun leg => leg.hops.length).sum := Nat.zero_add _
  rw [start] at fails
  exact fails

theorem compile_ne_abi (hop : Nat) (name : String) (error : AbiError) :
    compiler.compile route executor ≠ .error (.exchange hop name (.abi error)) := by
  intro failed
  obtain ⟨recipient, _, _, fails⟩ := (compile_eq_error_iff rfl).1 failed
  obtain ⟨_, _, _, _, _, fails⟩ := legsRecords_eq_error_iff.1 fails
  exact (legFails_of_eq_error fails).ne_abi hop name error rfl

theorem exists_call_of_compile {plan : Plan} (h : compiler.compile route executor = .ok plan)
    {hop : Hop} (member : hop ∈ route.legs.flatMap Leg.hops) :
    ∃ recipient leg call, compiler.Calls route.side recipient leg hop call ∧
      call.calldata.length < 2 ^ executor.layout.lengthBits := by
  obtain ⟨recipient, records, _, _, compiled, _⟩ := compile_eq_ok_iff.1 h
  obtain ⟨leg, among, member⟩ := List.mem_flatMap.1 member
  obtain ⟨position, found⟩ := List.mem_iff_getElem?.1 among
  obtain ⟨_, _, _, calls, _, _, _, made, _, _, packed, _⟩ :=
    exists_legsRecords_iff.1 ⟨records, compiled⟩ (leg, position)
      (List.mem_zipIdx_iff_getElem?.2 found)
  obtain ⟨call, inside, called⟩ := exists_mem_of_forall₂ made member
  obtain ⟨record, _, positions, _, _, encoded⟩ := exists_mem_of_forall₂ packed inside
  exact ⟨recipient, leg, call, called, (Instruction.encode_eq_wire_iff.1 encoded).1.2.1⟩

end Legs

variable {network : Network} {route : Route} {executor : Executor} {side : Side}
  {recipient : Address} {leg : Leg} {hop : Hop} {call : ExecutorCall}

theorem Calls.length_cases (h : (ofNetwork network).Calls side recipient leg hop call) :
    (∃ path, hop.path? = some path ∧ path ≠ [] ∧
      call.calldata.length = 196 + 32 * path.length) ∨
    (∀ path, hop.path? = some path → path = []) ∧ call.calldata.length ≤ 260 := by
  obtain ⟨exchange, found, made⟩ := h
  have registered : (Registry.ofNetwork network).find? hop.exchange = some exchange := found
  rw [← Exchange.path?_of_find? registered]
  exact Exchange.length_cases made

/-- The positions of a call resolve, so that its hop fails only because it is chained. -/
theorem eq_missingChainedAmount {hop : Nat} {cause : PositionError}
    (short : (ofNetwork network).CallsBelow route (2 ^ 256))
    (failed : (ofNetwork network).compile route executor = .error (.position hop cause)) :
    cause = .missingChainedAmount := by
  obtain ⟨_, leg, among, x, member, i, call, _, _, _, called, fails⟩ :=
    exists_fails_of_compile (.position hop cause) failed
  have small := short leg among x member _ call called
  obtain ⟨exchange, _, made⟩ := called
  obtain ⟨positions, resolves⟩ := (Exchange.honest_of_executorCall made (Nat.le_refl 256) small).resolves
  cases fails with
  | unresolved resolution => cases resolves.symm.trans resolution
  | unchained => rfl

theorem eq_overflow {i : Nat} {cause : EncodingError}
    (failed : (ofNetwork network).compile route executor = .error (.encoding i cause)) :
    ∃ recipient, ∃ leg ∈ route.legs, ∃ hop ∈ leg.hops, ∃ call,
      (route.legs.flatMap Leg.hops)[i]? = some hop ∧
      (ofNetwork network).Calls route.side recipient leg hop call ∧
      2 ^ executor.layout.lengthBits ≤ call.calldata.length ∧
      cause = .overflow .length call.calldata.length executor.layout.lengthBits := by
  obtain ⟨recipient, leg, among, hop, member, _, call, _, _, place, called, fails⟩ :=
    exists_fails_of_compile (.encoding i cause) failed
  cases fails with
  | refused resolution _ encoding =>
    obtain ⟨long, same⟩ := ExecutorCall.overflow_of_encode (Calls.portable called) resolution encoding
    exact ⟨recipient, leg, among, hop, member, call, place, called, long, same⟩

/-- No call is refused if all of them are short enough for the layout. -/
theorem compile_ne_encoding (short : (ofNetwork network).CallsBelow route
    (2 ^ executor.layout.lengthBits)) (i : Nat) (cause : EncodingError) :
    (ofNetwork network).compile route executor ≠ .error (.encoding i cause) := by
  intro failed
  obtain ⟨recipient, leg, among, hop, member, call, _, called, long, _⟩ := eq_overflow failed
  exact Nat.not_lt.2 long (short leg among hop member recipient call called)

/-- A call that is too long for the narrow layout is one over a long path. -/
theorem exists_path_of_compile_third {i : Nat} {cause : EncodingError}
    (failed : (ofNetwork network).compile route .third = .error (.encoding i cause)) :
    ∃ hop path, (route.legs.flatMap Leg.hops)[i]? = some hop ∧ hop.path? = some path ∧
      2041 < path.length ∧ cause = .overflow .length (196 + 32 * path.length) 16 := by
  obtain ⟨recipient, leg, _, hop, _, call, place, called, long, same⟩ := eq_overflow failed
  have bits : Executor.third.layout.lengthBits = 16 := rfl
  rw [bits] at long same
  rcases called.length_cases with ⟨path, given, _, length⟩ | ⟨_, small⟩
  · refine ⟨hop, path, place, given, by omega, ?_⟩
    rw [same, length]
  · omega

theorem length_le_of_compile {plan : Plan} {path : List Address}
    (compiled : (ofNetwork network).compile route .third = .ok plan)
    (member : hop ∈ route.legs.flatMap Leg.hops) (given : hop.path? = some path) :
    path.length ≤ 2041 := by
  obtain ⟨recipient, leg, call, called, short⟩ := exists_call_of_compile compiled member
  have bits : Executor.third.layout.lengthBits = 16 := rfl
  rw [bits] at short
  rcases called.length_cases with ⟨other, again, _, length⟩ | ⟨none, _⟩
  · cases given.symm.trans again
    omega
  · rw [none path given]
    exact Nat.zero_le 2041

/-- The third executor swaps over the converter network along paths of up to 2041 tokens. -/
theorem exists_compile_third_iff {target : Address} {path : List Address}
    (known : network.executorAddress? .third = some recipient)
    (listed : network.exchangeAddress? Converter.key = some target) (long : 2 ≤ path.length)
    (srcToken destToken : Address) :
    (∃ plan, (ofNetwork network).compile ⟨.sell, srcToken, destToken, .one, .one,
      [⟨srcToken, destToken, [.swap ⟨Converter.key, 100, .one, .one, Converter.pathData path⟩]⟩]⟩
        .third = .ok plan) ↔ path.length ≤ 2041 := by
  constructor
  · rintro ⟨plan, compiled⟩
    refine length_le_of_compile compiled (List.mem_singleton.2 rfl) ?_
    have named : Converter.key.toLower = Converter.key := by cbv
    rw [Hop.path?, if_pos named, Converter.readHopData_pathData]
    rfl
  · intro short
    exact exists_compile_converter known listed long short srcToken destToken

theorem compile_third_of_long {target : Address} {path : List Address}
    (known : network.executorAddress? .third = some recipient)
    (listed : network.exchangeAddress? Converter.key = some target) (long : 2041 < path.length)
    (short : 196 + 32 * path.length < 2 ^ 256) (srcToken destToken : Address) :
    (ofNetwork network).compile ⟨.sell, srcToken, destToken, .one, .one,
      [⟨srcToken, destToken, [.swap ⟨Converter.key, 100, .one, .one, Converter.pathData path⟩]⟩]⟩
        .third = .error (.encoding 0 (.overflow .length (196 + 32 * path.length) 16)) := by
  have leads : 2 ≤ path.length := by omega
  refine compile_single_eq_error known rfl (calls_converter listed leads srcToken destToken)
    fun flags => ?_
  let call := Converter.conversionCall ⟨srcToken, destToken, .one, .one, .sell⟩ ⟨path, none, none⟩
    target
  have size : call.calldata.length = 196 + 32 * path.length := Converter.length_conversionCall _ _ _
  have large : 2 ^ 16 ≤ call.calldata.length := by
    rw [size]
    omega
  rw [← size] at short ⊢
  have resolved := Converter.positions_conversionCall leads short
  refine .refused resolved ?_ (Instruction.encode_of_refused (.long ?_ large))
  · intro chained
    cases chained
  · exact ExecutorCall.inside_instruction resolved flags .multiField

/-- Compilation fails late for two reasons only.  Positions are missing for chained amounts only, no
exchange fails in forming its call, and a conversion around a leg only fails for its amount.  The basic
layout refuses no call below four gigabytes.  The other one refuses calls of more than 65535 bytes: they
come from a path of more than 2041 tokens, and no route with such a path has a plan. -/
theorem compile_late_failures (network : Network) (route : Route) (executor : Executor) :
    ((ofNetwork network).CallsBelow route (2 ^ 256) → ∀ hop cause,
      (ofNetwork network).compile route executor = .error (.position hop cause) →
      cause = .missingChainedAmount) ∧
    (∀ hop name error, (ofNetwork network).compile route executor ≠
      .error (.exchange hop name (.abi error))) ∧
    (∀ context leg needed field conversion hop e,
      (ofNetwork network).edgeRecord context leg needed field conversion hop = .error e →
      e = .amountOverflow context.leg context.firstHop field) ∧
    (executor = .first ∨ executor = .second → (ofNetwork network).CallsBelow route (2 ^ 32) →
      ∀ hop cause, (ofNetwork network).compile route executor ≠ .error (.encoding hop cause)) ∧
    (executor = .third → ∀ i cause,
      (ofNetwork network).compile route executor = .error (.encoding i cause) →
      ∃ hop path, (route.legs.flatMap Leg.hops)[i]? = some hop ∧ hop.path? = some path ∧
        2041 < path.length ∧ cause = .overflow .length (196 + 32 * path.length) 16) ∧
    (executor = .third → ∀ hop ∈ route.legs.flatMap Leg.hops, ∀ path, hop.path? = some path →
      2041 < path.length → ∀ plan, (ofNetwork network).compile route executor ≠ .ok plan) := by
  refine ⟨fun short _ _ => eq_missingChainedAmount short, compile_ne_abi, ?_, ?_, ?_, ?_⟩
  · intro context leg needed field conversion hop e failed
    exact (edgeRecord_eq_error_iff.1 failed).2.2
  · rintro (rfl | rfl) short
    · exact compile_ne_encoding short
    · exact compile_ne_encoding short
  · rintro rfl i cause
    exact exists_path_of_compile_third
  · rintro rfl hop member path given long plan compiled
    exact Nat.not_lt.2 (length_le_of_compile compiled member given) long

/-- A path of 2042 tokens has a plan in the basic layout and none in the other. -/
theorem compile_late_failures_long_path :
    let network : Network := { Network.sample with
      executors := Network.sample.executors.insert .third (.repeated 0xE3)
      exchanges := AddressBook.empty.insert Converter.key (.repeated 0x22) }
    let path := List.replicate 2042 (Address.repeated 0x33)
    let hop : Hop := ⟨Converter.key, 100, .one, .one, Converter.pathData path⟩
    let route : Route := ⟨.sell, .repeated 0x44, .repeated 0x11, .one, .one,
      [⟨.repeated 0x44, .repeated 0x11, [.swap hop]⟩]⟩
    (ofNetwork network).CallsBelow route (2 ^ 32) ∧
      (∀ i cause, (ofNetwork network).compile route .first ≠ .error (.encoding i cause)) ∧
      (∀ plan, (ofNetwork network).compile route .third ≠ .ok plan) ∧
      ∃ i cause, (ofNetwork network).compile route .third = .error (.encoding i cause) ∧
        ∃ hop path, (route.legs.flatMap Leg.hops)[i]? = some hop ∧ hop.path? = some path ∧
          2041 < path.length ∧ cause = .overflow .length (196 + 32 * path.length) 16 := by
  intro network path hop route
  have length : path.length = 2042 := List.length_replicate
  have given : hop.path? = some path := by
    have named : Converter.key.toLower = Converter.key := by cbv
    rw [Hop.path?, if_pos named, Converter.readHopData_pathData]
    rfl
  have below : (ofNetwork network).CallsBelow route (2 ^ 32) := by
    intro leg among x member recipient call called
    rw [List.mem_singleton.1 among] at member called
    rw [List.mem_singleton.1 member] at called
    rcases called.length_cases with ⟨other, again, _, size⟩ | ⟨_, small⟩
    · cases given.symm.trans again
      rw [size, length]
      decide
    · exact Nat.lt_of_le_of_lt small (by decide)
  have known : network.executorAddress? .third = some (.repeated 0xE3) := by decide
  have listed : network.exchangeAddress? Converter.key = some (.repeated 0x22) := by cbv
  have failed : (ofNetwork network).compile route .third =
      .error (.encoding 0 (.overflow .length (196 + 32 * path.length) 16)) :=
    compile_third_of_long known listed (by rw [length]; decide) (by rw [length]; decide) _ _
  obtain ⟨_, _, _, wide, _, _⟩ := compile_late_failures network route .first
  obtain ⟨_, _, _, _, narrow, long⟩ := compile_late_failures network route .third
  exact ⟨below, wide (.inl rfl) below,
    long rfl hop (List.mem_singleton.2 rfl) path given (by rw [length]; decide),
    0, _, failed, narrow rfl 0 _ failed⟩

end Compiler
end SwapPlan
