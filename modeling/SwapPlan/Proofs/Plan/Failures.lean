import SwapPlan.Proofs.Plan.Acceptance
/-!
# How legs fail

The checks of a leg run in order, and the first that does not pass is the one reported.  For each stage
of compilation there is what makes it fail and with which error, and from these what makes a leg fail
(`Compiler.LegFails`).
-/
set_option autoImplicit false

namespace SwapPlan

/-- A call has no record: its positions cannot be resolved, or it is chained and has none for the amount
it spends, or the layout refuses it. -/
inductive ExecutorCall.Fails (call : ExecutorCall) (flags : Flags) (chained : Bool)
    (layout : HeaderLayout) (hop : Nat) : CompileError → Prop
  | unresolved {cause : PositionError}
      (resolution : call.layout.positions call.calldata = .error cause) :
      Fails call flags chained layout hop (.position hop cause)
  | unchained {positions : Positions}
      (resolution : call.layout.positions call.calldata = .ok positions)
      (behind : chained = true) (absent : positions.fromAmount = none) :
      Fails call flags chained layout hop (.position hop .missingChainedAmount)
  | refused {positions : Positions} {cause : EncodingError}
      (resolution : call.layout.positions call.calldata = .ok positions)
      (spends : chained = true → positions.fromAmount ≠ none)
      (encoding : (call.instruction positions flags).encode layout = .error cause) :
      Fails call flags chained layout hop (.encoding hop cause)

theorem ExecutorCall.pack_eq_error_iff {call : ExecutorCall} {flags : Flags} {chained : Bool}
    {layout : HeaderLayout} {hop : Nat} {e : CompileError} :
    call.pack flags chained hop layout = .error e ↔ call.Fails flags chained layout hop e := by
  constructor
  · intro failed
    rw [pack, Outcome.bind_eq_error, Outcome.mapError_eq_error] at failed
    obtain ⟨cause, resolution, rfl⟩ | ⟨positions, resolution, failed⟩ := failed
    · exact .unresolved resolution
    · rw [Outcome.mapError_eq_ok] at resolution
      split at failed
      · rename_i missing
        rw [Bool.and_eq_true, Option.isNone_iff_eq_none] at missing
        cases failed
        exact .unchained resolution missing.1 missing.2
      · rename_i present
        rw [Bool.and_eq_true, Option.isNone_iff_eq_none, not_and] at present
        obtain ⟨cause, encoding, rfl⟩ := Outcome.mapError_eq_error.1 failed
        exact .refused resolution present encoding
  · intro fails
    cases fails with
    | unresolved resolution =>
      rw [pack, resolution]
      rfl
    | unchained resolution behind absent =>
      rw [pack, resolution, Except.mapError, Outcome.ok_bind, behind, absent]
      rfl
    | @refused positions cause resolution spends encoding =>
      have present : ¬(chained && positions.fromAmount.isNone) = true := by
        rw [Bool.and_eq_true, Option.isNone_iff_eq_none, not_and]
        exact spends
      rw [pack, resolution, Except.mapError, Outcome.ok_bind, if_neg present, encoding]
      rfl

namespace Leg

variable {network : Network} {leg : Leg}

theorem wrapFaultFrom?_eq_some_iff {position : Nat} {steps : List Step} {fault : WrapFault} :
    leg.wrapFaultFrom? network position steps = some fault ↔
      ∃ front step back, steps = front ++ step :: back ∧
        leg.wrapFaultFrom? network position front = none ∧
        leg.stepFault? network (position + front.length) step = some fault := by
  induction steps generalizing position with
  | nil => simp [wrapFaultFrom?]
  | cons step rest ih =>
    rw [wrapFaultFrom?, Option.or_eq_some_iff, ih]
    constructor
    · rintro (found | ⟨clear, front, other, back, rfl, passed, found⟩)
      · exact ⟨[], step, rest, rfl, rfl, found⟩
      · refine ⟨step :: front, other, back, rfl, ?_, ?_⟩
        · rw [wrapFaultFrom?, clear, Option.none_or, passed]
        · rwa [List.length_cons, Nat.add_comm front.length, ← Nat.add_assoc]
    · rintro ⟨front, other, back, split, passed, found⟩
      cases front with
      | nil =>
        cases split
        exact .inl found
      | cons first front =>
        cases split
        rw [wrapFaultFrom?, Option.or_eq_none_iff] at passed
        rw [List.length_cons, Nat.add_comm front.length, ← Nat.add_assoc] at found
        exact .inr ⟨passed.1, front, other, back, rfl, passed.2, found⟩

end Leg

namespace Compiler

variable {compiler : Compiler} {context : LegContext} {leg : Leg} {e : CompileError}

/-- A hop makes no call: no exchange has its name, or the exchange refuses. -/
inductive HopFails (compiler : Compiler) (context : LegContext) (leg : Leg) (position : Nat)
    (hop : Hop) : CompileError → Prop
  | unknown (missing : compiler.registry.find? hop.exchange = none) :
      HopFails compiler context leg position hop (.unknownExchange position hop.exchange)
  | refused {exchange : Exchange} {cause : ExchangeError}
      (found : compiler.registry.find? hop.exchange = some exchange)
      (refusal : exchange.executorCall
        ⟨leg.srcToken, leg.destToken, hop.srcAmount, hop.destAmount, context.side⟩
        context.recipient hop.data = .error cause) :
      HopFails compiler context leg position hop (.ofExchange position hop.exchange cause)

theorem hopCall_eq_error_iff {position : Nat} {hop : Hop} :
    compiler.hopCall context leg position hop = .error e ↔
      compiler.HopFails context leg position hop e := by
  rw [hopCall]
  cases found : compiler.registry.find? hop.exchange with
  | none =>
    rw [Except.error.injEq]
    constructor
    · rintro rfl
      exact .unknown found
    · intro fails
      cases fails with
      | unknown => rfl
      | refused other => cases found.symm.trans other
  | some exchange =>
    rw [Outcome.mapError_eq_error]
    constructor
    · rintro ⟨cause, refusal, rfl⟩
      exact .refused found refusal
    · intro fails
      cases fails with
      | unknown missing => cases found.symm.trans missing
      | refused other refusal =>
        cases found.symm.trans other
        exact ⟨_, refusal, rfl⟩

theorem foldl_count {α : Type} (xs : List α) (position : Nat) :
    xs.foldl (fun n _ => n + 1) position = position + xs.length := by
  induction xs generalizing position with
  | nil => rfl
  | cons x xs ih =>
    rw [List.foldl_cons, ih, List.length_cons]
    omega

theorem hopCalls_eq_error_iff {position : Nat} {hops : List Hop} :
    compiler.hopCalls context leg position hops = .error e ↔
      ∃ front hop back, hops = front ++ hop :: back ∧
        (∀ x ∈ front, ∃ call, compiler.Calls context.side context.recipient leg x call) ∧
        compiler.HopFails context leg (position + front.length) hop e := by
  rw [Outcome.run_eq_error_iff (compiler.hopCalls context leg) (compiler.hopCall context leg)
    (fun n _ => n + 1) List.cons (fun _ => ⟨[], rfl⟩) (fun _ _ _ => rfl)]
  simp only [hopCalls_eq_ok_iff, exists_forall₂_iff, foldl_count, hopCall_eq_error_iff]

theorem hopRecords_eq_error_iff {flags : Flags} {position : Nat} {calls : List ExecutorCall} :
    hopRecords context flags position calls = .error e ↔
      ∃ front call back, calls = front ++ call :: back ∧
        (∀ x ∈ front, ∃ record, x.Packs flags (0 < context.leg) context.layout record) ∧
        call.Fails flags (0 < context.leg) context.layout (position + front.length) e := by
  rw [Outcome.run_eq_error_iff (hopRecords context flags)
    (fun n call => call.pack flags (0 < context.leg) n context.layout) (fun n _ => n + 1) List.cons
    (fun _ => ⟨[], rfl⟩) (fun _ _ _ => rfl)]
  simp only [hopRecords_eq_ok_iff, exists_forall₂_iff, foldl_count, ExecutorCall.pack_eq_error_iff]

theorem findIdx?_eq_some_iff_append {α : Type} {p : α → Bool} {xs : List α} {i : Nat} :
    xs.findIdx? p = some i ↔ ∃ front x back, xs = front ++ x :: back ∧ front.length = i ∧
      (∀ y ∈ front, p y = false) ∧ p x = true := by
  rw [List.findIdx?_eq_some_iff_getElem]
  constructor
  · rintro ⟨inside, found, clear⟩
    refine ⟨xs.take i, xs[i], xs.drop (i + 1), ?_, List.length_take_of_le (Nat.le_of_lt inside), ?_,
      found⟩
    · rw [← List.drop_eq_getElem_cons inside, List.take_append_drop]
    · intro y mem
      obtain ⟨j, before, rfl⟩ := List.mem_take_iff_getElem.1 mem
      rw [lt_min_iff] at before
      exact Bool.eq_false_iff.2 (clear j before.1)
  · rintro ⟨front, x, back, rfl, rfl, clear, found⟩
    refine ⟨by simp, by simpa using found, fun j before => ?_⟩
    rw [List.getElem_append_left before, clear _ (List.getElem_mem before)]
    exact Bool.false_ne_true

theorem nativeEdges_eq_error_iff {calls : List ExecutorCall} {firstHop : Nat} :
    compiler.nativeEdges leg calls firstHop = .error e ↔
      (compiler.WrapsInput leg calls ∨ compiler.UnwrapsOutput leg calls) ∧
      ∃ front call back, calls = front ++ call :: back ∧
        (∀ x ∈ front, x.needsWrap = true) ∧ call.needsWrap = false ∧
        e = .wrapping (firstHop + front.length) .mixed := by
  rw [← edges_wrap_iff, ← edges_unwrap_iff]
  unfold nativeEdges
  extract_lets needed wanted
  have edged : wanted = compiler.edges leg calls := rfl
  rw [← edged, ← Bool.or_eq_true]
  clear_value wanted
  constructor
  · cases found : calls.findIdx? (!·.needsWrap) with
    | none => nofun
    | some position =>
      obtain ⟨front, call, back, split, rfl, needs, direct⟩ := findIdx?_eq_some_iff_append.1 found
      simp only [Bool.not_eq_false', Bool.not_eq_true'] at needs direct
      dsimp only
      by_cases wraps : (wanted.wrap || wanted.unwrap) = true
      · rw [if_pos wraps]
        rintro ⟨⟩
        exact ⟨wraps, front, call, back, split, needs, direct, rfl⟩
      · rw [if_neg wraps]
        nofun
  · rintro ⟨wraps, front, call, back, split, needs, direct, rfl⟩
    have found : calls.findIdx? (!·.needsWrap) = some front.length := by
      refine findIdx?_eq_some_iff_append.2 ⟨front, call, back, split, rfl, ?_, ?_⟩
      · simpa using needs
      · simpa using direct
    simp only [found, if_pos wraps]

theorem edgeRecord_eq_error_iff {needed : Bool} {field : AmountField}
    {conversion : NativeWrapper.Conversion} {hop : Nat} :
    compiler.edgeRecord context leg needed field conversion hop = .error e ↔
      needed = true ∧ 2 ^ 256 ≤ (leg.hops.map fun hop => (field.of hop).toNat).sum ∧
      e = .amountOverflow context.leg context.firstHop field := by
  cases needed with
  | false => simp [edgeRecord]
  | true =>
    rw [← not_lt, ← Leg.exists_total?_iff, edgeRecord, if_pos rfl]
    cases total : leg.total? field with
    | none => simp [eq_comm]
    | some amount =>
      -- The wrapper makes every call, and every layout has a record of it.
      obtain ⟨record, packed⟩ :=
        compiler.registry.wrapper.exists_packs conversion amount .empty context.layout
      have recorded : (compiler.registry.wrapper.conversionCall conversion amount).pack .empty false
          hop context.layout = .ok record := ExecutorCall.pack_eq_ok_iff.2 packed
      simp [NativeWrapper.convert_eq_ok, Except.mapError, Outcome.ok_bind, recorded]

/-- A leg does not compile, for one of the reasons in the order of its checks.  Each says which hop it
is about: the first hop of the leg, or the first that fails. -/
inductive LegFails (compiler : Compiler) (context : LegContext) (leg : Leg) : CompileError → Prop
  | split (uneven : (leg.hops.map (·.percent.toNat)).sum ≠ 100) :
      LegFails compiler context leg (.split context.leg context.firstHop
        (min (leg.hops.map (·.percent.toNat)).sum (2 ^ 32 - 1)))
  | misplaced {front back : List Step} {step : Step} {fault : WrapFault}
      (disordered : ¬leg.IsOrdered compiler.network) (steps : leg.steps = front ++ step :: back)
      (found : leg.stepFault? compiler.network front.length step = some fault) :
      LegFails compiler context leg (.wrapping context.firstHop fault)
  | uncalled {front back : List Hop} {hop : Hop} {e : CompileError}
      (hops : leg.hops = front ++ hop :: back)
      (made : ∀ x ∈ front, ∃ call, compiler.Calls context.side context.recipient leg x call)
      (fails : compiler.HopFails context leg (context.firstHop + front.length) hop e) :
      LegFails compiler context leg e
  | mixed {front back : List ExecutorCall} {call : ExecutorCall}
      (made : List.Forall₂ (compiler.Calls context.side context.recipient leg) leg.hops
        (front ++ call :: back))
      (wrapped : compiler.WrapsInput leg (front ++ call :: back) ∨
        compiler.UnwrapsOutput leg (front ++ call :: back))
      (needs : ∀ x ∈ front, x.needsWrap = true) (direct : call.needsWrap = false) :
      LegFails compiler context leg (.wrapping (context.firstHop + front.length) .mixed)
  | overflow {calls : List ExecutorCall} {field : AmountField}
      (made : List.Forall₂ (compiler.Calls context.side context.recipient leg) leg.hops calls)
      (wrapped : match field with
        | .srcAmount => compiler.WrapsInput leg calls
        | .destAmount => compiler.UnwrapsOutput leg calls)
      (large : 2 ^ 256 ≤ (leg.hops.map fun hop => (field.of hop).toNat).sum) :
      LegFails compiler context leg (.amountOverflow context.leg context.firstHop field)
  | unpacked {front back : List ExecutorCall} {call : ExecutorCall} {e : CompileError}
      (made : List.Forall₂ (compiler.Calls context.side context.recipient leg) leg.hops
        (front ++ call :: back))
      (packs : ∀ x ∈ front, ∃ record,
        x.Packs (compiler.edges leg (front ++ call :: back)).flags (0 < context.leg)
          context.layout record)
      (fails : call.Fails (compiler.edges leg (front ++ call :: back)).flags (0 < context.leg)
        context.layout (context.firstHop + front.length) e) :
      LegFails compiler context leg e

theorem legFails_of_eq_error (h : compiler.legRecords context leg = .error e) :
    compiler.LegFails context leg e := by
  rw [legRecords] at h
  split at h
  · rename_i uneven
    rw [Except.error.injEq] at h
    subst h
    have total : leg.splitTotal = min (leg.hops.map (·.percent.toNat)).sum (2 ^ 32 - 1) := by
      rw [Leg.splitTotal, List.sum_eq_foldr, List.foldr_map]
      rfl
    rw [total]
    exact .split fun even => uneven (Leg.splitTotal_eq_hundred_iff.2 even)
  · cases placed : leg.wrapFault? compiler.network with
    | some fault =>
      rw [placed, Except.error.injEq] at h
      subst h
      obtain ⟨front, step, back, steps, _, found⟩ := Leg.wrapFaultFrom?_eq_some_iff.1 placed
      rw [Nat.zero_add] at found
      refine .misplaced (fun ordered => ?_) steps found
      rw [ordered.wrapFault?] at placed
      cases placed
    | none =>
      simp only [placed, Outcome.bind_eq_error, hopCalls_eq_ok_iff, nativeEdges_eq_ok_iff,
        edgeRecord_eq_ok_iff, hopRecords_eq_ok_iff] at h
      obtain h | ⟨calls, made, h⟩ := h
      · obtain ⟨front, hop, back, hops, called, fails⟩ := hopCalls_eq_error_iff.1 h
        exact .uncalled hops called fails
      obtain h | ⟨_, ⟨rfl, _⟩, h⟩ := h
      · obtain ⟨wrapped, front, call, back, rfl, needs, direct, rfl⟩ :=
          nativeEdges_eq_error_iff.1 h
        exact .mixed made wrapped needs direct
      obtain h | ⟨_, _, h⟩ := h
      · obtain ⟨wraps, large, rfl⟩ := edgeRecord_eq_error_iff.1 h
        exact .overflow made (edges_wrap_iff.1 wraps) large
      obtain h | ⟨_, _, h⟩ := h
      · obtain ⟨front, call, back, rfl, packs, fails⟩ := hopRecords_eq_error_iff.1 h
        exact .unpacked made packs fails
      obtain h | ⟨_, _, h⟩ := h
      · obtain ⟨unwraps, large, rfl⟩ := edgeRecord_eq_error_iff.1 h
        exact .overflow made (edges_unwrap_iff.1 unwraps) large
      · cases h

end Compiler
end SwapPlan
