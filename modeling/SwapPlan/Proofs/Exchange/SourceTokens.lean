import SwapPlan.Proofs.Exchange.Contracts
/-!
# The source token in calldata

A call that has a position for the source token holds there the token that the path of the exchange
starts with (`Exchange.namesSource_iff`).  The router takes the wrapped token in place of the native
one; the converter network takes the path of the hop as it is.
-/
set_option autoImplicit false

namespace SwapPlan

theorem Address.padded_inj {a b : Address} (h : a.padded = b.padded) : a = b :=
  Address.ext (List.append_cancel_left h)

/-- The word at the position of the source token is the token. -/
def Positions.NamesSource (p : Positions) (calldata : Bytes) (token : Address) : Prop :=
  ∃ offset, p.srcToken = some offset ∧
    calldata.slice? offset.toNat Word.size = some token.padded

theorem Positions.namesSource_iff {p : Positions} {calldata : Bytes} {offset : UInt16}
    {first token : Address} (stands : p.srcToken = some offset)
    (word : calldata.slice? offset.toNat Word.size = some first.padded) :
    p.NamesSource calldata token ↔ first = token := by
  constructor
  · rintro ⟨other, again, holds⟩
    cases stands.symm.trans again
    rw [word, Option.some.injEq] at holds
    exact Address.padded_inj holds
  · rintro rfl
    exact ⟨offset, stands, word⟩

theorem Positions.not_namesSource {p : Positions} {calldata : Bytes} {token : Address}
    (absent : p.srcToken = .none) : ¬p.NamesSource calldata token := by
  rintro ⟨_, stands, _⟩
  rw [absent] at stands
  cases stands

theorem Function.slice?_first {f : Function} {arguments : List AbiValue} {first : Address}
    {path : List Address} {offset : UInt16}
    (typed : (Slots.components f.inputTypes).Describe arguments) (index : Nat)
    (value : arguments[index]? = some (addressList path)) (head : path.head? = some first)
    (words : AbiValue.anyDynamic (arguments.take index) = false)
    (place : selectorLength + (AbiType.headSizes f.inputTypes + Word.size) = offset.toNat) :
    (f.selector ++ AbiValue.encode arguments).slice? offset.toNat Word.size =
      some first.padded := by
  cases path with
  | nil => cases head
  | cons token path =>
    have selected : AbiValue.select arguments index [0] = some (.address token) := by
      rw [AbiValue.select, value]
      rfl
    rw [← Option.some.inj head, ← place, ← typed.writtenAt_first value rfl words]
    exact slice?_call typed ⟨index, [0]⟩ selected rfl

theorem Converter.namesSource_iff {request : SwapRequest} {hop : HopData} {target token : Address}
    {positions : Positions} (long : 2 ≤ hop.path.length)
    (short : (conversionCall request hop target).calldata.length < 2 ^ 256)
    (resolved : layout.positions (conversionCall request hop target).calldata = .ok positions) :
    positions.NamesSource (conversionCall request hop target).calldata token ↔
      hop.path.head? = some token := by
  cases resolved.symm.trans (positions_conversionCall long short)
  have nonempty : hop.path ≠ [] := List.ne_nil_of_length_pos (Nat.lt_of_lt_of_le Nat.two_pos long)
  have head := List.head?_eq_some_head nonempty
  have word : (conversionCall request hop target).calldata.slice? (196 : UInt16).toNat Word.size =
      some (hop.path.head nonempty).padded :=
    Function.slice?_first (describe_arguments request hop) 0 rfl head rfl rfl
  rw [Positions.namesSource_iff rfl word, head, Option.some.injEq]

theorem PairRouter.namesSource_iff {request : SwapRequest} {path : List Address}
    {recipient target token : Address} {positions : Positions} (long : 2 ≤ path.length)
    (short : (swapCall request path recipient target).calldata.length < 2 ^ 256)
    (resolved : (swapCall request path recipient target).layout.positions
      (swapCall request path recipient target).calldata = .ok positions) :
    positions.NamesSource (swapCall request path recipient target).calldata token ↔
      path.head? = some token := by
  cases resolved.symm.trans (positions_swap long short)
  have typed := describe_arguments request path recipient
  have nonempty : path ≠ [] := List.ne_nil_of_length_pos (Nat.lt_of_lt_of_le Nat.two_pos long)
  have head := List.head?_eq_some_head nonempty
  obtain ⟨srcToken, destToken, srcAmount, destAmount, side⟩ := request
  have word : (swapCall ⟨srcToken, destToken, srcAmount, destAmount, side⟩ path recipient
      target).calldata.slice? (196 : UInt16).toNat Word.size =
        some (path.head nonempty).padded := by
    cases side <;> exact Function.slice?_first typed 2 rfl head rfl rfl
  have stands : (swapPositions side).srcToken = some 196 := by cases side <;> rfl
  rw [Positions.namesSource_iff stands word, head, Option.some.injEq]

namespace Exchange

def firstToken? : Exchange → SwapRequest → Json → Option Address
  | converter _, _, data =>
    (readHopData Converter.key Converter.HopData.ofJson data).toOption.bind (·.path.head?)
  | pairRouter e, request, data =>
    (readHopData PairRouter.key PairRouter.HopData.ofJson data).toOption.bind fun hop =>
      (e.path request hop).toOption.bind List.head?
  | pegModule _, _, _ => none
  | nativeWrapper _, _, _ => none

theorem namesSource_iff {exchange : Exchange} {request : SwapRequest} {recipient token : Address}
    {data : Json} {call : ExecutorCall} {positions : Positions}
    (h : exchange.executorCall request recipient data = .ok call)
    (short : call.calldata.length < 2 ^ 256)
    (resolved : call.layout.positions call.calldata = .ok positions) :
    positions.NamesSource call.calldata token ↔
      exchange.firstToken? request data = some token := by
  cases exchange with
  | converter e =>
    rw [executorCall] at h
    obtain ⟨hop, target, accepted, long, _, rfl⟩ := Converter.executorCall_eq_ok_iff.1 h
    have read := Converter.readHopData_of_accept accepted
    rw [firstToken?, read]
    exact Converter.namesSource_iff long short resolved
  | pairRouter e =>
    rw [executorCall] at h
    obtain ⟨hop, path, target, accepted, found, _, rfl⟩ := PairRouter.executorCall_eq_ok_iff.1 h
    have read := PairRouter.readHopData_of_accept accepted
    have starts : firstToken? (.pairRouter e) request data = path.head? := by
      rw [firstToken?, read, Except.toOption, Option.bind_some, found]
      rfl
    rw [starts]
    exact PairRouter.namesSource_iff (PairRouter.two_le_of_path found) short resolved
  | pegModule e =>
    rw [executorCall] at h
    obtain ⟨_, way, _, _, _, _, _, _, rfl⟩ := PegModule.executorCall_eq_ok_iff.1 h
    cases resolved.symm.trans (PegModule.positions_gemCall short)
    refine iff_of_false (Positions.not_namesSource ?_) (by simp [firstToken?])
    cases way <;> rfl
  | nativeWrapper e =>
    rw [executorCall] at h
    obtain ⟨conversion, _, rfl⟩ := NativeWrapper.executorCall_eq_ok_iff.1 h
    cases resolved.symm.trans (NativeWrapper.positions_conversion conversion _)
    refine iff_of_false (Positions.not_namesSource ?_) (by simp [firstToken?])
    cases conversion <;> rfl

end Exchange
end SwapPlan
