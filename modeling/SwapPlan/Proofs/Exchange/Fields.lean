import SwapPlan.Proofs.Exchange.Spending
/-!
# What the fields of a call hold

An exchange declares the fields of its call apart from forming the calldata.  Each field that it
declares is found, and holds the amount, the token or the recipient that it stands for; no other field
is declared (`Exchange.executorCall_honest`).  The recipient stands in the calldata there and nowhere
else.  The calldata is taken to be in memory, so that positions do not wrap around, and to be shorter
than `2 ^ 256` bytes, so that the words in it hold the offsets and lengths that they are written for.
-/
set_option autoImplicit false

namespace SwapPlan

/-- A field is declared at an offset at which the calldata has the word.  The offset is its position
if sixteen bits can hold it. -/
structure CallLayout.HoldsAt (bits : Nat) (layout : CallLayout) (calldata : Bytes)
    (field : PatchField) (offset : Nat) (word : Bytes) : Prop where
  located : ∃ location, layout.location field = some location ∧
    layout.locate calldata location bits = .ok offset
  word : calldata.slice? offset Word.size = some word
  position : offset < UInt16.size →
    layout.position calldata field bits = .ok (UInt16.ofNat offset)
  tooLarge : UInt16.size ≤ offset →
    layout.position calldata field bits = .error (.offsetTooLarge offset)

/-- A call whose fields are those that are to hold a word, and hold it. -/
structure ExecutorCall.Honest (bits : Nat) (call : ExecutorCall)
    (word? : PatchField → Option Bytes) : Prop where
  recipient : (call.layout.location .recipient).isSome = call.namesRecipient
  destToken : (call.layout.location .destToken).isSome = call.namesDestToken
  resolves : ∃ positions, call.layout.positions call.calldata = .ok positions
  declared : ∀ field, (call.layout.location field).isSome = (word? field).isSome
  holds : ∀ field word, word? field = some word →
    ∃ offset, call.layout.HoldsAt bits call.calldata field offset word

/-- The call with another recipient: it has the other one at the position of the recipient, and nothing
else changes. -/
structure ExecutorCall.Redirects (call : ExecutorCall) (other : Address) (again : ExecutorCall) :
    Prop where
  unnamed : call.namesRecipient = false → again = call
  named : call.namesRecipient = true → ∃ offset,
    call.layout.position call.calldata .recipient = .ok offset ∧
    offset.toNat + Word.size ≤ call.calldata.length ∧
    again = { call with calldata := call.calldata.overwrite offset.toNat other.padded }

theorem CallLayout.HoldsAt.of_located {bits : Nat} {layout : CallLayout} {calldata : Bytes}
    {field : PatchField} {location : FieldLocation} {offset : Nat} {word : Bytes}
    (declared : layout.location field = some location)
    (located : layout.locate calldata location bits = .ok offset)
    (stands : calldata.slice? offset Word.size = some word) :
    layout.HoldsAt bits calldata field offset word where
  located := ⟨location, declared, located⟩
  word := stands
  position := position_of_located declared located
  tooLarge large := by
    simp only [CallLayout.position, declared, located, Outcome.ok_bind, narrow,
      if_neg (Nat.not_lt.2 large)]

section Slots

variable {bits : Nat} (layout : CallLayout) {field : PatchField} {arguments : List AbiValue}

theorem CallLayout.holdsAt_of_slot (path : SlotPath)
    (declared : layout.location field = some (.slot path))
    (typed : (Slots.components layout.function.inputTypes).Describe arguments) (wide : bits ≤ 256)
    (short : (layout.function.selector ++ AbiValue.encode arguments).length < 2 ^ bits)
    {leaf : AbiValue} (selected : AbiValue.select arguments path.argument path.inner = some leaf)
    (isWord : leaf.isWord = true) :
    ∃ offset, layout.HoldsAt bits (layout.function.selector ++ AbiValue.encode arguments) field offset
      leaf.body := by
  have found := (Function.offset_eq_ok_iff typed wide short).2 ⟨leaf, selected, isWord, rfl⟩
  exact ⟨_, .of_located declared found (Function.slice?_call typed path selected isWord)⟩

theorem CallLayout.holdsAt_amount (path : SlotPath)
    (declared : layout.location field = some (.slot path))
    (typed : (Slots.components layout.function.inputTypes).Describe arguments) (wide : bits ≤ 256)
    (short : (layout.function.selector ++ AbiValue.encode arguments).length < 2 ^ bits)
    {amount : Word}
    (selected : AbiValue.select arguments path.argument path.inner = some (.uint amount)) :
    ∃ offset, layout.HoldsAt bits (layout.function.selector ++ AbiValue.encode arguments) field offset
      amount.bytes :=
  layout.holdsAt_of_slot path declared typed wide short selected rfl

theorem CallLayout.holdsAt_address (path : SlotPath)
    (declared : layout.location field = some (.slot path))
    (typed : (Slots.components layout.function.inputTypes).Describe arguments) (wide : bits ≤ 256)
    (short : (layout.function.selector ++ AbiValue.encode arguments).length < 2 ^ bits)
    {address : Address}
    (selected : AbiValue.select arguments path.argument path.inner = some (.address address)) :
    ∃ offset, layout.HoldsAt bits (layout.function.selector ++ AbiValue.encode arguments) field offset
      address.padded :=
  layout.holdsAt_of_slot path declared typed wide short selected rfl

end Slots

theorem AbiValue.select_addressList {arguments : List AbiValue} {index n : Nat}
    {path : List Address} {a : Address} (value : arguments[index]? = some (addressList path))
    (found : path[n]? = some a) : select arguments index [n] = some (.address a) := by
  have entry : (path.map AbiValue.address)[n]? = some (.address a) := by
    rw [List.getElem?_map, found]
    rfl
  rw [select, value]
  exact entry

theorem ExecutorCall.Redirects.of_word {call : ExecutorCall} {arguments changed : List AbiValue}
    {recipient other : Address} (index : Nat) (offset : UInt16)
    (formed : call.calldata = call.layout.function.selector ++ AbiValue.encode arguments)
    (names : call.namesRecipient = true)
    (declared : call.layout.location .recipient = some (.slot ⟨index, []⟩))
    (typed : (Slots.components call.layout.function.inputTypes).Describe arguments)
    (short : call.calldata.length < 2 ^ 256)
    (value : arguments[index]? = some (.address recipient))
    (replaced : changed = arguments.set index (.address other))
    (place : Function.selectorLength +
      AbiType.headSizes (call.layout.function.inputTypes.take index) = offset.toNat) :
    call.Redirects other
      { call with calldata := call.layout.function.selector ++ AbiValue.encode changed } := by
  refine ⟨fun unnamed => ?_, fun _ => ⟨offset, ?_, ?_⟩⟩
  · rw [names] at unnamed
    cases unnamed
  · rw [formed] at short
    have located : call.layout.locate call.calldata (.slot ⟨index, []⟩) = .ok offset.toNat := by
      have written := typed.writtenAt_word value rfl
      have fits : offset.toNat < 2 ^ 64 := Nat.lt_trans offset.toNat_lt (by decide)
      rw [← place, ← written] at fits ⊢
      rw [formed]
      exact Function.offset_of_select typed short value rfl fits
    rw [CallLayout.position_of_located declared located offset.toNat_lt, UInt16.ofNat_toNat]
  · obtain ⟨room, overwritten⟩ := Function.overwrite_word typed index offset (.address other) value
      rfl rfl other.length_padded replaced place
    rw [formed, overwritten]
    exact ⟨room, rfl⟩

namespace Converter

def word? (request : SwapRequest) (hop : HopData) : PatchField → Option Bytes
  | .fromAmount => some request.srcAmount.bytes
  | .toAmount => some (hop.minDestToken.getD .one).bytes
  | .srcToken => hop.path.head?.map Address.padded
  | .returnAmount | .recipient | .destToken => none

theorem holds {bits : Nat} {request : SwapRequest} {hop : HopData} {network : Address}
    {field : PatchField} {word : Bytes} (wide : bits ≤ 256)
    (short : (conversionCall request hop network).calldata.length < 2 ^ bits)
    (expected : word? request hop field = some word) :
    ∃ offset, layout.HoldsAt bits (conversionCall request hop network).calldata field offset word := by
  have typed := describe_arguments request hop
  cases field with
  | fromAmount =>
    cases expected
    exact layout.holdsAt_amount ⟨1, []⟩ rfl typed wide short rfl
  | toAmount =>
    cases expected
    exact layout.holdsAt_amount ⟨2, []⟩ rfl typed wide short rfl
  | srcToken =>
    obtain ⟨token, first, rfl⟩ := Option.map_eq_some_iff.1 expected
    rw [List.head?_eq_getElem?] at first
    have list : (arguments request hop)[0]? = some (addressList hop.path) := rfl
    have selected := AbiValue.select_addressList list first
    exact layout.holdsAt_address ⟨0, [0]⟩ rfl typed wide short selected
  | returnAmount => cases expected
  | recipient => cases expected
  | destToken => cases expected

theorem honest {bits : Nat} {request : SwapRequest} {hop : HopData} {network : Address}
    (long : 2 ≤ hop.path.length) (wide : bits ≤ 256)
    (short : (conversionCall request hop network).calldata.length < 2 ^ bits) :
    (conversionCall request hop network).Honest bits (word? request hop) := by
  have small := Nat.lt_of_lt_of_le short (Nat.pow_le_pow_right (by decide) wide)
  refine ⟨rfl, rfl, ⟨_, positions_conversionCall long small⟩, ?_, fun _ _ => holds wide short⟩
  intro field
  cases field with
  | srcToken =>
    have nonempty : hop.path ≠ [] := List.ne_nil_of_length_pos (by omega)
    rw [word?, List.head?_eq_some_head nonempty]
    rfl
  | _ => rfl

end Converter

namespace PairRouter

def word? (router : PairRouter) (request : SwapRequest) (recipient : Address) (hop : HopData) :
    PatchField → Option Bytes
  | .fromAmount => some request.srcAmount.bytes
  | .toAmount => some request.destAmount.bytes
  | .srcToken => (tokens request hop).head?.map fun token => (router.wrapped token).padded
  | .destToken => (tokens request hop).getLast?.map fun token => (router.wrapped token).padded
  | .recipient => some recipient.padded
  | .returnAmount => none

theorem holds {bits : Nat} {router : PairRouter} {request : SwapRequest}
    {recipient target : Address} {hop : HopData} {path : List Address} {field : PatchField}
    {word : Bytes} (found : router.path request hop = .ok path) (wide : bits ≤ 256)
    (short : (swapCall request path recipient target).calldata.length < 2 ^ bits)
    (expected : router.word? request recipient hop field = some word) :
    ∃ offset, (layout request.side path.length).HoldsAt bits
      (swapCall request path recipient target).calldata field offset word := by
  have typed := describe_arguments request path recipient
  obtain ⟨_, same⟩ := path_eq_ok_iff.1 found
  have list : (arguments request path recipient)[2]? = some (addressList path) := by
    rw [arguments]
    cases request.side <;> rfl
  cases field with
  | fromAmount =>
    cases expected
    obtain ⟨srcToken, destToken, srcAmount, destAmount, side⟩ := request
    cases side with
    | sell => exact (layout .sell path.length).holdsAt_amount ⟨0, []⟩ rfl typed wide short rfl
    | buy => exact (layout .buy path.length).holdsAt_amount ⟨1, []⟩ rfl typed wide short rfl
  | toAmount =>
    cases expected
    obtain ⟨srcToken, destToken, srcAmount, destAmount, side⟩ := request
    cases side with
    | sell => exact (layout .sell path.length).holdsAt_amount ⟨1, []⟩ rfl typed wide short rfl
    | buy => exact (layout .buy path.length).holdsAt_amount ⟨0, []⟩ rfl typed wide short rfl
  | srcToken =>
    obtain ⟨token, first, rfl⟩ := Option.map_eq_some_iff.1 expected
    have entry : path[0]? = some (router.wrapped token) := by
      rw [← List.head?_eq_getElem?, same, List.head?_map, first]
      rfl
    have selected := AbiValue.select_addressList list entry
    exact (layout request.side path.length).holdsAt_address ⟨2, [0]⟩ rfl typed wide short selected
  | destToken =>
    -- The index of the last token depends on the path; where it is written is left to the resolver.
    obtain ⟨token, last, rfl⟩ := Option.map_eq_some_iff.1 expected
    have entry : path[path.length - 1]? = some (router.wrapped token) := by
      rw [← List.getLast?_eq_getElem?, same, List.getLast?_map, last]
      rfl
    have selected := AbiValue.select_addressList list entry
    exact (layout request.side path.length).holdsAt_address ⟨2, [path.length - 1]⟩ rfl typed wide
      short selected
  | recipient =>
    cases expected
    obtain ⟨srcToken, destToken, srcAmount, destAmount, side⟩ := request
    cases side with
    | sell => exact (layout .sell path.length).holdsAt_address ⟨3, []⟩ rfl typed wide short rfl
    | buy => exact (layout .buy path.length).holdsAt_address ⟨3, []⟩ rfl typed wide short rfl
  | returnAmount => cases expected

theorem honest {bits : Nat} {router : PairRouter} {request : SwapRequest}
    {recipient target : Address} {hop : HopData} {path : List Address}
    (found : router.path request hop = .ok path) (wide : bits ≤ 256)
    (short : (swapCall request path recipient target).calldata.length < 2 ^ bits) :
    (swapCall request path recipient target).Honest bits (router.word? request recipient hop) := by
  have long := two_le_of_path found
  have small := Nat.lt_of_lt_of_le short (Nat.pow_le_pow_right (by decide) wide)
  refine ⟨rfl, rfl, ⟨_, positions_swap long small⟩, ?_, fun _ _ => holds found wide short⟩
  obtain ⟨enough, _⟩ := path_eq_ok_iff.1 found
  have nonempty : tokens request hop ≠ [] := List.ne_nil_of_length_pos (by omega)
  intro field
  cases field with
  | srcToken =>
    rw [word?, List.head?_eq_some_head nonempty]
    rfl
  | destToken =>
    rw [word?, List.getLast?_eq_some_getLast nonempty]
    rfl
  | _ => rfl

theorem redirects {request : SwapRequest} {path : List Address} {recipient other target : Address}
    (short : (swapCall request path recipient target).calldata.length < 2 ^ 256) :
    (swapCall request path recipient target).Redirects other (swapCall request path other target) := by
  have typed := describe_arguments request path recipient
  obtain ⟨srcToken, destToken, srcAmount, destAmount, side⟩ := request
  cases side <;> exact .of_word 3 100 rfl rfl rfl typed short rfl rfl rfl

end PairRouter

namespace PegModule

def word? (amount : Word) (recipient : Address) : Direction → PatchField → Option Bytes
  | .sellsGem, .fromAmount => some amount.bytes
  | .buysGem, .toAmount => some amount.bytes
  | _, .recipient => some recipient.padded
  | _, _ => none

theorem honest {bits : Nat} {way : Direction} {amount : Word} {recipient target : Address}
    (wide : bits ≤ 256) (short : (gemCall way amount recipient target).calldata.length < 2 ^ bits) :
    (gemCall way amount recipient target).Honest bits (word? amount recipient way) := by
  have typed := describe_arguments way recipient amount
  have small := Nat.lt_of_lt_of_le short (Nat.pow_le_pow_right (by decide) wide)
  refine ⟨rfl, ?_, ⟨_, positions_gemCall small⟩, ?_, ?_⟩
  · cases way <;> rfl
  · intro field
    cases way <;> cases field <;> rfl
  · intro field word expected
    cases way with
    | sellsGem =>
      cases field with
      | fromAmount =>
        cases expected
        exact (layout .sellsGem).holdsAt_amount ⟨1, []⟩ rfl typed wide short rfl
      | recipient =>
        cases expected
        exact (layout .sellsGem).holdsAt_address ⟨0, []⟩ rfl typed wide short rfl
      | _ => cases expected
    | buysGem =>
      cases field with
      | toAmount =>
        cases expected
        exact (layout .buysGem).holdsAt_amount ⟨1, []⟩ rfl typed wide short rfl
      | recipient =>
        cases expected
        exact (layout .buysGem).holdsAt_address ⟨0, []⟩ rfl typed wide short rfl
      | _ => cases expected

theorem redirects {way : Direction} {amount : Word} {recipient other target : Address}
    (short : (gemCall way amount recipient target).calldata.length < 2 ^ 256) :
    (gemCall way amount recipient target).Redirects other (gemCall way amount other target) := by
  have typed := describe_arguments way recipient amount
  cases way <;> exact .of_word 0 4 rfl rfl rfl typed short rfl rfl rfl

end PegModule

namespace NativeWrapper

def word? (request : SwapRequest) : Conversion → PatchField → Option Bytes
  | .unwrap, .fromAmount => some (amount request).bytes
  | _, _ => none

theorem honest (bits : Nat) (wrapper : NativeWrapper) (conversion : Conversion)
    (request : SwapRequest) :
    (wrapper.conversionCall conversion (amount request)).Honest bits (word? request conversion) := by
  refine ⟨?_, ?_, ⟨_, positions_conversion conversion _⟩, ?_, ?_⟩
  · cases conversion <;> rfl
  · cases conversion <;> rfl
  · intro field
    cases conversion <;> cases field <;> rfl
  · intro field word expected
    cases conversion with
    | wrap => cases field <;> cases expected
    | unwrap =>
      cases field with
      | fromAmount =>
        cases expected
        refine ⟨4, .of_located rfl (locate_withdrawAmount _) ?_⟩
        exact Bytes.slice?_eq_some_iff.2
          ⟨⟨withdraw.selector, [], by simp [conversionCall, conversionData],
            withdraw.length_selector⟩, Word.length_bytes _⟩
      | _ => cases expected

end NativeWrapper

namespace Exchange

/-- The words that the fields of a call of an exchange are to hold, for the fields that the call has:
the amounts, the first and the last token of the path, and the recipient. -/
def word? : Exchange → SwapRequest → Address → Json → PatchField → Option Bytes
  | converter _, request, _, data, field =>
    (readHopData Converter.key Converter.HopData.ofJson data).toOption.bind fun hop =>
      Converter.word? request hop field
  | pairRouter e, request, recipient, data, field =>
    (readHopData PairRouter.key PairRouter.HopData.ofJson data).toOption.bind fun hop =>
      e.word? request recipient hop field
  | pegModule _, request, recipient, data, field =>
    (readHopData PegModule.key PegModule.HopData.ofJson data).toOption.bind fun hop =>
      (PegModule.direction request hop).toOption.bind fun way =>
        (PegModule.gemAmount request hop way).toOption.bind fun amount =>
          PegModule.word? amount recipient way field
  | nativeWrapper e, request, _, _, field =>
    (e.conversion request).toOption.bind fun conversion =>
      NativeWrapper.word? request conversion field

theorem honest_of_executorCall {bits : Nat} {exchange : Exchange} {request : SwapRequest}
    {recipient : Address} {data : Json} {call : ExecutorCall}
    (h : exchange.executorCall request recipient data = .ok call) (wide : bits ≤ 256)
    (short : call.calldata.length < 2 ^ bits) :
    call.Honest bits (exchange.word? request recipient data) := by
  unfold word?
  cases exchange with
  | converter e =>
    rw [executorCall] at h
    obtain ⟨hop, network, accepted, long, _, rfl⟩ := Converter.executorCall_eq_ok_iff.1 h
    have read := Converter.readHopData_of_accept accepted
    simp only [read]
    exact Converter.honest long wide short
  | pairRouter e =>
    rw [executorCall] at h
    obtain ⟨hop, path, target, accepted, found, _, rfl⟩ := PairRouter.executorCall_eq_ok_iff.1 h
    have read := PairRouter.readHopData_of_accept accepted
    simp only [read]
    exact PairRouter.honest found wide short
  | pegModule e =>
    rw [executorCall] at h
    obtain ⟨hop, way, amount, target, accepted, chosen, moved, _, rfl⟩ :=
      PegModule.executorCall_eq_ok_iff.1 h
    have read := PegModule.readHopData_of_accept accepted
    simp only [read, Except.toOption, Option.bind_some, chosen, moved]
    exact PegModule.honest wide short
  | nativeWrapper e =>
    rw [executorCall] at h
    obtain ⟨conversion, accepted, rfl⟩ := NativeWrapper.executorCall_eq_ok_iff.1 h
    rw [NativeWrapper.accept, Outcome.ite_else_error_eq_ok] at accepted
    obtain ⟨_, _, converted⟩ := Outcome.bind_eq_ok.1 accepted.2
    simp only [converted]
    exact e.honest bits conversion request

theorem exists_redirects {exchange : Exchange} {request : SwapRequest} {recipient : Address}
    {data : Json} {call : ExecutorCall}
    (h : exchange.executorCall request recipient data = .ok call)
    (short : call.calldata.length < 2 ^ 256) (other : Address) :
    ∃ again, exchange.executorCall request other data = .ok again ∧ call.Redirects other again := by
  cases exchange with
  | converter e =>
    rw [executorCall] at h
    obtain ⟨_, _, _, _, _, rfl⟩ := Converter.executorCall_eq_ok_iff.1 h
    refine ⟨_, h, fun _ => rfl, fun named => ?_⟩
    cases named
  | pairRouter e =>
    rw [executorCall] at h
    obtain ⟨hop, path, target, accepted, found, known, rfl⟩ := PairRouter.executorCall_eq_ok_iff.1 h
    have again : e.executorCall request other data = .ok _ :=
      PairRouter.executorCall_eq_ok_iff.2 ⟨hop, path, target, accepted, found, known, rfl⟩
    exact ⟨_, again, PairRouter.redirects short⟩
  | pegModule e =>
    rw [executorCall] at h
    obtain ⟨hop, way, amount, target, accepted, chosen, moved, known, rfl⟩ :=
      PegModule.executorCall_eq_ok_iff.1 h
    have again : e.executorCall request other data = .ok _ := PegModule.executorCall_eq_ok_iff.2
      ⟨hop, way, amount, target, accepted, chosen, moved, known, rfl⟩
    exact ⟨_, again, PegModule.redirects short⟩
  | nativeWrapper e =>
    rw [executorCall] at h
    obtain ⟨_, _, rfl⟩ := NativeWrapper.executorCall_eq_ok_iff.1 h
    refine ⟨_, h, fun _ => rfl, fun named => ?_⟩
    cases named

/-- The fields of a call hold what they stand for, and another recipient changes the call where it
stands and nowhere else. -/
theorem executorCall_honest {bits : Nat} {exchange : Exchange} {request : SwapRequest}
    {recipient : Address} {data : Json} {call : ExecutorCall}
    (h : exchange.executorCall request recipient data = .ok call) (wide : bits ≤ 256)
    (short : call.calldata.length < 2 ^ bits) :
    call.Honest bits (exchange.word? request recipient data) ∧
    ∀ other, ∃ again, exchange.executorCall request other data = .ok again ∧
      call.Redirects other again :=
  ⟨honest_of_executorCall h wide short,
    exists_redirects h (Nat.lt_of_lt_of_le short (Nat.pow_le_pow_right (by decide) wide))⟩

/-- A swap for an exact amount, whose path begins with the native token. -/
theorem executorCall_honest_router :
    let router : PairRouter := ⟨some (.repeated 0x22), .repeated 0xEE, .repeated 0xC0, .repeated 0xA1⟩
    let request : SwapRequest := ⟨.repeated 0xEE, .repeated 0x11, .max, .one, .buy⟩
    ∃ call, (pairRouter router).executorCall request (.repeated 0x33) .null = .ok call ∧
      call.calldata.length < 2 ^ 64 ∧
      (∃ offset, call.layout.HoldsAt 64 call.calldata .fromAmount offset Word.max.bytes) ∧
      (∃ offset, call.layout.HoldsAt 64 call.calldata .srcToken offset
        (Address.repeated 0xC0).padded) ∧
      ∃ offset, call.layout.HoldsAt 64 call.calldata .destToken offset
        (Address.repeated 0x11).padded := by
  intro router request
  have called : (pairRouter router).executorCall request (.repeated 0x33) .null = .ok
      (PairRouter.swapCall request [.repeated 0xC0, .repeated 0x11] (.repeated 0x33)
        (.repeated 0x22)) :=
    PairRouter.executorCall_eq_ok_iff.2 ⟨⟨none, []⟩, _, _, rfl, rfl, rfl, rfl⟩
  have short : (PairRouter.swapCall request [.repeated 0xC0, .repeated 0x11] (.repeated 0x33)
      (.repeated 0x22)).calldata.length < 2 ^ 64 := by
    rw [PairRouter.length_swapCall]
    decide
  have honest := (executorCall_honest called (by decide) short).1
  exact ⟨_, called, short, honest.holds .fromAmount _ rfl, honest.holds .srcToken _ rfl,
    honest.holds .destToken _ rfl⟩

end Exchange
end SwapPlan
