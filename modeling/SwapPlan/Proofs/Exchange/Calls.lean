import SwapPlan.Exchange.Registry
import SwapPlan.Proofs.Call.Agreement
import SwapPlan.Proofs.Call.Bounds
/-!
# Forming calls and finding their fields

When a function takes arguments, which positions the fields of a call have, and the calls of the
native wrapper.
-/
set_option autoImplicit false

namespace SwapPlan

theorem encodeCall_eq_ok_iff {f : Function} {arguments : List AbiValue} {bytes : Bytes} :
    encodeCall f arguments = .ok bytes ↔
      AbiValue.argumentsFit arguments f.inputTypes = true ∧
      bytes = f.selector ++ AbiValue.encode arguments := by
  rw [← Function.call_eq_ok_iff, encodeCall]
  cases f.call arguments <;> simp

theorem Function.length_call {f : Function} {arguments : List AbiValue}
    (typed : (Slots.components f.inputTypes).Describe arguments) :
    (f.selector ++ AbiValue.encode arguments).length =
      selectorLength + AbiType.headSizes f.inputTypes +
        (AbiValue.tails (AbiValue.parts arguments)).length := by
  rw [List.length_append, f.length_selector, AbiValue.encode, AbiValue.sequence,
    List.length_append, AbiValue.length_heads, ← AbiValue.headLength, typed.headLength_eq,
    Nat.add_assoc]

namespace AbiValue

theorem inhabits_uint (value : Word) (bits : Nat) : Inhabits (.uint value) (.uint bits) :=
  .word rfl rfl value.length_bytes

theorem inhabits_address (value : Address) : Inhabits (.address value) .address :=
  .word rfl rfl value.length_padded

theorem inhabits_addressList (path : List Address) :
    Inhabits (addressList path) (.array .address) := by
  refine .array fun v mem => ?_
  obtain ⟨a, _, rfl⟩ := List.mem_map.1 mem
  exact inhabits_address a

theorem length_addressList (path : List Address) :
    (addressList path).body.length = Word.size + path.length * Word.size := by
  have static : anyDynamic (path.map .address) = false := by
    rw [anyDynamic_eq_any, List.any_map]
    exact List.any_eq_false.2 fun _ _ => nofun
  have sizes : ∀ v ∈ path.map AbiValue.address, v.part.headSize = Word.size := by
    intro v mem
    obtain ⟨a, _, rfl⟩ := List.mem_map.1 mem
    exact (inhabits_address a).headSize_eq
  have content : (encode (path.map .address)).length = path.length * Word.size := by
    rw [length_encode_of_static static, headLength_of_each sizes, List.length_map]
  rw [addressList, body, List.length_append, length_wordOf]
  exact congrArg (Word.size + ·) content

theorem fits_addressList (path : List Address) :
    (addressList path).fits (.array .address) = true := by
  rw [addressList, fits]
  induction path with
  | nil => rfl
  | cons a rest ih => rw [List.map_cons, allFit, ih, fits, Bool.and_true]

end AbiValue

namespace CallLayout

variable {layout : CallLayout} {calldata : Bytes} {field : PatchField}

theorem position_of_located {bits : Nat} {location : FieldLocation} {offset : Nat}
    (h : layout.location field = some location)
    (located : layout.locate calldata location bits = .ok offset) (fits : offset < UInt16.size) :
    layout.position calldata field bits = .ok (UInt16.ofNat offset) := by
  simp only [position, h, located, Outcome.ok_bind, narrow, if_pos fits]

theorem position?_of_located {location : FieldLocation} {offset : Nat}
    (h : layout.location field = some location)
    (located : layout.locate calldata location = .ok offset) (fits : offset < UInt16.size) :
    layout.position? calldata field = .ok (some (UInt16.ofNat offset)) := by
  rw [position?, h]
  simp only [position_of_located h located fits]
  rfl

theorem position?_of_slot {path : SlotPath} {arguments : List AbiValue} {leaf : AbiValue}
    {offset : UInt16} (declared : layout.location field = some (.slot path))
    (typed : (Slots.components layout.function.inputTypes).Describe arguments)
    (short : (layout.function.selector ++ AbiValue.encode arguments).length < 2 ^ 256)
    (selected : AbiValue.select arguments path.argument path.inner = some leaf)
    (isWord : leaf.isWord = true)
    (place : Function.selectorLength + AbiValue.writtenAt arguments path.argument path.inner =
      offset.toNat) :
    layout.position? (layout.function.selector ++ AbiValue.encode arguments) field =
      .ok (some offset) := by
  have fits : offset.toNat < 2 ^ 64 := Nat.lt_trans offset.toNat_lt (by decide)
  have located : layout.locate (layout.function.selector ++ AbiValue.encode arguments)
      (.slot path) = .ok offset.toNat := by
    rw [← place] at fits ⊢
    exact Function.offset_of_select typed short selected isWord fits
  rw [position?_of_located declared located offset.toNat_lt, UInt16.ofNat_toNat]

theorem position?_of_word {index : Nat} {arguments : List AbiValue} {v : AbiValue}
    {offset : UInt16} (declared : layout.location field = some (.slot ⟨index, []⟩))
    (typed : (Slots.components layout.function.inputTypes).Describe arguments)
    (short : (layout.function.selector ++ AbiValue.encode arguments).length < 2 ^ 256)
    (value : arguments[index]? = some v) (isWord : v.isWord = true)
    (place : Function.selectorLength + AbiType.headSizes (layout.function.inputTypes.take index) =
      offset.toNat) :
    layout.position? (layout.function.selector ++ AbiValue.encode arguments) field =
      .ok (some offset) := by
  refine position?_of_slot declared typed short value isWord ?_
  rw [typed.writtenAt_word value isWord, place]

theorem position?_of_first {index : Nat} {arguments : List AbiValue} {path : List Address}
    {offset : UInt16} (declared : layout.location field = some (.slot ⟨index, [0]⟩))
    (typed : (Slots.components layout.function.inputTypes).Describe arguments)
    (short : (layout.function.selector ++ AbiValue.encode arguments).length < 2 ^ 256)
    (value : arguments[index]? = some (addressList path)) (nonempty : path ≠ [])
    (words : AbiValue.anyDynamic (arguments.take index) = false)
    (place : Function.selectorLength + (AbiType.headSizes layout.function.inputTypes + Word.size) =
      offset.toNat) :
    layout.position? (layout.function.selector ++ AbiValue.encode arguments) field =
      .ok (some offset) := by
  cases path with
  | nil => exact absurd rfl nonempty
  | cons token path =>
    have selected : AbiValue.select arguments index [0] = some (.address token) := by
      rw [AbiValue.select, value]
      rfl
    refine position?_of_slot declared typed short selected rfl ?_
    rw [typed.writtenAt_first value rfl words, place]

end CallLayout

namespace NativeWrapper

def conversionData : Conversion → Word → Bytes
  | .wrap, _ => deposit.selector
  | .unwrap, amount => withdraw.selector ++ amount.bytes

def conversionCall (wrapper : NativeWrapper) (conversion : Conversion) (amount : Word) :
    ExecutorCall where
  needsWrap := false
  namesRecipient := false
  namesDestToken := false
  sendsNative := conversion = .wrap
  calldata := conversionData conversion amount
  target := wrapper.wrappedNative
  special := none
  layout := layout conversion

theorem length_conversionData (conversion : Conversion) (amount : Word) :
    (conversionData conversion amount).length =
      match conversion with
      | .wrap => 4
      | .unwrap => 36 := by
  cases conversion <;> simp [conversionData, Function.selectorLength, Word.size]

theorem calldata_eq_ok (conversion : Conversion) (amount : Word) :
    calldata conversion amount = .ok (conversionData conversion amount) := by
  cases conversion with
  | wrap =>
    rw [calldata, encodeCall_eq_ok_iff]
    refine ⟨by decide, ?_⟩
    simp [conversionData, AbiValue.encode, AbiValue.parts, AbiValue.sequence, AbiValue.heads,
      AbiValue.tails]
  | unwrap =>
    rw [calldata, encodeCall_eq_ok_iff]
    refine ⟨rfl, ?_⟩
    simp [conversionData, AbiValue.encode, AbiValue.parts, AbiValue.sequence, AbiValue.heads,
      AbiValue.tails, AbiValue.isDynamic, AbiValue.body]

theorem convert_eq_ok (wrapper : NativeWrapper) (conversion : Conversion) (amount : Word) :
    wrapper.convert conversion amount = .ok (wrapper.conversionCall conversion amount) := by
  rw [convert, calldata_eq_ok]
  rfl

def conversionPositions : Conversion → Positions
  | .wrap => .none
  | .unwrap => { Positions.none with fromAmount := some withdrawAmountOffset }

theorem locate_withdrawAmount (amount : Word) :
    (layout .unwrap).locate (conversionData .unwrap amount) (.literal withdrawAmountOffset) =
      .ok withdrawAmountOffset.toNat := by
  have selected : (layout .unwrap).function.checkSelector (conversionData .unwrap amount) =
      .ok () := withdraw.checkSelector_append amount.bytes
  have inside : withdrawAmountOffset.toNat + Word.size ≤
      (conversionData .unwrap amount).length := by
    simp [conversionData, Function.selectorLength, withdrawAmountOffset]
  rw [CallLayout.locate, selected, Outcome.ok_bind, if_pos inside]
  rfl

theorem positions_conversion (conversion : Conversion) (amount : Word) :
    (layout conversion).positions (conversionData conversion amount) =
      .ok (conversionPositions conversion) := by
  apply CallLayout.positions_eq_ok_iff.2
  cases conversion with
  | wrap => exact ⟨rfl, rfl, rfl, rfl⟩
  | unwrap =>
    exact ⟨CallLayout.position?_of_located rfl (locate_withdrawAmount amount) (by decide),
      rfl, rfl, rfl⟩

end NativeWrapper
end SwapPlan
