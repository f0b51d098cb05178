import SwapPlan.Abi.Function
import SwapPlan.Record.Flags
/-!
# Call layouts and the resolution of positions

A call layout says where the fields that may be overwritten stand in a call of a function: at a slot
of its arguments, or at an offset that is known beforehand.

`Function.offset` walks a slot path through the types of a function's parameters and reads the
pointers and lengths that stand in the way out of the calldata.  Each of them has to be inside the
calldata, and the slot has to be a single word, all of it inside the calldata.

Positions are numbers of some bits, 64 if nothing else is said.  Adding a distance to a position
wraps around, except where a pointer or a length out of the calldata is added.
-/
set_option autoImplicit false

namespace SwapPlan

inductive PatchField
  | fromAmount
  | toAmount
  | srcToken
  | returnAmount
  | recipient
  | destToken
deriving DecidableEq

namespace PatchField

def all : List PatchField := [fromAmount, toAmount, srcToken, returnAmount, recipient, destToken]

def name : PatchField → String
  | fromAmount => "fromAmount"
  | toAmount => "toAmount"
  | srcToken => "srcToken"
  | returnAmount => "returnAmount"
  | recipient => "recipient"
  | destToken => "destToken"

end PatchField

/-- A slot of the arguments: the index of an argument, then indices of tuple components and array
elements inside it. -/
structure SlotPath where
  argument : Nat
  inner : List Nat
deriving DecidableEq

def SlotPath.indices (path : SlotPath) : List Nat := path.argument :: path.inner

inductive FieldLocation
  | slot (path : SlotPath)
  | literal (offset : UInt16)
deriving DecidableEq

structure CallLayout where
  function : Function
  location : PatchField → Option FieldLocation

namespace CallLayout

def ofFunction (f : Function) : CallLayout := ⟨f, fun _ => none⟩

def declare (layout : CallLayout) (field : PatchField) (location : FieldLocation) : CallLayout :=
  { layout with
    location := fun other => if other = field then some location else layout.location other }

def declareSlot (layout : CallLayout) (field : PatchField) (argument : Nat)
    (inner : List Nat := []) : CallLayout :=
  layout.declare field (.slot ⟨argument, inner⟩)

@[simp] theorem location_declare (layout : CallLayout) (field other : PatchField)
    (location : FieldLocation) :
    (layout.declare field location).location other =
      if other = field then some location else layout.location other := rfl

end CallLayout

inductive PositionError
  | selectorMismatch (function : String) (expected : Bytes) (found : Bytes)
  | notDeclared (field : PatchField) (function : String)
  /-- An index has no component or element; `container` names what it indexes. -/
  | indexOutOfRange (index : Nat) (container : String)
  | pointerOutside (position : Nat) (length : Nat)
  | notAWord (type : AbiType)
  | offsetTooLarge (offset : Nat)
  | missingChainedAmount

def PositionError.message : PositionError → String
  | selectorMismatch function expected found =>
    "calldata selector 0x" ++ found.hex ++ " does not match " ++ function ++ " (0x" ++ expected.hex
      ++ ")"
  | notDeclared field function =>
    "field " ++ field.name ++ " is not part of the " ++ function ++ " signature"
  | indexOutOfRange index container =>
    "index " ++ toString index ++ " out of range for " ++ container
  | pointerOutside position length =>
    "pointer at byte " ++ toString position ++ " resolves outside calldata of " ++ toString length
      ++ " bytes"
  | notAWord type =>
    "resolved slot has type " ++ type.text ++ " which is not a single 32-byte word"
  | offsetTooLarge offset => "offset " ++ toString offset ++ " exceeds the 16-bit position range"
  | missingChainedAmount =>
    "hop consumes a previous leg's output but exposes no fromAmount position"

inductive Slots
  | components (types : List AbiType)
  | elements (type : AbiType) (count : Nat)

def Slots.at? : Slots → Nat → Option (Nat × AbiType)
  | components types, index =>
    types[index]?.map fun t => (AbiType.headSizes (types.take index), t)
  | elements type count, index =>
    if index < count then some (index * type.headSize, type) else none

/-- A head reached by the first indices of a path. -/
structure Frame where
  /-- Where the head starts; pointers in it count from there. -/
  base : Nat
  slots : Slots
  container : String

namespace Frame

def slot (bits : Nat) (frame : Frame) (index : Nat) : Except PositionError (Nat × AbiType) :=
  match frame.slots.at? index with
  | some (distance, type) => .ok ((frame.base + distance) % Nat.pow 2 bits, type)
  | none => .error (.indexOutOfRange index frame.container)

/-- Reads a word that is a pointer or a length; it may not be larger than the calldata is long. -/
def readWord (calldata : Bytes) (position : Nat) : Except PositionError Nat :=
  match calldata.slice? position Word.size with
  | some word =>
    if ofBigEndian word ≤ calldata.length then .ok (ofBigEndian word)
    else .error (.pointerOutside position calldata.length)
  | none => .error (.pointerOutside position calldata.length)

def advance (calldata : Bytes) (base distance : Nat) : Except PositionError Nat :=
  if base + distance ≤ calldata.length then .ok (base + distance)
  else .error (.pointerOutside base calldata.length)

def valueStart (bits : Nat) (calldata : Bytes) (frame : Frame) (index : Nat) :
    Except PositionError (Nat × AbiType) := do
  let (head, type) ← frame.slot bits index
  if type.isDynamic then
    let start ← advance calldata frame.base (← readWord calldata head)
    return (start, type)
  else return (head, type)

def enter (bits : Nat) (calldata : Bytes) (frame : Frame) (index : Nat) :
    Except PositionError Frame := do
  let (start, type) ← frame.valueStart bits calldata index
  match type with
  | .tuple components => return ⟨start, .components components, type.text⟩
  | .fixedArray item count => return ⟨start, .elements item count, type.text⟩
  | .array item =>
    let count ← readWord calldata start
    let base := start + Word.size
    let _ ← advance calldata base (count * (item.headSize % Nat.pow 2 bits))
    return ⟨base, .elements item count, type.text⟩
  | _ => .error (.indexOutOfRange index type.text)

def word (bits : Nat) (calldata : Bytes) (frame : Frame) (index : Nat) :
    Except PositionError Nat := do
  let (offset, type) ← frame.slot bits index
  if type.isWord then
    if (offset + Word.size) % Nat.pow 2 bits ≤ calldata.length then return offset
    else .error (.pointerOutside offset calldata.length)
  else .error (.notAWord type)

/-- The offset of the word at an index and further indices inside it. -/
def walk (bits : Nat) (calldata : Bytes) (frame : Frame) :
    Nat → List Nat → Except PositionError Nat
  | index, [] => frame.word bits calldata index
  | index, next :: rest => do (← frame.enter bits calldata index).walk bits calldata next rest

end Frame

namespace Function

def checkSelector (f : Function) (calldata : Bytes) : Except PositionError Unit :=
  if calldata.take selectorLength = f.selector then .ok ()
  else .error (.selectorMismatch f.signature f.selector (calldata.take selectorLength))

def frame (f : Function) : Frame := ⟨selectorLength, .components f.inputTypes, f.name⟩

/-- The offset of the word at a slot path in the calldata. -/
def offset (f : Function) (calldata : Bytes) (path : SlotPath) (bits : Nat := 64) :
    Except PositionError Nat := do
  f.checkSelector calldata
  f.frame.walk bits calldata path.argument path.inner

end Function

namespace CallLayout

def locate (layout : CallLayout) (calldata : Bytes) (location : FieldLocation)
    (bits : Nat := 64) : Except PositionError Nat :=
  match location with
  | .slot path => layout.function.offset calldata path bits
  | .literal offset => do
    layout.function.checkSelector calldata
    if offset.toNat + Word.size ≤ calldata.length then return offset.toNat
    else .error (.pointerOutside offset.toNat calldata.length)

def narrow (offset : Nat) : Except PositionError UInt16 :=
  if offset < UInt16.size then .ok (UInt16.ofNat offset) else .error (.offsetTooLarge offset)

def position (layout : CallLayout) (calldata : Bytes) (field : PatchField) (bits : Nat := 64) :
    Except PositionError UInt16 :=
  match layout.location field with
  | some location => do narrow (← layout.locate calldata location bits)
  | none => .error (.notDeclared field layout.function.signature)

def position? (layout : CallLayout) (calldata : Bytes) (field : PatchField) :
    Except PositionError (Option UInt16) :=
  match layout.location field with
  | some _ => (layout.position calldata field).map some
  | none => .ok none

def positions (layout : CallLayout) (calldata : Bytes) : Except PositionError Positions := do
  return ⟨← layout.position? calldata .fromAmount, ← layout.position? calldata .toAmount,
    ← layout.position? calldata .srcToken, ← layout.position? calldata .returnAmount⟩

end CallLayout
end SwapPlan
