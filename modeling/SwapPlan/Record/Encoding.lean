import SwapPlan.Record.Instruction
/-!
# Writing and reading records

An instruction has a record in a layout when every position that the layout keeps is inside the
calldata and every number fits its column.  Absent positions are written as zero and flagged; a
position for which the layout has no column is dropped and flagged as well.

`Instruction.decodeAt` reads one record at a position of a byte string, `decodePlan` a whole string
of records.  A record ends where its calldata ends, so the next one starts there.
-/
set_option autoImplicit false

namespace SwapPlan

inductive EncodingError
  | overflow (column : Column) (value : Nat) (bits : Nat)
  | positionOutside (position : String) (offset : UInt16) (length : Nat)
deriving DecidableEq

def EncodingError.message : EncodingError → String
  | overflow column value bits =>
    column.name ++ " value " ++ toString value ++ " exceeds its " ++ toString bits ++ "-bit field"
  | positionOutside position offset length =>
    position ++ " offset " ++ toString offset.toNat ++ " is outside calldata of "
      ++ toString length ++ " bytes"

structure Record where
  layout : HeaderLayout
  bytes : Bytes
deriving DecidableEq

def Record.calldata (r : Record) : Bytes := r.bytes.drop headerLength

def Record.header (r : Record) : Bytes := r.bytes.take headerLength

def Record.text (r : Record) : String :=
  "PackedInstruction(" ++ r.layout.name ++ ", " ++ r.bytes.hex0x ++ ")"

namespace Header

def write (h : Header) : List (Column × Nat) → Except EncodingError Bytes
  | [] => .ok []
  | (column, width) :: rest =>
    if h.get column < capacity width then
      (h.write rest).map (bigEndian width (h.get column) ++ ·)
    else .error (.overflow column (h.get column) (8 * width))

end Header

namespace Instruction

/-- The instruction as a layout carries it: positions without a column are dropped, and the absence
flags and the special-exchange flag say what is present. -/
def carried (i : Instruction) (layout : HeaderLayout) : Instruction :=
  { i with
    positions := layout.restrict i.positions
    flags := (i.flags.markAbsent (layout.restrict i.positions)).set .specialExchange
      i.special.isSome }

def number (n : Option UInt16) : Nat := (n.getD 0).toNat

def header (i : Instruction) : Header where
  length := i.calldata.length
  fromAmount := number i.positions.fromAmount
  toAmount := number i.positions.toAmount
  srcToken := number i.positions.srcToken
  returnAmount := number i.positions.returnAmount
  special := number i.special
  flags := i.flags.bits.toNat

def encode (i : Instruction) (layout : HeaderLayout) : Except EncodingError Record :=
  let kept := i.carried layout
  match kept.positions.firstOutside? i.calldata.length with
  | some (position, offset) => .error (.positionOutside position offset i.calldata.length)
  | none =>
    (kept.header.write layout.columns).map fun columns =>
      ⟨layout, i.target.bytes ++ columns ++ List.replicate paddingLength 0 ++ i.calldata⟩

end Instruction

inductive DecodeError
  | truncated (position : Nat) (needed : Nat) (available : Nat)
  | nonZeroPadding (position : Nat)
  | undefinedFlags (position : Nat) (bits : BitVec 16)
  | unflaggedSpecial (position : Nat) (value : UInt16)
  | positionOutside (target : Address) (name : String) (offset : UInt16) (length : Nat)
deriving DecidableEq

def DecodeError.message : DecodeError → String
  | truncated position needed available =>
    "instruction at byte " ++ toString position ++ " truncated: need " ++ toString needed
      ++ " bytes, " ++ toString available ++ " available"
  | nonZeroPadding position =>
    "instruction at byte " ++ toString position ++ " has non-zero reserved padding"
  | undefinedFlags position bits =>
    "instruction at byte " ++ toString position ++ " sets undefined flag bits "
      ++ Flags.bitsText bits
  | unflaggedSpecial position value =>
    "instruction at byte " ++ toString position ++ " carries special exchange "
      ++ toString value.toNat ++ " without the special-exchange flag"
  | positionOutside target name offset length =>
    "instruction for " ++ target.text ++ " references " ++ name ++ " offset "
      ++ toString offset.toNat ++ " outside its " ++ toString length ++ "-byte calldata"

namespace Header

def read : List (Column × Nat) → Bytes → Header → Header
  | [], _, h => h
  | (column, width) :: rest, bs, h =>
    read rest (bs.drop width) (h.set column (ofBigEndian (bs.take width)))

end Header

def takeAt (data : Bytes) (position needed : Nat) : Except DecodeError Bytes :=
  match data.slice? position needed with
  | some part => .ok part
  | none => .error (.truncated position needed (data.length - position))

namespace Instruction

/-- Reads the instruction of the record at a position.  The checks come in the order: header,
padding, flags, special-exchange number, calldata, positions. -/
def decodeAt (layout : HeaderLayout) (data : Bytes) (position : Nat) :
    Except DecodeError Instruction := do
  let bytes ← takeAt data position headerLength
  let header := Header.read layout.columns (bytes.drop Address.size) {}
  let target := Address.ofPrefix (bytes.take Address.size)
  let flags := Flags.ofNat header.flags
  let special := UInt16.ofNat header.special
  if (bytes.drop (headerLength - paddingLength)).any (· ≠ 0) then
    .error (.nonZeroPadding position)
  else if flags.hasUndefined then
    .error (.undefinedFlags position flags.undefinedBits)
  else if special ≠ 0 ∧ ¬flags.contains .specialExchange then
    .error (.unflaggedSpecial position special)
  else do
    let calldata ← takeAt data (position + headerLength) header.length
    let positions := flags.positions (UInt16.ofNat header.fromAmount)
      (UInt16.ofNat header.toAmount) (UInt16.ofNat header.srcToken)
      (UInt16.ofNat header.returnAmount)
    match positions.firstOutside? header.length with
    | some (name, offset) => .error (.positionOutside target name offset header.length)
    | none =>
      .ok ⟨target, positions, if flags.contains .specialExchange then some special else none,
        flags, calldata⟩

end Instruction

def Record.decode (r : Record) : Except DecodeError Instruction :=
  Instruction.decodeAt r.layout r.bytes 0

def decodePlanFrom (layout : HeaderLayout) (data : Bytes) (position : Nat) :
    Except DecodeError (List Instruction) :=
  if position < data.length then do
    let i ← Instruction.decodeAt layout data position
    return i :: (← decodePlanFrom layout data (position + i.recordLength))
  else .ok []
termination_by data.length - position
decreasing_by
  have : 60 ≤ i.recordLength := Nat.le_add_right 60 _
  omega

def decodePlan (layout : HeaderLayout) (data : Bytes) : Except DecodeError (List Instruction) :=
  decodePlanFrom layout data 0

end SwapPlan
