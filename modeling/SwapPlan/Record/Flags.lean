import SwapPlan.Bytes
/-!
# Positions and record flags

Positions are byte offsets inside a call that the executor overwrites at run time.  An absent
position means that the call has no such field.

Every record carries sixteen bits of flags.  Ten are defined: six describe the call and its leg,
four say which positions are absent.  The others are kept as read, so that a reader can report them.
-/
set_option autoImplicit false

namespace SwapPlan

/-- Offsets of the fields that an executor overwrites. -/
structure Positions where
  fromAmount : Option UInt16
  toAmount : Option UInt16
  srcToken : Option UInt16
  returnAmount : Option UInt16
deriving DecidableEq

namespace Positions

def none : Positions := ⟨.none, .none, .none, .none⟩

def named (p : Positions) : List (String × Option UInt16) :=
  [("fromAmount", p.fromAmount), ("toAmount", p.toAmount), ("srcToken", p.srcToken),
    ("returnAmount", p.returnAmount)]

def firstOutside? (p : Positions) (length : Nat) : Option (String × UInt16) :=
  p.named.findSome? fun (name, position) =>
    position.bind fun offset => if length ≤ offset.toNat then some (name, offset) else .none

end Positions

structure Flags where
  bits : BitVec 16
deriving DecidableEq

namespace Flags

def empty : Flags := ⟨0⟩

def needsWrap : Flags := ⟨0x0001⟩

def unwrapOutput : Flags := ⟨0x0002⟩

def specialExchange : Flags := ⟨0x0004⟩

def noRecipient : Flags := ⟨0x0008⟩

def noDestToken : Flags := ⟨0x0010⟩

def sendNative : Flags := ⟨0x0020⟩

def fromAmountAbsent : Flags := ⟨0x0100⟩

def toAmountAbsent : Flags := ⟨0x0200⟩

def srcTokenAbsent : Flags := ⟨0x0400⟩

def returnAmountAbsent : Flags := ⟨0x0800⟩

def named : List (String × Flags) :=
  [("NEEDS_WRAP", needsWrap), ("UNWRAP_OUTPUT", unwrapOutput),
    ("SPECIAL_EXCHANGE", specialExchange), ("NO_RECIPIENT_PARAM", noRecipient),
    ("NO_DEST_TOKEN_PARAM", noDestToken), ("SEND_NATIVE_VALUE", sendNative),
    ("FROM_AMOUNT_ABSENT", fromAmountAbsent), ("TO_AMOUNT_ABSENT", toAmountAbsent),
    ("SRC_TOKEN_ABSENT", srcTokenAbsent), ("RETURN_AMOUNT_ABSENT", returnAmountAbsent)]

def defined : BitVec 16 := 0x0F3F

def ofNat (n : Nat) : Flags := ⟨BitVec.ofNat 16 n⟩

def union (f g : Flags) : Flags := ⟨f.bits ||| g.bits⟩

def without (f g : Flags) : Flags := ⟨f.bits &&& ~~~g.bits⟩

def set (f g : Flags) (value : Bool) : Flags := if value then f.union g else f.without g

def contains (f g : Flags) : Bool := f.bits &&& g.bits = g.bits

def undefinedBits (f : Flags) : BitVec 16 := f.bits &&& ~~~defined

def hasUndefined (f : Flags) : Bool := f.undefinedBits ≠ 0

/-- Sets the absence flag of every position that is absent and clears the others. -/
def markAbsent (f : Flags) (p : Positions) : Flags :=
  (((f.set fromAmountAbsent p.fromAmount.isNone).set toAmountAbsent p.toAmount.isNone).set
    srcTokenAbsent p.srcToken.isNone).set returnAmountAbsent p.returnAmount.isNone

def keep (f absent : Flags) (offset : UInt16) : Option UInt16 :=
  if f.contains absent then none else some offset

def positions (f : Flags) (fromAmount toAmount srcToken returnAmount : UInt16) : Positions :=
  ⟨f.keep fromAmountAbsent fromAmount, f.keep toAmountAbsent toAmount,
    f.keep srcTokenAbsent srcToken, f.keep returnAmountAbsent returnAmount⟩

def bitsText (bits : BitVec 16) : String := Bytes.hex0x (bigEndian 2 bits.toNat)

def text (f : Flags) : String :=
  "InstructionFlags(" ++ bitsText f.bits ++ ": "
    ++ " | ".intercalate ((named.filter (f.contains ·.2)).map (·.1)) ++ ")"

end Flags
end SwapPlan
