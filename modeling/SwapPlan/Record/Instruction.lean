import SwapPlan.Address
import SwapPlan.Record.Flags
/-!
# Instructions and their headers

An instruction is one call of a plan.  Its record is a header of sixty bytes and the calldata.  The
header holds the target, the columns of its layout, each a number of a fixed width, and 28 zero
bytes.
-/
set_option autoImplicit false

namespace SwapPlan

inductive HeaderLayout
  /-- Four bytes of length, a one-byte position for the returned amount, none for the output. -/
  | basic
  /-- Two bytes of length, a position for the output amount, none for the returned amount. -/
  | multiField
deriving DecidableEq

def HeaderLayout.name : HeaderLayout → String
  | basic => "Basic"
  | multiField => "MultiField"

/-- One call, with what an executor needs to know about it. -/
structure Instruction where
  target : Address
  positions : Positions
  special : Option UInt16
  flags : Flags
  calldata : Bytes
deriving DecidableEq

def headerLength : Nat := 60

def paddingLength : Nat := 28

def Instruction.recordLength (i : Instruction) : Nat := headerLength + i.calldata.length

inductive Column
  | length
  | fromAmount
  | toAmount
  | srcToken
  | returnAmount
  | special
  | flags
deriving DecidableEq

def Column.name : Column → String
  | length => "calldataLength"
  | fromAmount => "fromAmount"
  | toAmount => "toAmount"
  | srcToken => "srcToken"
  | returnAmount => "returnAmount"
  | special => "specialExchange"
  | flags => "flags"

namespace HeaderLayout

def columns : HeaderLayout → List (Column × Nat)
  | basic => [(.length, 4), (.fromAmount, 2), (.srcToken, 2), (.returnAmount, 1), (.special, 1),
      (.flags, 2)]
  | multiField => [(.length, 2), (.toAmount, 2), (.fromAmount, 2), (.srcToken, 2), (.special, 2),
      (.flags, 2)]

/-- The target, the columns and the padding fill the header. -/
theorem sum_columns (layout : HeaderLayout) :
    Address.size + layout.columns.foldr (fun c size => c.2 + size) 0 + paddingLength =
      headerLength := by
  cases layout <;> rfl

def hasColumn (layout : HeaderLayout) (column : Column) : Bool :=
  layout.columns.any (·.1 = column)

def restrict (layout : HeaderLayout) (p : Positions) : Positions :=
  { p with
    toAmount := if layout.hasColumn .toAmount then p.toAmount else none
    returnAmount := if layout.hasColumn .returnAmount then p.returnAmount else none }

end HeaderLayout

structure Header where
  length : Nat := 0
  fromAmount : Nat := 0
  toAmount : Nat := 0
  srcToken : Nat := 0
  returnAmount : Nat := 0
  special : Nat := 0
  flags : Nat := 0
deriving DecidableEq

namespace Header

def get (h : Header) : Column → Nat
  | .length => h.length
  | .fromAmount => h.fromAmount
  | .toAmount => h.toAmount
  | .srcToken => h.srcToken
  | .returnAmount => h.returnAmount
  | .special => h.special
  | .flags => h.flags

def set (h : Header) (column : Column) (n : Nat) : Header :=
  match column with
  | .length => { h with length := n }
  | .fromAmount => { h with fromAmount := n }
  | .toAmount => { h with toAmount := n }
  | .srcToken => { h with srcToken := n }
  | .returnAmount => { h with returnAmount := n }
  | .special => { h with special := n }
  | .flags => { h with flags := n }

end Header
end SwapPlan
