import SwapPlan.Abi.Encoding
import SwapPlan.Keccak
/-!
# Contract functions

A function is called with its selector, the first four bytes of the hash of its name and parameter
types, followed by the encoded arguments.
-/
set_option autoImplicit false

namespace SwapPlan

structure Parameter where
  name : String
  type : AbiType

inductive Mutability
  | nonPayable
  | pure
  | view
  | payable
deriving DecidableEq

def Mutability.name : Mutability → String
  | nonPayable => "NonPayable"
  | pure => "Pure"
  | view => "View"
  | payable => "Payable"

structure Function where
  name : String
  inputs : List Parameter
  outputs : List Parameter
  mutability : Mutability

inductive AbiError
  | badSignature (text : String)
  | badArguments (function : String)
  /-- A tuple has more components than its type, which ends the check of the arguments at once: the
  caller has no error to handle. -/
  | outsideTuple (count : Nat)
deriving DecidableEq

def AbiError.message : AbiError → String
  | badSignature text => "failed to parse `" ++ text ++ "`"
  | badArguments function => "failed to encode " ++ function ++ ": Invalid data"
  | outsideTuple count =>
    "index out of bounds: the len is " ++ toString count ++ " but the index is " ++ toString count

namespace Function

def inputTypes (f : Function) : List AbiType := f.inputs.map (·.type)

def prototype (f : Function) : String :=
  f.name ++ "(" ++ AbiType.listText f.inputTypes ++ ")"

/-- The name, the parameter types and, if there are any, the result types. -/
def signature (f : Function) : String :=
  if f.outputs.isEmpty then f.prototype
  else f.prototype ++ ":(" ++ AbiType.listText (f.outputs.map (·.type)) ++ ")"

def selectorLength : Nat := 4

def selector (f : Function) : Bytes :=
  (Keccak.hash (Bytes.ofText f.prototype)).take selectorLength

@[simp] theorem length_selector (f : Function) : f.selector.length = selectorLength := by
  simp [selector, selectorLength]

def call (f : Function) (arguments : List AbiValue) : Except AbiError Bytes :=
  if AbiValue.argumentsFit arguments f.inputTypes then
    .ok (f.selector ++ AbiValue.encode arguments)
  else match AbiValue.argumentsOverrun? arguments f.inputTypes with
    | some count => .error (.outsideTuple count)
    | none => .error (.badArguments f.name)

end Function
end SwapPlan
