import SwapPlan.Address
import SwapPlan.Decimal
import SwapPlan.Json.Printer
import SwapPlan.Text.Quoted
/-!
# Reading records out of JSON

A record is written as an object of named fields, or as an array of its fields in the order of their
declaration.  Values are read in the order in which they are written and the first that does not fit
decides the error; only then is a missing field reported, in the order of declaration.
-/
set_option autoImplicit false

namespace SwapPlan.Json

inductive ReadError
  | missingField (name : String)
  | unknownField (name : String)
  | duplicateField (name : String)
  | wrongKind (found : Json) (expected : String)
  | outOfRange (found : Int) (expected : String)
  | wrongLength (found : Nat) (expected : String)
  | badDigit (byte : UInt8) (position : Nat)
  | badAmount (text : String)
  | badBytes (text : String)
  | unknownName (name : String)

namespace ReadError

def describe : Json → String
  | .null => "null"
  | .bool b => "boolean `" ++ (if b then "true" else "false") ++ "`"
  | .int n => "integer `" ++ toString n ++ "`"
  | .float x => "floating point `" ++ String.ofList (Decimal.ofFloat .plain x) ++ "`"
  | .string s => "string " ++ Text.quote s
  | .array _ => "sequence"
  | .object _ => "map"

def message : ReadError → String
  | missingField name => "missing field `" ++ name ++ "`"
  | unknownField name => "unknown field `" ++ name ++ "`, there are no fields"
  | duplicateField name => "duplicate field `" ++ name ++ "`"
  | wrongKind found expected => "invalid type: " ++ describe found ++ ", expected " ++ expected
  | outOfRange found expected =>
    "invalid value: integer `" ++ toString found ++ "`, expected " ++ expected
  | wrongLength found expected => "invalid length " ++ toString found ++ ", expected " ++ expected
  | badDigit byte position =>
    "invalid hex character: " ++ String.singleton (Char.ofNat byte.toNat) ++ ", at "
      ++ toString position
  | badAmount text => "invalid amount: " ++ text
  | badBytes text => "invalid byte string: " ++ text
  | unknownName name => "unknown variant `" ++ name ++ "`"

end ReadError

abbrev Reader (α : Type) := Json → Except ReadError α

namespace Reader

def any : Reader Json := .ok

def text : Reader String
  | .string s => .ok s
  | found => .error (.wrongKind found "a string")

/-- A whole number below `bound`; `expected` names its type. -/
def natural (bound : Nat) (expected : String) : Reader Nat
  | .int n => if 0 ≤ n ∧ n < bound then .ok n.toNat else .error (.outOfRange n expected)
  | found => .error (.wrongKind found expected)

def list {α : Type} (read : Reader α) : Reader (List α)
  | .array items => items.mapM read
  | found => .error (.wrongKind found "a sequence")

def nullable {α : Type} (read : Reader α) : Reader (Option α)
  | .null => .ok none
  | found => (read found).map some

def hexKind (size : String) : String :=
  "a (both 0x-prefixed or not) hex string or byte array containing " ++ size ++ " bytes"

def hex {α : Type} (size : String) (decode : String → Except Text.Hex.Fault α) : Reader α
  | .string s =>
    match decode s with
    | .ok a => .ok a
    | .error (.length n) => .error (.wrongLength n (hexKind size))
    | .error (.digit byte position) => .error (.badDigit byte position)
  | found => .error (.wrongKind found (hexKind size))

def address : Reader Address := hex "20" Address.ofText

theorem address_text (a : Address) : address (.string a.text) = .ok a := by
  simp [address, hex, Address.ofText_text]

theorem list_map {α : Type} {read : Reader α} {write : α → Json} {xs : List α}
    (h : ∀ x ∈ xs, read (write x) = .ok x) : list read (.array (xs.map write)) = .ok xs := by
  simp only [list]
  induction xs with
  | nil => rfl
  | cons x xs ih =>
    have first := h x (List.mem_cons_self ..)
    have others := ih fun y member => h y (List.mem_cons_of_mem _ member)
    simp [first, others, bind, Except.bind, pure, Except.pure]

def amount : Reader Word := hex "between (0; 32]" Word.ofText

def eitherAmount : Reader Word
  | .string s => match Word.ofEitherNotation? s with
    | some w => .ok w
    | none => .error (.badAmount s)
  | found => .error (.wrongKind found "a string")

def bytes : Reader Bytes
  | .string s =>
    match Text.Hex.bytes? (Text.Hex.withoutMark s.toList) with
    | some bs => .ok bs
    | none => .error (.badBytes s)
  | found => .error (.wrongKind found "a string")

end Reader

structure Field where
  name : String
  required : Bool
  check : Json → Except ReadError Unit

def Field.mandatory {α : Type} (name : String) (read : Reader α) : Field :=
  ⟨name, true, fun v => (read v).map fun _ => ()⟩

def Field.optional {α : Type} (name : String) (read : Reader α) : Field :=
  ⟨name, false, fun v => (read v).map fun _ => ()⟩

structure Shape where
  title : String
  fields : List Field
  closed : Bool

namespace Shape

def field? (shape : Shape) (name : String) : Option Field :=
  shape.fields.find? (·.name = name)

/-- Checks the members of an object in their order; gives those that are fields. -/
def checkMembers (shape : Shape) :
    (seen : List String) → List (String × Json) → Except ReadError (List (String × Json))
  | _, [] => .ok []
  | seen, (name, v) :: rest =>
    match shape.field? name with
    | some field =>
      if seen.contains name then .error (.duplicateField name)
      else do
        field.check v
        return (name, v) :: (← shape.checkMembers (name :: seen) rest)
    | none =>
      if shape.closed then .error (.unknownField name) else shape.checkMembers seen rest

def checkItems (shape : Shape) (position : Nat) :
    List Field → List Json → Except ReadError (List (String × Json))
  | [], [] => .ok []
  | [], extra => .error (.wrongLength (position + extra.length) "fewer elements in array")
  | field :: fields, [] =>
    if (field :: fields).any (·.required) then
      .error (.wrongLength (position + ((field :: fields).takeWhile (!·.required)).length)
        ("struct " ++ shape.title ++ " with " ++ toString shape.fields.length ++ " elements"))
    else .ok []
  | field :: fields, v :: rest => do
    field.check v
    return (field.name, v) :: (← shape.checkItems (position + 1) fields rest)

def missing? (shape : Shape) (members : List (String × Json)) : Option String :=
  (shape.fields.find? fun field => field.required && !(members.any (·.1 = field.name))).map
    (·.name)

def members (shape : Shape) : Json → Except ReadError (List (String × Json))
  | .object ms => do
    let found ← shape.checkMembers [] ms
    match shape.missing? found with
    | some name => throw (.missingField name)
    | none => return found
  | .array items => shape.checkItems 0 shape.fields items
  | found => .error (.wrongKind found ("struct " ++ shape.title))

end Shape

def require {α : Type} (members : List (String × Json)) (name : String) (read : Reader α) :
    Except ReadError α :=
  match member? name members with
  | some v => read v
  | none => .error (.missingField name)

def withDefault {α : Type} (members : List (String × Json)) (name : String) (read : Reader α)
    (default : α) : Except ReadError α :=
  match member? name members with
  | some v => read v
  | none => .ok default

end SwapPlan.Json
