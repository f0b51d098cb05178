import SwapPlan.Bytes
import SwapPlan.Decimal
/-!
# JSON values and their text

The members of an object are kept in order and a name may occur twice; `canonical` sorts them by
name and keeps the last of each name, at every depth.  Values are written without white space,
members in their order.
-/
set_option autoImplicit false

namespace SwapPlan

/-- A JSON value.  Whole numbers of 64 bits, signed or unsigned, are exact; every other number is a
double. -/
inductive Json
  | null
  | bool (value : Bool)
  | int (value : Int)
  | float (value : Float)
  | string (value : String)
  | array (items : List Json)
  | object (members : List (String × Json))
deriving Inhabited

namespace Json

def insertMember (name : String) (value : Json) : List (String × Json) → List (String × Json)
  | [] => [(name, value)]
  | (other, v) :: rest =>
    if name < other then (name, value) :: (other, v) :: rest
    else if name = other then (name, value) :: rest
    else (other, v) :: insertMember name value rest

mutual

/-- The value with the members of every object sorted by name, the last of each name kept. -/
def canonical : Json → Json
  | array items => array (canonicalItems items)
  | object members => object (canonicalMembers [] members)
  | leaf => leaf

def canonicalItems : List Json → List Json
  | [] => []
  | v :: rest => canonical v :: canonicalItems rest

def canonicalMembers (sorted : List (String × Json)) :
    List (String × Json) → List (String × Json)
  | [] => sorted
  | (name, v) :: rest => canonicalMembers (insertMember name (canonical v) sorted) rest

end

def member? (name : String) (members : List (String × Json)) : Option Json :=
  members.lookup name

def get? (name : String) : Json → Option Json
  | object members => member? name members
  | _ => none

end Json
end SwapPlan

namespace SwapPlan.Json

def escape (c : Char) : List Char :=
  match c.toNat with
  | 0x22 => ['\x5c', '\x22']
  | 0x5C => ['\x5c', '\x5c']
  | 0x08 => ['\x5c', 'b']
  | 0x09 => ['\x5c', 't']
  | 0x0A => ['\x5c', 'n']
  | 0x0C => ['\x5c', 'f']
  | 0x0D => ['\x5c', 'r']
  | n =>
    if n < 0x20 then
      ['\x5c', 'u', '0', '0', Bytes.hexDigit (n / 16), Bytes.hexDigit (n % 16)]
    else [c]

def quote (s : String) : List Char := '\x22' :: s.toList.flatMap escape ++ ['\x22']

mutual

def render : Json → List Char → List Char
  | null, tail => "null".toList ++ tail
  | bool true, tail => "true".toList ++ tail
  | bool false, tail => "false".toList ++ tail
  | int n, tail => (toString n).toList ++ tail
  | float x, tail => Decimal.ofFloat .plain x ++ tail
  | string s, tail => quote s ++ tail
  | array items, tail => '[' :: renderItems items (']' :: tail)
  | object members, tail => '\x7b' :: renderMembers members ('\x7d' :: tail)

def renderItems : List Json → List Char → List Char
  | [], tail => tail
  | [v], tail => render v tail
  | v :: w :: rest, tail => render v (',' :: renderItems (w :: rest) tail)

def renderMembers : List (String × Json) → List Char → List Char
  | [], tail => tail
  | [(name, v)], tail => quote name ++ ':' :: render v tail
  | (name, v) :: w :: rest, tail =>
    quote name ++ ':' :: render v (',' :: renderMembers (w :: rest) tail)

end

def toText (v : Json) : String := String.ofList (render v [])

end SwapPlan.Json
