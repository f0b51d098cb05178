import SwapPlan.Address
import SwapPlan.Word
/-!
# Contract ABI types, values and their encoding

The types of call parameters, their canonical text, and the room that a value of a type takes in the
head of the tuple around it: a type whose values vary in length takes one word, which points to the
value; any other is written in place.

Numbers are not checked against the width of their type, and a tuple may leave out components at its
end; only the arguments of a call have to be as many as its parameters (`argumentsFit`).

A sequence of values is a head and a tail.  A value of fixed length stands in the head; any other
has a word there that gives the distance of its body in the tail from the start of the head.
-/
set_option autoImplicit false

namespace SwapPlan

inductive AbiType
  | address
  | bool
  | string
  | bytes
  | fixedBytes (size : Nat)
  | uint (bits : Nat)
  | int (bits : Nat)
  | array (item : AbiType)
  | fixedArray (item : AbiType) (count : Nat)
  | tuple (components : List AbiType)
deriving Inhabited

namespace AbiType

mutual

def text : AbiType → String
  | address => "address"
  | bool => "bool"
  | string => "string"
  | bytes => "bytes"
  | fixedBytes size => "bytes" ++ toString size
  | uint bits => "uint" ++ toString bits
  | int bits => "int" ++ toString bits
  | array item => item.text ++ "[]"
  | fixedArray item count => item.text ++ "[" ++ toString count ++ "]"
  | tuple components => "(" ++ listText components ++ ")"

def listText : List AbiType → String
  | [] => ""
  | [t] => t.text
  | t :: u :: rest => t.text ++ "," ++ listText (u :: rest)

end

mutual

def isDynamic : AbiType → Bool
  | string => true
  | bytes => true
  | array _ => true
  | fixedArray item _ => item.isDynamic
  | tuple components => anyDynamic components
  | _ => false

def anyDynamic : List AbiType → Bool
  | [] => false
  | t :: rest => t.isDynamic || anyDynamic rest

end

mutual

/-- The bytes that a value of the type takes in the head of the tuple around it. -/
def headSize : AbiType → Nat
  | fixedArray item count => if item.isDynamic then Word.size else count * item.headSize
  | tuple components => if anyDynamic components then Word.size else headSizes components
  | _ => Word.size

def headSizes : List AbiType → Nat
  | [] => 0
  | t :: rest => t.headSize + headSizes rest

end

def isWord : AbiType → Bool
  | address => true
  | bool => true
  | fixedBytes _ => true
  | uint _ => true
  | int _ => true
  | _ => false

end AbiType

inductive AbiValue
  | address (value : Address)
  | bool (value : Bool)
  | string (value : String)
  | bytes (value : Bytes)
  | fixedBytes (value : Bytes)
  | uint (value : Word)
  | int (value : Word)
  | array (items : List AbiValue)
  | fixedArray (items : List AbiValue)
  | tuple (components : List AbiValue)
deriving Inhabited

namespace AbiValue

mutual

/-- Whether a value fits a type.  A tuple may have fewer components than its type. -/
def fits : AbiValue → AbiType → Bool
  | address _, .address => true
  | bool _, .bool => true
  | string _, .string => true
  | bytes _, .bytes => true
  | fixedBytes value, .fixedBytes size => value.length ≤ size
  | uint _, .uint _ => true
  | int _, .int _ => true
  | array items, .array item => allFit items item
  | fixedArray items, .fixedArray item count => items.length = count && allFit items item
  | tuple values, .tuple types => prefixFits values types
  | _, _ => false

def allFit : List AbiValue → AbiType → Bool
  | [], _ => true
  | v :: rest, t => v.fits t && allFit rest t

def prefixFits : List AbiValue → List AbiType → Bool
  | [], _ => true
  | _ :: _, [] => false
  | v :: values, t :: types => v.fits t && prefixFits values types

end

def argumentsFit (arguments : List AbiValue) (types : List AbiType) : Bool :=
  arguments.length = types.length && prefixFits arguments types

mutual

/-- How many components a tuple type has that the check of a value asks for one more.  The check goes
on from left to right as long as everything fits. -/
def overrun? : AbiValue → AbiType → Option Nat
  | array items, .array item => itemOverrun? items item
  | fixedArray items, .fixedArray item count =>
    if items.length = count then itemOverrun? items item else none
  | tuple values, .tuple types => prefixOverrun? types.length values types
  | _, _ => none

def itemOverrun? : List AbiValue → AbiType → Option Nat
  | [], _ => none
  | v :: rest, t => if v.fits t then itemOverrun? rest t else v.overrun? t

def prefixOverrun? (count : Nat) : List AbiValue → List AbiType → Option Nat
  | [], _ => none
  | _ :: _, [] => some count
  | v :: values, t :: types => if v.fits t then prefixOverrun? count values types else v.overrun? t

end

def argumentsOverrun? (arguments : List AbiValue) (types : List AbiType) : Option Nat :=
  if arguments.length = types.length then prefixOverrun? types.length arguments types else none

mutual

/-- Whether a value is written behind a pointer: texts, byte strings and arrays are, and a fixed
array or tuple is if one of its own elements is. -/
def isDynamic : AbiValue → Bool
  | string _ => true
  | bytes _ => true
  | array _ => true
  | fixedArray items => anyDynamic items
  | tuple components => anyDynamic components
  | _ => false

def anyDynamic : List AbiValue → Bool
  | [] => false
  | v :: rest => v.isDynamic || anyDynamic rest

end

end AbiValue
end SwapPlan

namespace SwapPlan.AbiValue

def wordOf (n : Nat) : Bytes := bigEndian Word.size n

def fillUp (bs : Bytes) : Bytes :=
  bs ++ List.replicate ((Word.size - bs.length % Word.size) % Word.size) 0

structure Part where
  dynamic : Bool
  body : Bytes

def Part.headSize (p : Part) : Nat := if p.dynamic then Word.size else p.body.length

def heads (tailStart : Nat) : List Part → Bytes
  | [] => []
  | p :: rest =>
    if p.dynamic then wordOf tailStart ++ heads (tailStart + p.body.length) rest
    else p.body ++ heads tailStart rest

def tails : List Part → Bytes
  | [] => []
  | p :: rest => if p.dynamic then p.body ++ tails rest else tails rest

def sequence (parts : List Part) : Bytes :=
  heads (parts.foldr (fun p size => p.headSize + size) 0) parts ++ tails parts

mutual

def body : AbiValue → Bytes
  | address value => value.padded
  | bool value => wordOf value.toNat
  | string value => wordOf (Bytes.ofText value).length ++ fillUp (Bytes.ofText value)
  | bytes value => wordOf value.length ++ fillUp value
  | fixedBytes value => fillUp value
  | uint value => value.bytes
  | int value => value.bytes
  | array items => wordOf items.length ++ sequence (parts items)
  | fixedArray items => sequence (parts items)
  | tuple components => sequence (parts components)

def parts : List AbiValue → List Part
  | [] => []
  | v :: rest => ⟨v.isDynamic, v.body⟩ :: parts rest

end

def encode (values : List AbiValue) : Bytes := sequence (parts values)

end SwapPlan.AbiValue
