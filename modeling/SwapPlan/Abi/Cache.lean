import SwapPlan.Abi.Function
import SwapPlan.Text.Identifier
/-!
# Function signatures and their cache

A signature is an optional `function`, a name, parameters in parentheses, modifiers in a fixed
order, and results in parentheses.  What follows is not looked at.

A cache keeps every signature that has been parsed, by its text as given.  Looking up a signature
parses it only if it is not there; one that cannot be parsed is not kept.
-/
set_option autoImplicit false

namespace SwapPlan.Signature

inductive Token
  | word (text : String)
  | number (value : Nat)
  | mark (c : Char)
  | stray
deriving DecidableEq

/-- What the scanner is in the middle of; collected characters are in reverse. -/
inductive Mode
  | between
  | inWord (chars : List Char)
  | inNumber (value : Nat)

def isBlank (c : Char) : Bool :=
  let n := c.toNat
  n = 0x20 ∨ (0x09 ≤ n ∧ n ≤ 0x0D) ∨ n = 0x85 ∨ n = 0xA0 ∨ n = 0x1680 ∨ (0x2000 ≤ n ∧ n ≤ 0x200A)
    ∨ n = 0x2028 ∨ n = 0x2029 ∨ n = 0x202F ∨ n = 0x205F ∨ n = 0x3000

def Mode.finish (mode : Mode) (done : List Token) : List Token :=
  match mode with
  | .between => done
  | .inWord chars => .word (String.ofList chars.reverse) :: done
  | .inNumber value => .number value :: done

def start (done : List Token) (c : Char) : Mode × List Token :=
  if isBlank c then (.between, done)
  else if Text.startsIdentifier c then (.inWord [c], done)
  else if c.isDigit then (.inNumber (c.toNat - '0'.toNat), done)
  else if c = '(' ∨ c = ')' ∨ c = '[' ∨ c = ']' ∨ c = ',' then (.between, .mark c :: done)
  else (.between, .stray :: done)

def step (mode : Mode) (done : List Token) (c : Char) : Mode × List Token :=
  match mode with
  | .between => start done c
  | .inWord chars =>
    if Text.continuesIdentifier c then (.inWord (c :: chars), done)
    else start (mode.finish done) c
  | .inNumber value =>
    if c.isDigit then (.inNumber (10 * value + (c.toNat - '0'.toNat)), done)
    else start (mode.finish done) c

def tokens (text : String) : List Token :=
  let (mode, done) := text.toList.foldl (fun (mode, done) c => step mode done c) (.between, [])
  (mode.finish done).reverse

def reserved : List String :=
  ["struct", "event", "error", "enum", "function", "tuple", "constant", "type", "returns",
    "anonymous", "receive", "fallback", "abstract", "constructor", "indexed", "internal",
    "external", "private", "public", "view", "pure", "payable", "virtual", "override", "memory",
    "storage", "calldata"]

def namedTypes : List (String × AbiType) :=
  [("address", .address), ("bool", .bool), ("string", .string), ("bytes", .bytes),
    ("byte", .fixedBytes 1), ("uint", .uint 256), ("int", .int 256), ("tuple", .tuple [])]
    ++ (List.range 32).map (fun n => ("bytes" ++ toString (n + 1), .fixedBytes (n + 1)))
    ++ (List.range 32).map (fun n => ("uint" ++ toString (8 * (n + 1)), .uint (8 * (n + 1))))
    ++ (List.range 32).map (fun n => ("int" ++ toString (8 * (n + 1)), .int (8 * (n + 1))))

def namedType? (word : String) : Option AbiType := namedTypes.lookup word

def isName (word : String) : Bool := !reserved.contains word && (namedType? word).isNone

def withSuffixes : AbiType → List Token → AbiType × List Token
  | t, .mark '[' :: .mark ']' :: rest => withSuffixes (.array t) rest
  | t, .mark '[' :: .number n :: .mark ']' :: rest =>
    if n < UInt64.size then withSuffixes (.fixedArray t n) rest
    else (t, .mark '[' :: .number n :: .mark ']' :: rest)
  | t, rest => (t, rest)

mutual

/-- Reads a type; `fuel` bounds its depth and the length of its tuples. -/
def type? : (fuel : Nat) → List Token → Option (AbiType × List Token)
  | 0, _ => none
  | fuel + 1, tokens =>
    match tokens with
    | .word w :: rest => (namedType? w).map (withSuffixes · rest)
    | .mark '(' :: .mark ')' :: rest => some (withSuffixes (.tuple []) rest)
    | .mark '(' :: rest =>
      (types? fuel rest).map fun (components, rest) => withSuffixes (.tuple components) rest
    | _ => none

def types? : (fuel : Nat) → List Token → Option (List AbiType × List Token)
  | 0, _ => none
  | fuel + 1, tokens =>
    match type? fuel tokens with
    | some (t, .mark ')' :: rest) => some ([t], rest)
    | some (t, .mark ',' :: rest) => (types? fuel rest).map fun (ts, rest) => (t :: ts, rest)
    | _ => none

end

def skipWord (words : List String) : List Token → List Token
  | .word w :: rest => if words.contains w then rest else .word w :: rest
  | tokens => tokens

def name : List Token → String × List Token
  | .word w :: rest => if isName w then (w, rest) else ("", .word w :: rest)
  | tokens => ("", tokens)

def parameter? (tokens : List Token) : Option (Parameter × List Token) :=
  (type? (2 * tokens.length) tokens).map fun (type, rest) =>
    let (name, rest) := name (skipWord ["memory", "storage", "calldata"] rest)
    (⟨name, type⟩, rest)

def parameters? : (fuel : Nat) → List Token → Option (List Parameter × List Token)
  | 0, _ => none
  | fuel + 1, tokens =>
    match parameter? tokens with
    | some (p, .mark ')' :: rest) => some ([p], rest)
    | some (p, .mark ',' :: rest) => (parameters? fuel rest).map fun (ps, rest) => (p :: ps, rest)
    | _ => none

def parameterList? : List Token → Option (List Parameter × List Token)
  | .mark '(' :: .mark ')' :: rest => some ([], rest)
  | .mark '(' :: rest => parameters? rest.length rest
  | _ => none

def mutability : List Token → Mutability × List Token
  | .word "view" :: rest => (.view, rest)
  | .word "pure" :: rest => (.pure, rest)
  | .word "payable" :: rest => (.payable, rest)
  | tokens => (.nonPayable, tokens)

def results? (tokens : List Token) : Option (List Parameter) :=
  match tokens with
  | .mark '(' :: _ => (parameterList? tokens).map (·.1)
  | _ => some []

def afterName? (functionName : String) (tokens : List Token) : Option Function := do
  let (inputs, rest) ← parameterList? tokens
  let (mutability, rest) :=
    mutability (skipWord ["internal", "external", "private", "public"] rest)
  let outputs ← results? (skipWord ["returns"] (skipWord ["override"] (skipWord ["virtual"] rest)))
  return ⟨functionName, inputs, outputs, mutability⟩

/-- Reads the tokens of a signature.  Only after the word `function` may the name be missing. -/
def ofTokens? : List Token → Option Function
  | .word "function" :: rest =>
    let (functionName, rest) := name rest
    afterName? functionName rest
  | .word w :: rest => if isName w then afterName? w rest else none
  | _ => none

def parse (text : String) : Except AbiError Function :=
  match ofTokens? (tokens text) with
  | some f => .ok f
  | none => .error (.badSignature text)

end SwapPlan.Signature

namespace SwapPlan

structure SignatureCache where
  entries : List (String × Function)

namespace SignatureCache

def empty : SignatureCache := ⟨[]⟩

def size (cache : SignatureCache) : Nat := cache.entries.length

def isEmpty (cache : SignatureCache) : Bool := cache.entries.isEmpty

/-- The function of a signature, and the cache after it has been looked up. -/
def function (cache : SignatureCache) (signature : String) :
    Except AbiError Function × SignatureCache :=
  match cache.entries.lookup signature with
  | some f => (.ok f, cache)
  | none =>
    match Signature.parse signature with
    | .ok f => (.ok f, ⟨(signature, f) :: cache.entries⟩)
    | .error e => (.error e, cache)

def call (cache : SignatureCache) (signature : String) (arguments : List AbiValue) :
    Except AbiError Bytes × SignatureCache :=
  let (found, cache) := cache.function signature
  (found.bind (·.call arguments), cache)

end SignatureCache
end SwapPlan
