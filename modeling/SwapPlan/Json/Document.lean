import SwapPlan.Json.Token
/-!
# JSON documents

`Document.ofTokens?` checks the grammar with a stack of the arrays and objects that are still open.
A document keeps the members of an outermost object apart, each of them read or found to denote
nothing, so that a reader of named members can pass over the others unread.
-/
set_option autoImplicit false

namespace SwapPlan.Json

/-- A well-formed text.  A part is none if a string in it has an unpaired surrogate or a number in
it is above the greatest double. -/
inductive Document
  | object (members : List (Option String × Option Json))
  | other (value : Option Json)

namespace Document

def readable? : Option String × Option Json → Option (String × Json)
  | (some name, some value) => some (name, value)
  | _ => none

def gather (members : List (Option String × Option Json)) : Option Json :=
  (members.mapM readable?).map Json.object

def value? : Document → Option Json
  | object members => gather members
  | other value => value

/-- The value that is left of a document when the members of an outermost object that are not
`known` are dropped unread.  Every member's name has to be readable. -/
def restrict? (known : List String) : Document → Option Json
  | object members =>
    if members.all (·.1.isSome) then
      gather (members.filter fun m => m.1.any (known.contains ·))
    else none
  | other value => value

/-- An array or object that is still open, with the parts read so far, newest first.  An object
waits for the value of `name`. -/
inductive Frame
  | array (done : List (Option Json))
  | object (done : List (Option String × Option Json)) (name : Option String)

inductive State
  | value (stack : List Frame)
  | firstItem (stack : List Frame)
  | firstName (stack : List Frame)
  | name (stack : List Frame) (done : List (Option String × Option Json))
  | colon (stack : List Frame) (done : List (Option String × Option Json)) (name : Option String)
  | separator (top : Frame) (stack : List Frame)
  | finished (document : Document)

def complete (v : Option Json) : List Frame → State
  | [] => .finished (.other v)
  | .array done :: stack => .separator (.array (v :: done)) stack
  | .object done name :: stack => .separator (.object ((name, v) :: done) name) stack

def completeObject (done : List (Option String × Option Json)) : List Frame → State
  | [] => .finished (.object done.reverse)
  | stack => complete (gather done.reverse) stack

def completeArray (done : List (Option Json)) (stack : List Frame) : State :=
  complete ((done.reverse.mapM id).map Json.array) stack

def startValue (stack : List Frame) : Token → Option State
  | .openArray => some (.firstItem stack)
  | .openObject => some (.firstName stack)
  | .scalar v => some (complete v stack)
  | .text s => some (complete (s.map Json.string) stack)
  | _ => none

def step : State → Token → Option State
  | .value stack, t => startValue stack t
  | .firstItem stack, .closeArray => some (completeArray [] stack)
  | .firstItem stack, t => startValue (.array [] :: stack) t
  | .firstName stack, .closeObject => some (completeObject [] stack)
  | .firstName stack, .text s => some (.colon stack [] s)
  | .name stack done, .text s => some (.colon stack done s)
  | .colon stack done name, .colon => some (.value (.object done name :: stack))
  | .separator (.array done) stack, .comma => some (.value (.array done :: stack))
  | .separator (.array done) stack, .closeArray => some (completeArray done stack)
  | .separator (.object done _) stack, .comma => some (.name stack done)
  | .separator (.object done _) stack, .closeObject => some (completeObject done stack)
  | _, _ => none

def run (state : State) : List Token → Option State
  | [] => some state
  | t :: rest =>
    match step state t with
    | some state => run state rest
    | none => none

def ofTokens? (tokens : List Token) : Option Document :=
  match run (.value []) tokens with
  | some (.finished document) => some document
  | _ => none

def ofText? (text : String) : Option Document := (tokens? text).bind ofTokens?

end Document

def ofText? (text : String) : Option Json := (Document.ofText? text).bind Document.value?

end SwapPlan.Json
