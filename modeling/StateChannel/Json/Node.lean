import StateChannel.Json.Token

/-!
# The concrete form of JSON text

Reading keeps what a text says as far as it follows the grammar, so that a reader of typed
values can find its own faults before a fault of the grammar that stands further on. The text
is read by a machine that takes one token at a time and keeps the containers that are still
open on a stack.

## Main definitions

* `Node`: a value as it is written, cut off where the text departs from the grammar
* `Reading`: the machine, with `Reading.feed` for one token
* `Document.read`: a whole text
* `Node.value?`: the value that a node denotes, for nestings within a limit

## Main results

* `Reading.feed_stopped`: after the first departure from the grammar nothing is read
* `Node.value?_broken`: what is cut off has no value
-/

namespace StateChannel

/-- A value as it is written. `broken` stands where the text departs from the grammar; a
container that is not closed ends there too. A key or a string without a value holds an
unpaired surrogate. -/
inductive Node
  | broken
  | null
  | bool (b : Bool)
  | number (value : Option Json.Number)
  | string (value : Option String)
  | array (items : List Node) (closed : Bool)
  | object (members : List (Option String × Node)) (closed : Bool)
  deriving Repr, Inhabited

/-- A container that is still open, with what has been read in it, the last first. -/
inductive Frame
  | array (items : List Node)
  | object (members : List (Option String × Node))
  /-- An object in which the key of a member has been read. -/
  | member (members : List (Option String × Node)) (key : Option String)
  deriving Repr

/-- What may come next. -/
inductive Awaiting
  /-- A value, or also the end of the array just opened. -/
  | value (orClose : Bool)
  /-- The key of a member, or also the end of the object just opened. -/
  | key (orClose : Bool)
  | colon
  | commaOrClose
  deriving DecidableEq, Repr

/-- The state of reading. -/
inductive Reading
  | inside (awaiting : Awaiting) (frames : List Frame)
  /-- One value has been read. -/
  | complete (root : Node)
  /-- Something follows the value. -/
  | surplus (root : Node)
  /-- The text has departed from the grammar. -/
  | stopped (root : Node)
  deriving Repr

namespace Reading

/-- The state before the first token. -/
def start : Reading := .inside (.value false) []

/-- Leaves all open containers unfinished. -/
def abandon (inner : Node) : List Frame → Node
  | [] => inner
  | .array items :: rest => abandon (.array (inner :: items).reverse false) rest
  | .object members :: rest => abandon (.object members.reverse false) rest
  | .member members key :: rest => abandon (.object ((key, inner) :: members).reverse false) rest

/-- Stops where the grammar is left. -/
def stop (frames : List Frame) : Reading := .stopped (abandon .broken frames)

/-- Hands a finished value to the innermost open container. -/
def put (node : Node) : List Frame → Reading
  | [] => .complete node
  | .array items :: rest => .inside .commaOrClose (.array (node :: items) :: rest)
  | .member members key :: rest =>
    .inside .commaOrClose (.object ((key, node) :: members) :: rest)
  | .object members :: rest => stop (.object members :: rest)

/-- Closes the innermost open container. -/
def close (token : Token) : List Frame → Reading
  | .array items :: rest =>
    if token = .closeArray then put (.array items.reverse true) rest
    else stop (.array items :: rest)
  | .object members :: rest =>
    if token = .closeObject then put (.object members.reverse true) rest
    else stop (.object members :: rest)
  | frames => stop frames

/-- Takes a token where a value may start. -/
def feedValue (token : Token) (frames : List Frame) : Reading :=
  match token with
  | .null => put .null frames
  | .bool b => put (.bool b) frames
  | .number value => put (.number value) frames
  | .string value => put (.string value) frames
  | .openArray => .inside (.value true) (.array [] :: frames)
  | .openObject => .inside (.key true) (.object [] :: frames)
  | _ => stop frames

/-- Takes one token. -/
def feed : Reading → Token → Reading
  -- Only right after its opening may a container close where an element is expected.
  | .inside (.value orClose) frames, token =>
    if orClose && token == .closeArray then close token frames else feedValue token frames
  | .inside (.key orClose) frames, token =>
    match token, frames with
    | .string key, .object members :: rest => .inside .colon (.member members key :: rest)
    | _, _ => if orClose && token == .closeObject then close token frames else stop frames
  | .inside .colon frames, token =>
    if token = .colon then .inside (.value false) frames else stop frames
  | .inside .commaOrClose frames, token =>
    match token, frames with
    | .comma, .array _ :: _ => .inside (.value false) frames
    | .comma, .object _ :: _ => .inside (.key false) frames
    | _, _ => close token frames
  | .complete root, _ => .surplus root
  | .surplus root, _ => .surplus root
  | .stopped root, _ => .stopped root

/-- Reads a text to its end, taking at most `count` tokens. -/
def run (reading : Reading) (cs : List Char) : Nat → Reading
  | 0 => reading
  | count + 1 =>
    match reading with
    | .inside _ _ | .complete _ =>
      match Token.next cs with
      | none => reading
      | some (token, rest) => run (reading.feed token) rest count
    | _ => reading

theorem feed_stopped (root : Node) (token : Token) : (stopped root).feed token = stopped root := rfl

end Reading

/-- A text that has been read: its value, and whether something follows it. -/
structure Document where
  root : Node
  surplus : Bool
  deriving Repr

namespace Document

/-- What a state of reading says at the end of the text. -/
def ofReading : Reading → Document
  | .inside _ frames => ⟨Reading.abandon .broken frames, false⟩
  | .complete root => ⟨root, false⟩
  | .surplus root => ⟨root, true⟩
  | .stopped root => ⟨root, false⟩

/-- Reads a whole text. A token has at least one character, so the length bounds their number. -/
def read (text : String) : Document :=
  let cs := text.toList
  ofReading (Reading.start.run cs cs.length)

end Document

namespace Node

/-- How deep arrays and objects may be nested. -/
def maxDepth : Nat := 127

/-- A node that was read to its end: one that is cut off inside is not closed itself. -/
def isWhole : Node → Bool
  | .broken => false
  | .array _ closed => closed
  | .object _ closed => closed
  | _ => true

/-- The value of a node with at most `depth` containers inside each other. -/
def value? : Nat → Node → Option Json
  | _, .null => some .null
  | _, .bool b => some (.bool b)
  | _, .number value => value.map .number
  | _, .string value => value.map .string
  | depth + 1, .array items true => (items.mapM (value? depth)).map .array
  | depth + 1, .object members true =>
    (members.mapM fun (member : Option String × Node) => do
      let key ← member.1
      let value ← value? depth member.2
      some (key, value)).map Json.ofMembers
  | _, _ => none

theorem value?_broken (depth : Nat) : value? depth .broken = none := by
  cases depth <;> rfl

end Node

/-- Reads a JSON text as a value. -/
def Json.parse? (text : String) : Option Json :=
  let document := Document.read text
  if document.surplus then none else document.root.value? Node.maxDepth

end StateChannel
