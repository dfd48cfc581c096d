import StateChannel.Json.Node
import StateChannel.Text.Quoted
import StateChannel.Decimal.Shortest

/-!
# Reading typed values

A decoder reads a value of one type from the concrete form of a text. Faults are found in the
order of the text: a fault of the type that stands before a fault of the grammar is reported
first.

## Main definitions

* `Mismatch`, `Mismatch.message`: how a value does not fit a type
* `Refusal`: a text that departs from the grammar, or a value that does not fit or overflows
* `Decoder`: readers, with one for each kind of value
* `Fields`, `Decoder.record`: records, from an object or from an array of their fields in order

## Main results

* `Decoder.any_eq`: any value is read as itself
-/

namespace StateChannel

/-- What was found instead of a value of the expected type. -/
inductive Found
  | null
  | bool (b : Bool)
  | integer (n : Int)
  | float (x : Binary64)
  | string (s : String)
  | sequence
  | map
  deriving DecidableEq, Repr

/-- The wording of what was found. -/
def Found.text : Found → String
  | .null => "null"
  | .bool true => "boolean `true`"
  | .bool false => "boolean `false`"
  | .integer n => "integer `" ++ toString n ++ "`"
  | .float x => "floating point `" ++ x.text ++ "`"
  | .string s => "string " ++ Quoted.text s
  | .sequence => "sequence"
  | .map => "map"

/-- What a value is found to be. -/
def Found.ofJson : Json → Found
  | .null => .null
  | .bool b => .bool b
  | .number (.integer n) => .integer n.val
  | .number (.float x) => .float x
  | .string s => .string s
  | .array _ => .sequence
  | .object _ => .map

/-- How a value does not fit the expected type. -/
inductive Mismatch
  | wrongType (found : Found) (expected : String)
  | outOfRange (n : Int) (expected : String)
  | missingField (name : String)
  | duplicateField (name : String)
  /-- An array of `length` elements for a record of `arity` fields. -/
  | wrongLength (length : Nat) (record : String) (arity : Nat)
  /-- A text that is not of the expected form. -/
  | badText (message : String)
  deriving DecidableEq, Repr

/-- The wording of a mismatch. -/
def Mismatch.message : Mismatch → String
  | .wrongType found expected => "invalid type: " ++ found.text ++ ", expected " ++ expected
  | .outOfRange n expected => "invalid value: integer `" ++ toString n ++ "`, expected " ++ expected
  | .missingField name => "missing field `" ++ name ++ "`"
  | .duplicateField name => "duplicate field `" ++ name ++ "`"
  | .wrongLength length record arity =>
    "invalid length " ++ toString length ++ ", expected struct " ++ record ++ " with " ++
      toString arity ++ (if arity = 1 then " element" else " elements")
  | .badText message => message

/-- A value as a string. -/
def Json.toText : Json → Except Mismatch String
  | .string s => .ok s
  | value => .error (.wrongType (.ofJson value) "a string")

/-- A value as a natural number of 64 bits. -/
def Json.toUInt64 : Json → Except Mismatch UInt64
  | .number (.integer n) =>
    if 0 ≤ n.val then .ok (UInt64.ofNat n.val.toNat) else .error (.outOfRange n.val "u64")
  | value => .error (.wrongType (.ofJson value) "u64")

/-- Why a text is not read as a value of a type. -/
inductive Refusal
  /-- The text is not JSON. -/
  | malformed
  | mismatch (cause : Mismatch)
  /-- A number overflowed while a value was made, and reading broke off. -/
  | overflow
  deriving DecidableEq, Repr

/-- Reads a value of a type from a node, within a depth of containers. -/
abbrev Decoder (α : Type) := Nat → Node → Except Refusal α

namespace Decoder

/-- What a node shows of itself; `none` when it does not follow the grammar. -/
def found? : Node → Option Found
  | .broken => none
  | .null => some .null
  | .bool b => some (.bool b)
  | .number (some (.integer n)) => some (.integer n.val)
  | .number (some (.float x)) => some (.float x)
  | .number none => none
  | .string value => value.map .string
  | .array _ _ => some .sequence
  | .object _ _ => some .map

/-- Refuses a `node` that is not of the type `expected`. -/
def unexpected (expected : String) (node : Node) : Except Refusal α :=
  match found? node with
  | some found => .error (.mismatch (.wrongType found expected))
  | none => .error .malformed

/-- Any value. -/
def any : Decoder Json := fun depth node =>
  match node.value? depth with
  | some value => .ok value
  | none => .error .malformed

/-- A string; `expected` names what it stands for. -/
def text (expected : String) : Decoder String := fun _ node =>
  match node with
  | .string (some s) => .ok s
  | node => unexpected expected node

/-- A string. -/
def string : Decoder String := text "a string"

/-- A string that `parse` accepts; `expected` names what it stands for. -/
def parsed (expected : String) (parse : String → Except String α) :
    Decoder α := fun depth node => do
  let s ← text expected depth node
  match parse s with
  | .ok a => .ok a
  | .error message => .error (.mismatch (.badText message))

/-- A boolean. -/
def boolean : Decoder Bool := fun _ node =>
  match node with
  | .bool b => .ok b
  | node => unexpected "a boolean" node

/-- An integer between two bounds; `expected` names its type. -/
def integer (least greatest : Int) (expected : String) : Decoder Int := fun _ node =>
  match node with
  | .number (some (.integer n)) =>
    if least ≤ n.val ∧ n.val ≤ greatest then .ok n.val
    else .error (.mismatch (.outOfRange n.val expected))
  | node => unexpected expected node

/-- What `decode` reads, made into another value by `make`. -/
def map (make : α → β) (decode : Decoder α) : Decoder β := fun depth node =>
  (decode depth node).map make

/-- A natural number of at most `bits` bits. -/
def natural (bits : Nat) (expected : String) : Decoder Nat :=
  map Int.toNat (integer 0 ((Nat.pow 2 bits : Int) - 1) expected)

/-- A natural number of 64 bits. -/
def u64 : Decoder Nat := natural 64 "u64"

/-- A natural number of 16 bits. -/
def u16 : Decoder UInt16 := map UInt16.ofNat (natural 16 "u16")

/-- A size, of 64 bits. -/
def size : Decoder UInt64 := map UInt64.ofNat (natural 64 "usize")

/-- An integer of 32 bits with a sign. -/
def i32 : Decoder Int32 := map Int32.ofInt (integer (-2147483648) 2147483647 "i32")

/-- A value that `decode` reads, or null. -/
def optional (decode : Decoder α) : Decoder (Option α) := fun depth node =>
  match node with
  | .null => .ok none
  | node => (decode depth node).map some

/-- An array of values that `decode` reads. -/
def list (decode : Decoder α) : Decoder (List α) := fun depth node =>
  match node, depth with
  | .array _ _, 0 => .error .malformed
  | .array items closed, depth + 1 => do
    let values ← items.mapM (decode depth)
    if closed then .ok values else .error .malformed
  | node, _ => unexpected "a sequence" node

theorem any_eq {depth : Nat} {node : Node} {value : Json} (h : node.value? depth = some value) :
    any depth node = .ok value := by
  simp [any, h]

end Decoder

/-- Where the fields of a record come from. -/
inductive RecordForm
  | object
  | array
  deriving DecidableEq, Repr

/-- One field while a record is read: where it is kept, and how it is put there. -/
structure Field (σ : Type) where
  name : String
  isSet : σ → Bool
  read : Nat → Node → σ → Except Refusal σ

/-- The fields of a record in order, read into a draft from which the record is made. -/
structure Fields (α : Type) where
  Draft : Type
  empty : Draft
  table : List (Field Draft)
  /-- The value of a finished draft, or the name and the index of the first field that it lacks. -/
  finish : RecordForm → Nat → Draft → Except (String × Nat) α

namespace Fields

/-- One field. `whenAbsent` is its value when an object lacks it, `whenShort` when an array ends
before it. -/
def one (name : String) (decode : Decoder α) (whenAbsent whenShort : Option α) : Fields α where
  Draft := Option α
  empty := none
  table :=
    [{ name, isSet := Option.isSome, read := fun depth node _ => (decode depth node).map some }]
  finish form index draft :=
    match draft, (match form with | .object => whenAbsent | .array => whenShort) with
    | some a, _ => .ok a
    | none, some a => .ok a
    | none, none => .error (name, index)

/-- A field called `name` that must be there. -/
def required (name : String) (decode : Decoder α) : Fields α := one name decode none none

/-- A field called `name` that an object may leave out. -/
def nullable (name : String) (decode : Decoder α) : Fields (Option α) :=
  one name (Decoder.optional decode) (some none) none

/-- A field called `name` that may be left out, and then is `default`. -/
def withDefault (name : String) (decode : Decoder α) (default : α) : Fields α :=
  one name decode (some default) (some default)

/-- The fields of `f` followed by those of `g`. -/
def and (f : Fields α) (g : Fields β) : Fields (α × β) where
  Draft := f.Draft × g.Draft
  empty := (f.empty, g.empty)
  table :=
    f.table.map (fun field =>
      { name := field.name
        isSet := fun draft => field.isSet draft.1
        read := fun depth node draft => (field.read depth node draft.1).map (·, draft.2) }) ++
    g.table.map (fun field =>
      { name := field.name
        isSet := fun draft => field.isSet draft.2
        read := fun depth node draft => (field.read depth node draft.2).map (draft.1, ·) })
  finish form index draft := do
    let a ← f.finish form index draft.1
    let b ← g.finish form (index + f.table.length) draft.2
    return (a, b)

/-- The fields of a record, made into another value by `make`. -/
def map (make : α → β) (f : Fields α) : Fields β :=
  { f with finish := fun form index draft => (f.finish form index draft).map make }

/-- Reads the members of an object in order. Unknown members only have to follow the grammar. -/
def readMembers (f : Fields α) (depth : Nat) (draft : f.Draft) :
    List (Option String × Node) → Except Refusal f.Draft
  | [] => .ok draft
  | (none, _) :: _ => .error .malformed
  | (some key, node) :: rest =>
    match f.table.find? (fun field => field.name == key) with
    | none => if node.isWhole then f.readMembers depth draft rest else .error .malformed
    | some field =>
      if field.isSet draft then .error (.mismatch (.duplicateField key))
      else match field.read depth node draft with
        | .ok draft => f.readMembers depth draft rest
        | .error refusal => .error refusal

/-- Reads the elements of an array into the fields in order; also tells whether elements are
left. -/
def readElements (depth : Nat) (draft : σ) : List (Field σ) → List Node → Except Refusal (σ × Bool)
  | _, [] => .ok (draft, false)
  | [], _ :: _ => .ok (draft, true)
  | field :: fields, node :: nodes =>
    match field.read depth node draft with
    | .ok draft => readElements depth draft fields nodes
    | .error refusal => .error refusal

end Fields

/-- A record called `name`, given as an object or as an array of its fields in order. -/
def Decoder.record (name : String) (f : Fields α) : Decoder α := fun depth node =>
  match node, depth with
  | .object _ _, 0 => .error .malformed
  | .array _ _, 0 => .error .malformed
  | .object members closed, depth + 1 => do
    let draft ← f.readMembers depth f.empty members
    if closed then
      match f.finish .object 0 draft with
      | .ok a => .ok a
      | .error (missing, _) => .error (.mismatch (.missingField missing))
    else .error .malformed
  | .array elements closed, depth + 1 => do
    let (draft, surplus) ← Fields.readElements depth f.empty f.table elements
    match f.finish .array 0 draft with
    | .error (_, index) => .error (.mismatch (.wrongLength index name f.table.length))
    | .ok a => if closed ∧ ¬surplus then .ok a else .error .malformed
  | node, _ => Decoder.unexpected ("struct " ++ name) node

/-- Reads the whole of `text` as a value of the type of `decode`. -/
def Decoder.run (decode : Decoder α) (text : String) : Except Refusal α := do
  let document := Document.read text
  let value ← decode Node.maxDepth document.root
  if document.surplus then .error .malformed else .ok value

end StateChannel
