import StateChannel.Bytes.Hex
import StateChannel.Json.Basic

/-!
# JSON tokens

One step of reading JSON text: white space is skipped and one token is taken. Only the grammar is
checked here. A number too large for the floating-point range and a string with half of a surrogate
pair follow the grammar, but have no value.

The significand of a number is the number formed by its leading digits as long as it fits 64 bits;
the digits after these are dropped, those before the point still counting as powers of ten.

## Main definitions

* `Token`: the tokens, with `bad` for whatever is none
* `Token.next`: the first token of a text and what follows it
* `NumberText.value?`: the value of a number that follows the grammar
-/

namespace StateChannel

/-- A token of JSON text. A missing value marks a number out of range or an unpaired surrogate. -/
inductive Token
  | openArray
  | closeArray
  | openObject
  | closeObject
  | comma
  | colon
  | null
  | bool (b : Bool)
  | number (value : Option Json.Number)
  | string (value : Option String)
  | bad
  deriving DecidableEq, Repr

/-- The parts of a number: its digits before and after the point, and its exponent. -/
structure NumberText where
  negative : Bool
  whole : List Char
  fraction : Option (List Char)
  exponent : Option Int
  deriving DecidableEq, Repr

namespace NumberText

/-- The greatest significand. -/
def maxSignificand : Nat := 18446744073709551615

/-- Appends digits to a significand while it fits; also gives the number of digits left over. -/
def extend (significand : Nat) : List Char → Nat × Nat
  | [] => (significand, 0)
  | c :: rest =>
    let next := 10 * significand + (c.toNat - 48)
    if next ≤ maxSignificand then extend next rest else (significand, rest.length + 1)

/-- An integer with its sign; minus zero and what does not fit 64 bits is a floating-point
number. -/
def integerValue? (negative : Bool) (significand : Nat) : Option Json.Number :=
  if negative then
    match significand, Json.Integer.ofInt? (-significand) with
    | _ + 1, some n => some (.integer n)
    | _, _ => (Binary64.round? significand 1).map fun x => .float x.neg
  else (Json.Integer.ofInt? significand).map .integer

/-- The value of a number; `none` when it is too large for a floating-point number. -/
def value? (n : NumberText) : Option Json.Number :=
  let (leading, dropped) := extend 0 n.whole
  match n.fraction, n.exponent, dropped with
  | none, none, 0 => integerValue? n.negative leading
  | _, _, _ =>
    let digits := n.fraction.getD []
    let (significand, unused) := extend leading digits
    let point : Int := (dropped : Int) - ((digits.length - unused : Nat) : Int)
    let size := Binary64.scale? significand (point + n.exponent.getD 0)
    size.map fun x => .float (if n.negative then x.neg else x)

end NumberText

namespace Token

/-- White space between tokens. -/
def isBlank (c : Char) : Bool := c = ' ' || c = '\n' || c = '\t' || c = '\r'

/-- The digits at the front of a text and what follows them. -/
def splitDigits (cs : List Char) : List Char × List Char :=
  (cs.takeWhile Char.isDigit, cs.dropWhile Char.isDigit)

/-- The digits before the point: a single zero, or digits of which the first is not zero. -/
def wholePart? (cs : List Char) : Option (List Char × List Char) :=
  match splitDigits cs with
  | ([], _) => none
  | ('0' :: _ :: _, _) => none
  | parts => some parts

/-- The digits after a point, if there is one. -/
def fractionPart? : List Char → Option (Option (List Char) × List Char)
  | '.' :: rest =>
    match splitDigits rest with
    | ([], _) => none
    | (digits, rest) => some (some digits, rest)
  | cs => some (none, cs)

/-- The exponent after its letter. -/
def exponentDigits? (negative : Bool) (cs : List Char) : Option (Option Int × List Char) :=
  match splitDigits cs with
  | ([], _) => none
  | (digits, rest) =>
    let size : Int := Nat.ofDigitChars 10 digits 0
    some (some (if negative then -size else size), rest)

/-- The exponent, if there is one. -/
def exponentPart? : List Char → Option (Option Int × List Char)
  | c :: rest =>
    if c = 'e' ∨ c = 'E' then
      match rest with
      | '+' :: rest => exponentDigits? false rest
      | '-' :: rest => exponentDigits? true rest
      | rest => exponentDigits? false rest
    else some (none, c :: rest)
  | [] => some (none, [])

/-- A number without its sign. -/
def numberText? (negative : Bool) (cs : List Char) : Option (NumberText × List Char) := do
  let (whole, cs) ← wholePart? cs
  let (fraction, cs) ← fractionPart? cs
  let (exponent, cs) ← exponentPart? cs
  some (⟨negative, whole, fraction, exponent⟩, cs)

/-- Takes a number. -/
def takeNumber (negative : Bool) (cs : List Char) : Token × List Char :=
  match numberText? negative cs with
  | some (n, rest) => (.number n.value?, rest)
  | none => (.bad, [])

/-- The 16-bit unit of four hexadecimal digits. -/
def unit? (a b c d : Char) : Option Nat := do
  let a ← Hex.value? a
  let b ← Hex.value? b
  let c ← Hex.value? c
  let d ← Hex.value? d
  some (((16 * a + b) * 16 + c) * 16 + d)

/-- The first half of a surrogate pair. -/
def isHighHalf (n : Nat) : Bool := 0xD800 ≤ n && n < 0xDC00

/-- The second half of a surrogate pair. -/
def isLowHalf (n : Nat) : Bool := 0xDC00 ≤ n && n < 0xE000

/-- The character of a surrogate pair. -/
def joinHalves (high low : Nat) : Char :=
  Char.ofNat (0x10000 + (high - 0xD800) * 0x400 + (low - 0xDC00))

/-- The characters that a backslash and one more character stand for. -/
def shortEscape? : Char → Option Char
  | '"' => some '"'
  | '\\' => some '\\'
  | '/' => some '/'
  | 'b' => some '\x08'
  | 'f' => some '\x0c'
  | 'n' => some '\n'
  | 'r' => some '\r'
  | 't' => some '\t'
  | _ => none

/-- Takes a string after its opening quote. `done` holds the characters so far, the last one
first, and `paired` says whether every surrogate so far has its other half. A first half waits
in `high` for the escape that must follow at once. -/
def takeString (done : List Char) (paired : Bool) (high : Option Nat) :
    List Char → Token × List Char
  | '"' :: rest =>
    (.string (if paired ∧ high = none then some (String.ofList done.reverse) else none), rest)
  | '\\' :: 'u' :: a :: b :: c :: d :: rest =>
    match unit? a b c d, high with
    | none, _ => (.bad, [])
    | some n, some h =>
      if isLowHalf n then takeString (joinHalves h n :: done) paired none rest
      else takeString done false none rest
    | some n, none =>
      if isHighHalf n then takeString done paired (some n) rest
      else takeString (Char.ofNat n :: done) (paired && !isLowHalf n) none rest
  | '\\' :: e :: rest =>
    match shortEscape? e with
    | some c => takeString (c :: done) (paired && high.isNone) none rest
    | none => (.bad, [])
  | c :: rest =>
    if c < ' ' ∨ c = '\\' then (.bad, [])
    else takeString (c :: done) (paired && high.isNone) none rest
  | [] => (.bad, [])

/-- The first token of a text that does not start with white space, and what follows it. -/
def take : List Char → Token × List Char
  | '[' :: rest => (.openArray, rest)
  | ']' :: rest => (.closeArray, rest)
  | '\x7b' :: rest => (.openObject, rest)
  | '\x7d' :: rest => (.closeObject, rest)
  | ',' :: rest => (.comma, rest)
  | ':' :: rest => (.colon, rest)
  | 'n' :: 'u' :: 'l' :: 'l' :: rest => (.null, rest)
  | 't' :: 'r' :: 'u' :: 'e' :: rest => (.bool true, rest)
  | 'f' :: 'a' :: 'l' :: 's' :: 'e' :: rest => (.bool false, rest)
  | '"' :: rest => takeString [] true none rest
  | '-' :: rest => takeNumber true rest
  | c :: rest => if c.isDigit then takeNumber false (c :: rest) else (.bad, [])
  | [] => (.bad, [])

/-- The first token of a text and what follows it; `none` when only white space is left. -/
def next (cs : List Char) : Option (Token × List Char) :=
  match cs.dropWhile isBlank with
  | [] => none
  | cs => some (take cs)

end Token

end StateChannel
