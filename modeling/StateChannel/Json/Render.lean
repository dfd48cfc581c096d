import StateChannel.Decimal.Shortest
import StateChannel.Bytes.Hex
import StateChannel.Json.Basic

/-!
# Writing JSON text

The compact form: no white space, members in the order of their keys, and only those
characters escaped that must be.

## Main definitions

* `Json.render`: the text of a value

## Main results

* `Json.escape_of_plain`: other characters stand for themselves
-/

namespace StateChannel

namespace Json

/-- The text of a number. -/
def Number.text : Number → String
  | .integer n =>
    let digits := Nat.toDigits 10 n.val.natAbs
    String.ofList (if n.val < 0 then '-' :: digits else digits)
  | .float x => x.text

/-- A character of a string as it is written: quote, backslash and controls are escaped. -/
def escape (c : Char) : List Char :=
  if c = '"' then ['\\', '"']
  else if c = '\\' then ['\\', '\\']
  else if c = '\x08' then ['\\', 'b']
  else if c = '\x0c' then ['\\', 'f']
  else if c = '\n' then ['\\', 'n']
  else if c = '\r' then ['\\', 'r']
  else if c = '\t' then ['\\', 't']
  else if c < ' ' then
    ['\\', 'u', '0', '0', Hex.digit (c.toNat / 16), Hex.digit (c.toNat % 16)]
  else [c]

/-- Writes a string with its quotes behind a text. -/
def renderString (before : String) (s : String) : String :=
  (s.toList.foldl (fun acc c => (escape c).foldl String.push acc) (before.push '"')).push '"'

mutual

/-- Writes a value behind a text. -/
def renderAfter (before : String) : Json → String
  | .null => before ++ "null"
  | .bool true => before ++ "true"
  | .bool false => before ++ "false"
  | .number n => before ++ n.text
  | .string s => renderString before s
  | .array [] => before ++ "[]"
  | .array (item :: items) => (renderItems (renderAfter (before.push '[') item) items).push ']'
  | .object [] => before ++ "\x7b\x7d"
  | .object ((key, value) :: members) =>
    (renderMembers (renderAfter ((renderString (before.push '\x7b') key).push ':') value)
      members).push '\x7d'

/-- Writes the further items of an array. -/
def renderItems (before : String) : List Json → String
  | [] => before
  | item :: items => renderItems (renderAfter (before.push ',') item) items

/-- Writes the further members of an object. -/
def renderMembers (before : String) : List (String × Json) → String
  | [] => before
  | (key, value) :: members =>
    renderMembers (renderAfter ((renderString (before.push ',') key).push ':') value) members

end

/-- The text of a value. -/
def render (value : Json) : String := renderAfter "" value

theorem escape_of_plain {c : Char} (space : ' ' ≤ c) (quote : c ≠ '"') (backslash : c ≠ '\\') :
    escape c = [c] := by
  have below (d : Char) (hd : d < ' ') : c ≠ d := by
    rintro rfl
    exact absurd hd (Char.not_lt.2 space)
  simp [escape, quote, backslash, below '\x08' (by decide), below '\x0c' (by decide),
    below '\n' (by decide), below '\r' (by decide), below '\t' (by decide), Char.not_lt.2 space]

end Json

end StateChannel
