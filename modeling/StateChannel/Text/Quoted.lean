import StateChannel.Text.Printable

/-!
# Quoted text

Texts and characters as error messages show them: in quotes, with escapes for what could not
be seen.

## Main definitions

* `Quoted.text`: a text in double quotes
* `Quoted.character`: a character in single quotes
-/

namespace StateChannel.Quoted

/-- An escape by number: lower case hexadecimal digits in braces. -/
def byNumber (c : Char) : List Char :=
  ['\\', 'u', '\x7b'] ++ Nat.toDigits 16 c.toNat ++ ['\x7d']

/-- The escapes that are the same within both kinds of quotes. -/
def escape (c : Char) : List Char :=
  if c = '\x00' then ['\\', '0']
  else if c = '\t' then ['\\', 't']
  else if c = '\r' then ['\\', 'r']
  else if c = '\n' then ['\\', 'n']
  else if c = '\\' then ['\\', '\\']
  else if Text.IsExtending c ∨ Text.IsUnprintable c then byNumber c
  else [c]

/-- A text in double quotes. -/
def text (s : String) : String :=
  String.ofList
    ('"' :: s.toList.flatMap (fun c => if c = '"' then ['\\', '"'] else escape c) ++ ['"'])

/-- A character in single quotes. -/
def character (c : Char) : String :=
  String.ofList ('\'' :: (if c = '\'' then ['\\', '\''] else escape c) ++ ['\''])

end StateChannel.Quoted
