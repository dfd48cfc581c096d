import StateChannel.Text.Blank

/-!
# Durations

Spans of time in whole milliseconds, and their texts: a natural number of 64 bits followed by
`ms`, `s` or `m`, or by nothing for seconds.

## Main definitions

* `parseUInt64?`: a natural number of 64 bits
* `Duration`, `Duration.parse`, `Duration.text`: durations, read and written
* `DurationFault`: how reading ends without a duration, by a refusal or by an overflow
* `Duration.wait`: how long a wait of a duration lasts

## Main results

* `parseUInt64?_toDigits`: a written number reads back
-/

namespace StateChannel

/-- Reads decimal digits, at least one, as a number of 64 bits. -/
def parseDigits? (cs : List Char) : Option UInt64 :=
  let n := Nat.ofDigitChars 10 cs 0
  if cs ≠ [] ∧ cs.all Char.isDigit ∧ n < UInt64.size then some (UInt64.ofNat n) else none

/-- Reads a natural number of 64 bits: digits, after a plus sign or none. -/
def parseUInt64? : List Char → Option UInt64
  | '+' :: cs => parseDigits? cs
  | cs => parseDigits? cs

theorem parseUInt64?_toDigits (n : UInt64) : parseUInt64? (Nat.toDigits 10 n.toNat) = some n := by
  have digits : (Nat.toDigits 10 n.toNat).all Char.isDigit := by
    rw [List.all_eq_true]
    exact fun c hc => Nat.isDigit_of_mem_toDigits (by decide) (by decide) hc
  have read : parseDigits? (Nat.toDigits 10 n.toNat) = some n := by
    simp only [parseDigits?, Nat.ofDigitChars_toDigits (by decide : 1 < 10) (by decide), digits,
      ne_eq, Nat.toDigits_ne_nil, not_false_eq_true, n.toNat_lt_size, and_self, if_true,
      UInt64.ofNat_toNat]
  unfold parseUInt64?
  split
  · next cs h =>
    rw [h, List.all_cons] at digits
    exact absurd digits (by simp [show ('+' : Char).isDigit = false by decide])
  · exact read

/-- A span of time in milliseconds. -/
structure Duration where
  millis : Nat
  deriving DecidableEq, Repr, Inhabited

/-- Why a text is no duration: its number is bad, in front of the unit that it ends with. -/
inductive DurationError
  | milliseconds
  | seconds
  | minutes
  | format
  deriving DecidableEq, Repr

/-- The wording of a bad duration. -/
def DurationError.message : DurationError → String
  | .milliseconds => "invalid milliseconds"
  | .seconds => "invalid seconds"
  | .minutes => "invalid minutes"
  | .format => "invalid duration format"

/-- How the reading of a duration ends without one. -/
inductive DurationFault
  /-- The text is no duration. -/
  | refused (cause : DurationError)
  /-- So many minutes are told that their seconds do not fit 64 bits; reading breaks off. -/
  | overflow
  deriving DecidableEq, Repr

namespace Duration

/-- A number of seconds. -/
def ofSeconds (n : UInt64) : Duration := ⟨1000 * n.toNat⟩

/-- A duration of `n` minutes, whose seconds must fit 64 bits. -/
def ofMinutes (n : UInt64) : Except DurationFault Duration :=
  if 60 * n.toNat < UInt64.size then .ok (ofSeconds (60 * n)) else .error .overflow

/-- Reads the number in front of a unit, and refuses anything else as `e`. -/
def count? (e : DurationError) (cs : List Char) : Except DurationFault UInt64 :=
  match parseUInt64? (Text.trim cs) with
  | some n => .ok n
  | none => .error (.refused e)

/-- Reads a duration from its characters, the last first, after trimming. -/
def parseReversed : List Char → Except DurationFault Duration
  -- `ms` is looked for before `s`, since it ends with it.
  | 's' :: 'm' :: rest => (count? .milliseconds rest.reverse).map fun n => ⟨n.toNat⟩
  | 's' :: rest => (count? .seconds rest.reverse).map ofSeconds
  | 'm' :: rest => (count? .minutes rest.reverse).bind ofMinutes
  | rest => (count? .format rest.reverse).map ofSeconds

/-- Reads a duration. -/
def parse (text : String) : Except DurationFault Duration :=
  parseReversed (Text.trim text.toList).reverse

/-- The seconds that a clock can be ahead. -/
def clockSeconds : Nat := 0x7fffffffffffffff

/-- How many milliseconds a wait for `d` lasts. A wait that would end beyond the range of the clock
ends after thirty years of 365 days. -/
def wait (d : Duration) : Nat :=
  if clockSeconds ≤ d.millis / 1000 then 30 * 365 * 24 * 60 * 60 * 1000 else d.millis

theorem wait_of_lt {d : Duration} (h : d.millis / 1000 < clockSeconds) : d.wait = d.millis :=
  if_neg (Nat.not_le.mpr h)

/-- Writes a duration, in milliseconds. -/
def text (d : Duration) : String := String.ofList (Nat.toDigits 10 d.millis ++ ['m', 's'])

end Duration

end StateChannel
