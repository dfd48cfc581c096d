import Mathlib.Data.List.TakeWhile
import StateChannel.Proofs.Bytes.Codecs
import StateChannel.Relay.Duration

/-!
# What the text of a duration tells

A text tells a number of units: a plus sign or none, digits, and the mark of the unit, with white
space around the number and around the mark. What is read is the number times the unit, as long as
its seconds fit 64 bits. Only minutes can be more than that, and then reading ends in an overflow.

## Main definitions

* `Numeral`: digits, after a plus sign or none
* `TimeUnit`: the units with their marks
* `Duration.Tells`: a text tells a number of units
* `Duration.capacity`: the first number of milliseconds that a duration cannot hold
* `Duration.ofUnits`: what a number of units is read as

## Main results

* `Text.trim_surrounded`, `Text.exists_trim`: what trimming takes away
* `Duration.parse_eq_ok_iff`: which durations are read, and from which texts
* `Duration.parse_eq_overflow_iff`: which texts overflow
* `Duration.parse_text`: which durations are read back when they have been written
* `Duration.parse_tells`: a duration that can be held is read as it is told
* `Duration.parse_overflows`: minutes that cannot be held are not refused
-/

namespace StateChannel

/-! ### Trimming -/

namespace Text

/-- All of `cs` is white space. -/
def AllBlank (cs : List Char) : Prop := ∀ c ∈ cs, IsBlank c

instance (cs : List Char) : Decidable (AllBlank cs) :=
  List.decidableBAll (fun c => IsBlank c) cs

variable {front inner back : List Char}

theorem AllBlank.append (blank : AllBlank front) (blank' : AllBlank back) :
    AllBlank (front ++ back) :=
  List.forall_mem_append.2 ⟨blank, blank'⟩

theorem dropWhile_blank (blank : AllBlank front) (rest : List Char) :
    (front ++ rest).dropWhile (fun c => decide (IsBlank c)) =
      rest.dropWhile fun c => decide (IsBlank c) :=
  List.dropWhile_append_of_pos fun c member => decide_eq_true (blank c member)

theorem dropWhile_of_head (first : ∀ c ∈ inner.head?, ¬ IsBlank c) :
    inner.dropWhile (fun c => decide (IsBlank c)) = inner := by
  cases inner with
  | nil => rfl
  | cons c rest => exact List.dropWhile_cons_of_neg (by simpa using first c rfl)

/-- `trim` takes the white space `front` and `back` from around `inner`, if `inner` neither starts
nor ends with any. -/
theorem trim_surrounded (ahead : AllBlank front) (behind : AllBlank back)
    (first : ∀ c ∈ inner.head?, ¬ IsBlank c) (last : ∀ c ∈ inner.getLast?, ¬ IsBlank c) :
    trim (front ++ inner ++ back) = inner := by
  have behind' : AllBlank back.reverse := fun c member => behind c (List.mem_reverse.1 member)
  have last' : ∀ c ∈ inner.reverse.head?, ¬ IsBlank c := by rwa [List.head?_reverse]
  cases inner with
  | nil =>
    -- Then both ends are one piece of white space, and all of it goes from the front.
    have gone := dropWhile_blank (ahead.append behind) []
    rw [List.append_nil] at gone
    simp [trim, gone]
  | cons c rest =>
    have front_gone : (front ++ (c :: rest) ++ back).dropWhile (fun c => decide (IsBlank c)) =
        c :: rest ++ back := by
      rw [List.append_assoc, dropWhile_blank ahead]
      exact dropWhile_of_head first
    rw [trim, front_gone, List.reverse_append, dropWhile_blank behind', dropWhile_of_head last',
      List.reverse_reverse]

/-- What `trim cs` leaves of `cs` stands between white space. -/
theorem exists_trim (cs : List Char) :
    ∃ front back, AllBlank front ∧ AllBlank back ∧ cs = front ++ trim cs ++ back := by
  let blank := fun c => decide (IsBlank c)
  have taken (ds : List Char) : AllBlank (ds.takeWhile blank) := fun c member =>
    of_decide_eq_true (List.mem_takeWhile_imp (p := blank) member)
  refine ⟨cs.takeWhile blank, ((cs.dropWhile blank).reverse.takeWhile blank).reverse, taken cs,
    fun c member => taken _ c (List.mem_reverse.1 member), ?_⟩
  have later : cs.dropWhile blank = trim cs ++
      ((cs.dropWhile blank).reverse.takeWhile blank).reverse := by
    rw [trim, ← List.reverse_append, List.takeWhile_append_dropWhile, List.reverse_reverse]
  rw [List.append_assoc, ← later, List.takeWhile_append_dropWhile]

end Text

/-! ### Numbers -/

/-- `Numeral cs n`: `cs` are digits, after a plus sign or none, that tell `n`. -/
inductive Numeral : List Char → Nat → Prop
  | plain {digits : List Char} (some : digits ≠ []) (all : ∀ c ∈ digits, c.isDigit = true) :
      Numeral digits (Nat.ofDigitChars 10 digits 0)
  | plus {digits : List Char} (some : digits ≠ []) (all : ∀ c ∈ digits, c.isDigit = true) :
      Numeral ('+' :: digits) (Nat.ofDigitChars 10 digits 0)

theorem not_isBlank_of_isDigit {c : Char} (digit : c.isDigit = true) : ¬ Text.IsBlank c := by
  have bounds := Char.toNat_bounds_of_isDigit digit
  simp only [Text.IsBlank]
  omega

theorem parseDigits?_eq_some_iff {cs : List Char} {n : UInt64} : parseDigits? cs = some n ↔
    cs ≠ [] ∧ (∀ c ∈ cs, c.isDigit = true) ∧ Nat.ofDigitChars 10 cs 0 = n.toNat := by
  unfold parseDigits?
  simp only [List.all_eq_true]
  constructor
  · intro read
    split at read
    · next told =>
      obtain rfl := Option.some.inj read
      exact ⟨told.1, told.2.1, (UInt64.toNat_ofNat_of_lt' told.2.2).symm⟩
    · exact nomatch read
  · rintro ⟨some, all, told⟩
    rw [told, if_pos ⟨some, all, n.toNat_lt_size⟩, UInt64.ofNat_toNat]

/-- `parseUInt64?` reads `n` from `cs` exactly when `cs` is a numeral of `n`. -/
theorem parseUInt64?_eq_some_iff {cs : List Char} {n : UInt64} :
    parseUInt64? cs = some n ↔ Numeral cs n.toNat := by
  constructor
  · intro read
    unfold parseUInt64? at read
    split at read
    all_goals
      obtain ⟨some, all, told⟩ := parseDigits?_eq_some_iff.1 read
      rw [← told]
    · exact .plus some all
    · exact .plain some all
  · -- The number is made a variable, for a numeral tells it by its digits.
    generalize size : n.toNat = m
    rintro (⟨some, all⟩ | ⟨some, all⟩)
    · unfold parseUInt64?
      split
      · exact absurd (all '+' List.mem_cons_self) (by decide)
      · exact parseDigits?_eq_some_iff.2 ⟨some, all, size.symm⟩
    · exact parseDigits?_eq_some_iff.2 ⟨some, all, size.symm⟩

namespace Numeral

variable {cs : List Char} {n : Nat}

theorem head_not_blank (numeral : Numeral cs n) : ∀ c ∈ cs.head?, ¬ Text.IsBlank c := by
  intro c first
  cases numeral with
  | plain _ all => exact not_isBlank_of_isDigit (all c (List.mem_of_mem_head? first))
  | plus _ _ =>
    obtain rfl := Option.some.inj first
    decide

theorem last_isDigit (numeral : Numeral cs n) : ∀ c ∈ cs.getLast?, c.isDigit = true := by
  intro c last
  cases numeral with
  | plain _ all => exact all c (List.mem_of_getLast? last)
  | plus some all =>
    rw [List.getLast?_cons_of_ne_nil some] at last
    exact all c (List.mem_of_getLast? last)

theorem ne_nil (numeral : Numeral cs n) : cs ≠ [] := by
  cases numeral with
  | plain some _ => exact some
  | plus _ _ => exact List.cons_ne_nil _ _

theorem unique (numeral : Numeral cs n) {m : Nat} (other : Numeral cs m) : n = m := by
  have noSign : '+'.isDigit ≠ true := by decide
  cases numeral with
  | plain _ all =>
    cases other with
    | plain => rfl
    | plus => exact absurd (all '+' List.mem_cons_self) noSign
  | plus =>
    cases other with
    | plain _ all => exact absurd (all '+' List.mem_cons_self) noSign
    | plus => rfl

/-- The decimal digits of `n` are a numeral of `n`. -/
theorem toDigits (n : Nat) : Numeral (Nat.toDigits 10 n) n := by
  have numeral := plain (Nat.toDigits_ne_nil (n := n)) fun c member =>
    Nat.isDigit_of_mem_toDigits (b := 10) (by decide) (by decide) member
  rwa [Nat.ofDigitChars_ten_toDigits] at numeral

end Numeral

/-! ### Units -/

/-- The units of a duration's text. -/
inductive TimeUnit
  | millisecond
  | second
  | minute
  deriving DecidableEq, Repr

namespace TimeUnit

/-- The milliseconds of one unit. -/
def millis : TimeUnit → Nat
  | millisecond => 1
  | second => 1000
  | minute => 60000

/-- What may stand for a unit behind a number. Seconds may go without a mark. -/
def marks : TimeUnit → List (List Char)
  | millisecond => [['m', 's']]
  | second => [['s'], []]
  | minute => [['m']]

end TimeUnit

namespace Duration

open Text

/-- `Tells cs n unit`: `cs` is a numeral of `n` and a mark of `unit`, with white space around and
between them. -/
inductive Tells : List Char → Nat → TimeUnit → Prop
  | intro (front numeral gap mark back : List Char) {n : Nat} {unit : TimeUnit}
      (ahead : AllBlank front) (number : Numeral numeral n) (between : AllBlank gap)
      (marked : mark ∈ unit.marks) (behind : AllBlank back) :
      Tells (front ++ numeral ++ gap ++ mark ++ back) n unit

/-- The first number of milliseconds that a duration cannot hold: its seconds have 64 bits. -/
def capacity : Nat := 1000 * UInt64.size

/-- What `n` units are read as: so many milliseconds, if a duration can hold them. -/
def ofUnits (unit : TimeUnit) (n : Nat) : Except DurationFault Duration :=
  if unit.millis * n < capacity then .ok ⟨unit.millis * n⟩ else .error .overflow

theorem ofUnits_eq_ok_iff {unit : TimeUnit} {n : Nat} {d : Duration} :
    ofUnits unit n = .ok d ↔ unit.millis * n < capacity ∧ d = ⟨unit.millis * n⟩ := by
  unfold ofUnits
  split
  · next held => exact ⟨fun read => ⟨held, (Except.ok.inj read).symm⟩, fun told => told.2 ▸ rfl⟩
  · next much => exact iff_of_false nofun fun told => much told.1

theorem ofUnits_eq_overflow_iff {unit : TimeUnit} {n : Nat} :
    ofUnits unit n = .error .overflow ↔ capacity ≤ unit.millis * n := by
  unfold ofUnits
  split
  · next held => exact iff_of_false nofun (Nat.not_le.2 held)
  · next much => exact iff_of_true rfl (Nat.le_of_not_lt much)

theorem ofUnits_millisecond (n : UInt64) : ofUnits .millisecond n.toNat = .ok ⟨n.toNat⟩ := by
  have bound := n.toNat_lt_size
  rw [ofUnits, TimeUnit.millis, Nat.one_mul, if_pos (by simp only [capacity]; omega)]

theorem ofUnits_second (n : UInt64) : ofUnits .second n.toNat = .ok (ofSeconds n) := by
  have bound := n.toNat_lt_size
  rw [ofUnits, TimeUnit.millis, if_pos (by simp only [capacity]; omega), ofSeconds]

/-- Minutes can be held exactly when their seconds fit 64 bits. -/
theorem ofUnits_minute (n : UInt64) : ofUnits .minute n.toNat = ofMinutes n := by
  unfold ofUnits ofMinutes
  by_cases fits : 60 * n.toNat < UInt64.size
  · have held : TimeUnit.minute.millis * n.toNat < capacity := by
      simp only [TimeUnit.millis, capacity]
      omega
    have seconds : (60 * n).toNat = 60 * n.toNat := by
      rw [UInt64.toNat_mul]
      exact Nat.mod_eq_of_lt fits
    rw [if_pos held, if_pos fits, ofSeconds, seconds, TimeUnit.millis, ← Nat.mul_assoc]
  · have much : ¬ TimeUnit.minute.millis * n.toNat < capacity := by
      simp only [TimeUnit.millis, capacity]
      omega
    rw [if_neg much, if_neg fits]

/-- Only minutes can be more than a duration holds. -/
theorem eq_minute_of_capacity_le {unit : TimeUnit} {n : Nat} (fits : n < UInt64.size)
    (much : capacity ≤ unit.millis * n) : unit = .minute := by
  cases unit with
  | minute => rfl
  | millisecond | second =>
    simp only [capacity, TimeUnit.millis] at much
    omega

/-! ### Reading -/

/-- `count?` reads `n` from `cs` exactly when `cs` is a numeral of `n` with white space around
it. -/
theorem count?_eq_ok_iff {e : DurationError} {cs : List Char} {n : UInt64} :
    count? e cs = .ok n ↔ ∃ front numeral back, AllBlank front ∧ AllBlank back ∧
      Numeral numeral n.toNat ∧ cs = front ++ numeral ++ back := by
  have read : count? e cs = .ok n ↔ parseUInt64? (trim cs) = some n := by
    unfold count?
    cases parseUInt64? (trim cs) <;> simp
  rw [read, parseUInt64?_eq_some_iff]
  constructor
  · intro numeral
    obtain ⟨front, back, ahead, behind, whole⟩ := exists_trim cs
    exact ⟨front, trim cs, back, ahead, behind, numeral, whole⟩
  · rintro ⟨front, numeral, back, ahead, behind, number, rfl⟩
    rwa [trim_surrounded ahead behind number.head_not_blank fun c last =>
      not_isBlank_of_isDigit (number.last_isDigit c last)]

/-- A `numeral` of an `n` that does not fit 64 bits is refused with the error `e`. -/
theorem count?_of_large {e : DurationError} {numeral gap : List Char} {n : Nat}
    (number : Numeral numeral n) (between : AllBlank gap) (large : UInt64.size ≤ n) :
    count? e (numeral ++ gap) = .error (.refused e) := by
  have nothing : AllBlank [] := by decide
  have trimmed : trim (numeral ++ gap) = numeral :=
    trim_surrounded nothing between number.head_not_blank fun c last =>
      not_isBlank_of_isDigit (number.last_isDigit c last)
  rw [count?, trimmed]
  cases read : parseUInt64? numeral with
  | none => rfl
  | some m =>
    have same := number.unique (parseUInt64?_eq_some_iff.1 read)
    exact absurd m.toNat_lt_size (Nat.not_lt.2 (same ▸ large))

/-- A `text` that is not refused tells some `n`, of 64 bits, with some `unit`, and is read as
`ofUnits unit n`. -/
theorem exists_tells_of_parse {text : String} (read : ∀ e, parse text ≠ .error (.refused e)) :
    ∃ (n : UInt64) (unit : TimeUnit), Tells text.toList n.toNat unit ∧
      parse text = ofUnits unit n.toNat := by
  obtain ⟨front, back, ahead, behind, whole⟩ := exists_trim text.toList
  -- A number that has been counted in front of a mark is told with the unit of the mark.
  have told {e : DurationError} {rest : List Char} (mark : List Char)
      {make : UInt64 → Except DurationFault Duration} {unit : TimeUnit}
      (counted : parse text = (count? e rest.reverse).bind make)
      (ends : (trim text.toList).reverse = mark.reverse ++ rest) (marked : mark ∈ unit.marks)
      (made : ∀ n, ofUnits unit n.toNat = make n) :
      ∃ (n : UInt64) (unit : TimeUnit), Tells text.toList n.toNat unit ∧
        parse text = ofUnits unit n.toNat := by
    cases count : count? e rest.reverse with
    | error fault =>
      have refused : fault = .refused e := by
        unfold count? at count
        split at count
        · exact nomatch count
        · exact (Except.error.inj count).symm
      rw [count, refused] at counted
      exact absurd counted (read e)
    | ok n =>
      rw [count] at counted
      obtain ⟨front', numeral, gap, ahead', between, number, before⟩ := count?_eq_ok_iff.1 count
      have inner : trim text.toList = rest.reverse ++ mark := by
        rw [← List.reverse_reverse (trim text.toList), ends, List.reverse_append,
          List.reverse_reverse]
      have same : text.toList = (front ++ front') ++ numeral ++ gap ++ mark ++ back := by
        rw [whole, inner, before]
        simp only [List.append_assoc]
      refine ⟨n, unit, ?_, counted.trans (made n).symm⟩
      rw [same]
      exact .intro _ numeral gap mark back (ahead.append ahead') number between marked behind
  have held (e : DurationError) (cs : List Char) (make : UInt64 → Duration) :
      (count? e cs).map make = (count? e cs).bind fun n => .ok (make n) := by
    cases count? e cs <;> rfl
  have reads : parse text = parseReversed (trim text.toList).reverse := rfl
  generalize ends : (trim text.toList).reverse = reversed at reads
  unfold parseReversed at reads
  split at reads
  · exact told ['m', 's'] (reads.trans (held _ _ _)) ends (by decide) ofUnits_millisecond
  · exact told ['s'] (reads.trans (held _ _ _)) ends (by decide) ofUnits_second
  · exact told ['m'] reads ends (by decide) ofUnits_minute
  · exact told [] (reads.trans (held _ _ _)) ends (by decide) ofUnits_second

/-- A `numeral` with white space behind it does not end in a `letter`. -/
theorem head_ne_letter (letter : Char) {numeral gap : List Char} {n : Nat}
    (number : Numeral numeral n) (between : AllBlank gap) (notDigit : letter.isDigit = false)
    (notBlank : ¬ IsBlank letter) (rest : List Char) :
    (numeral ++ gap).reverse ≠ letter :: rest := by
  -- The last character is white space or a digit.
  intro same
  have last : (numeral ++ gap).getLast? = some letter := by
    rw [← List.head?_reverse, same]
    rfl
  rw [List.getLast?_append] at last
  cases given : gap.getLast? with
  | none =>
    rw [given, Option.none_or] at last
    exact Bool.false_ne_true (notDigit.symm.trans (number.last_isDigit letter last))
  | some c =>
    rw [given, Option.some_or] at last
    obtain rfl := Option.some.inj last
    exact notBlank (between c (List.mem_of_getLast? given))

/-- A `numeral` of `n` and a `mark` of `unit` behind it are read as `ofUnits unit n`. -/
theorem parseReversed_of_mark {numeral gap mark : List Char} {n : UInt64} {unit : TimeUnit}
    (number : Numeral numeral n.toNat) (between : AllBlank gap) (marked : mark ∈ unit.marks) :
    parseReversed (numeral ++ gap ++ mark).reverse = ofUnits unit n.toNat := by
  have counted (e : DurationError) : count? e (numeral ++ gap).reverse.reverse = .ok n := by
    rw [List.reverse_reverse]
    exact count?_eq_ok_iff.2 ⟨[], numeral, gap, by decide, between, number, rfl⟩
  have noM := head_ne_letter 'm' number between (by decide) (by decide)
  have noS := head_ne_letter 's' number between (by decide) (by decide)
  rw [List.reverse_append]
  -- A number ends neither in s nor in m, so the last characters are those of the mark.
  generalize (numeral ++ gap).reverse = reversed at counted noM noS
  cases unit with
  | millisecond =>
    obtain rfl := List.mem_singleton.1 marked
    show (count? .milliseconds reversed.reverse).map _ = _
    rw [counted, ofUnits_millisecond]
    rfl
  | second =>
    rcases List.mem_cons.1 marked with rfl | marked
    · have second : parseReversed ('s' :: reversed) =
          (count? .seconds reversed.reverse).map ofSeconds := by
        rw [parseReversed.eq_2]
        exact fun rest same => noM rest same
      show parseReversed ('s' :: reversed) = _
      rw [second, counted, ofUnits_second]
      rfl
    · obtain rfl := List.mem_singleton.1 marked
      have plain : parseReversed reversed = (count? .format reversed.reverse).map ofSeconds := by
        rw [parseReversed.eq_4]
        · exact fun rest same => noS _ same
        · exact fun rest same => noS _ same
        · exact fun rest same => noM _ same
      show parseReversed reversed = _
      rw [plain, counted, ofUnits_second]
      rfl
  | minute =>
    obtain rfl := List.mem_singleton.1 marked
    show (count? .minutes reversed.reverse).bind ofMinutes = _
    rw [counted, ofUnits_minute]
    rfl

/-- A text that tells `n` units is, when trimmed, a numeral of `n`, white space and a mark of
`unit`. -/
theorem exists_trim_of_tells {cs : List Char} {n : Nat} {unit : TimeUnit}
    (tells : Tells cs n unit) : ∃ numeral gap mark, Numeral numeral n ∧ AllBlank gap ∧
      mark ∈ unit.marks ∧ trim cs = numeral ++ gap ++ mark := by
  cases tells with
  | intro front numeral gap mark back ahead number between marked behind =>
    have lastDigit : ∀ c ∈ numeral.getLast?, ¬ IsBlank c := fun c last =>
      not_isBlank_of_isDigit (number.last_isDigit c last)
    rcases List.eq_nil_or_concat mark with rfl | ⟨letters, letter, rfl⟩
    · -- Without a mark the white space behind the number is at the end of the text.
      refine ⟨numeral, [], [], number, by decide, marked, ?_⟩
      have same : front ++ numeral ++ gap ++ [] ++ back = front ++ numeral ++ (gap ++ back) := by
        simp only [List.append_assoc, List.nil_append]
      rw [same, trim_surrounded ahead (between.append behind) number.head_not_blank lastDigit]
      simp only [List.append_nil]
    · -- A mark ends in a letter, so the trimmed text ends with it.
      have letterNotBlank : ¬ IsBlank letter := by
        have all : ∀ mark ∈ unit.marks, (mark.getLast?.all fun c => !decide (IsBlank c)) = true := by
          cases unit <;> decide
        have last := all _ marked
        rw [List.concat_eq_append, List.getLast?_concat] at last
        simpa using last
      refine ⟨numeral, gap, letters.concat letter, number, between, marked, ?_⟩
      have same : front ++ numeral ++ gap ++ letters.concat letter ++ back =
          front ++ (numeral ++ gap ++ letters.concat letter) ++ back := by
        simp only [List.append_assoc]
      rw [same]
      refine trim_surrounded ahead behind (fun c first => ?_) fun c last => ?_
      · rw [List.append_assoc, List.head?_append, List.head?_eq_some_head number.ne_nil,
          Option.some_or, ← List.head?_eq_some_head] at first
        exact number.head_not_blank c first
      · rw [List.concat_eq_append, ← List.append_assoc, List.getLast?_concat] at last
        obtain rfl := Option.some.inj last
        exact letterNotBlank

/-- A text that tells `n` units, of 64 bits, is read as `n` units. -/
theorem parse_of_tells {text : String} {n : Nat} {unit : TimeUnit}
    (tells : Tells text.toList n unit) (fits : n < UInt64.size) :
    parse text = ofUnits unit n := by
  obtain ⟨m, rfl⟩ : ∃ m : UInt64, m.toNat = n := ⟨.ofNat n, UInt64.toNat_ofNat_of_lt' fits⟩
  obtain ⟨numeral, gap, mark, number, between, marked, trimmed⟩ := exists_trim_of_tells tells
  rw [parse, trimmed]
  exact parseReversed_of_mark number between marked

/-- `parse text` is the duration `d` exactly if `text` tells a number of 64 bits with a unit whose
product can be held, and `d` is that product. -/
theorem parse_eq_ok_iff {text : String} {d : Duration} :
    parse text = .ok d ↔ ∃ n unit, Tells text.toList n unit ∧ n < UInt64.size ∧
      unit.millis * n < capacity ∧ d = ⟨unit.millis * n⟩ := by
  constructor
  · intro read
    obtain ⟨n, unit, tells, same⟩ := exists_tells_of_parse fun e refused =>
      nomatch read.symm.trans refused
    obtain ⟨held, told⟩ := ofUnits_eq_ok_iff.1 (same.symm.trans read)
    exact ⟨n.toNat, unit, tells, n.toNat_lt_size, held, told⟩
  · rintro ⟨n, unit, tells, fits, held, told⟩
    exact (parse_of_tells tells fits).trans (ofUnits_eq_ok_iff.2 ⟨held, told⟩)

/-- `parse text` overflows exactly if `text` tells a number of minutes, of 64 bits, that is more
than a duration can hold. -/
theorem parse_eq_overflow_iff {text : String} :
    parse text = .error .overflow ↔ ∃ n, Tells text.toList n .minute ∧ n < UInt64.size ∧
      capacity ≤ TimeUnit.minute.millis * n := by
  constructor
  · intro broken
    obtain ⟨n, unit, tells, same⟩ := exists_tells_of_parse fun e refused =>
      nomatch broken.symm.trans refused
    have much := ofUnits_eq_overflow_iff.1 (same.symm.trans broken)
    obtain rfl := eq_minute_of_capacity_le n.toNat_lt_size much
    exact ⟨n.toNat, tells, n.toNat_lt_size, much⟩
  · rintro ⟨n, tells, fits, much⟩
    exact (parse_of_tells tells fits).trans (ofUnits_eq_overflow_iff.2 much)

/-- The text of a duration `d` is read as `d` if its milliseconds fit 64 bits, though a duration
can hold more. -/
theorem parse_text (d : Duration) : parse d.text =
    if d.millis < UInt64.size then .ok d else .error (.refused .milliseconds) := by
  have nothing : AllBlank [] := by decide
  have tells : Tells d.text.toList d.millis .millisecond := by
    rw [text, String.toList_ofList]
    have written : Tells ([] ++ Nat.toDigits 10 d.millis ++ [] ++ ['m', 's'] ++ []) d.millis
        .millisecond :=
      .intro _ _ _ _ _ nothing (Numeral.toDigits d.millis) nothing (by decide) nothing
    simpa using written
  split
  · next fits =>
    have held : TimeUnit.millisecond.millis * d.millis < capacity := by
      simp only [TimeUnit.millis, capacity]
      omega
    refine parse_eq_ok_iff.2 ⟨d.millis, .millisecond, tells, fits, held, ?_⟩
    rw [TimeUnit.millis, Nat.one_mul]
  · next large =>
    -- The numeral is read without its mark, and its number has more than 64 bits.
    obtain ⟨numeral, gap, mark, number, between, marked, trimmed⟩ := exists_trim_of_tells tells
    obtain rfl := List.mem_singleton.1 marked
    rw [parse, trimmed, List.reverse_append]
    show (count? .milliseconds (numeral ++ gap).reverse.reverse).map _ = _
    rw [List.reverse_reverse, count?_of_large number between (Nat.le_of_not_lt large)]
    rfl

/-- **The text of a duration means what it says** if a duration can hold it: a `text` that tells
`n` units, `n` of 64 bits, is read as `unit.millis * n` milliseconds, whatever white space, plus
sign and zeros stand around `n`, and a `text` that tells no such number is refused. More than a
duration holds is told by minutes alone, and then `parse text` is no refusal but an overflow. -/
theorem parse_tells (text : String) :
    (∀ n unit, Tells text.toList n unit → n < UInt64.size →
      if unit.millis * n < capacity then parse text = .ok ⟨unit.millis * n⟩
      else unit = .minute ∧ parse text = .error .overflow) ∧
    ((∀ n unit, Tells text.toList n unit → UInt64.size ≤ n) →
      ∃ e, parse text = .error (.refused e)) := by
  refine ⟨fun n unit tells fits => ?_, fun none => ?_⟩
  · have read := parse_of_tells tells fits
    split
    · next held => exact read.trans (ofUnits_eq_ok_iff.2 ⟨held, rfl⟩)
    · next small =>
      have much := Nat.le_of_not_lt small
      exact ⟨eq_minute_of_capacity_le fits much, read.trans (ofUnits_eq_overflow_iff.2 much)⟩
  · by_contra accepted
    obtain ⟨n, unit, tells, -⟩ := exists_tells_of_parse (not_exists.1 accepted)
    exact absurd n.toNat_lt_size (Nat.not_lt.2 (none n.toNat unit tells))

theorem parse_tells_surrounded :
    (Tells "\t+007 m\n".toList 7 .minute ∧ parse "\t+007 m\n" = .ok ⟨420000⟩) ∧
    ∃ e, parse "" = .error (.refused e) := by
  have seven : Numeral "+007".toList 7 := .plus (by decide) (List.all_eq_true.1 (by decide))
  have tells : Tells "\t+007 m\n".toList 7 .minute :=
    .intro "\t".toList _ " ".toList "m".toList "\n".toList (by decide) seven (by decide)
      (by decide) (by decide)
  have nothing (n : Nat) (unit : TimeUnit) (tells : Tells "".toList n unit) : UInt64.size ≤ n := by
    obtain ⟨numeral, gap, mark, number, -, -, trimmed⟩ := exists_trim_of_tells tells
    have empty : numeral ++ gap ++ mark = [] := trimmed.symm
    have noDigits : numeral = [] := (List.append_eq_nil_iff.1 (List.append_eq_nil_iff.1 empty).1).1
    exact absurd noDigits number.ne_nil
  exact ⟨⟨tells, (parse_tells "\t+007 m\n").1 7 .minute tells (by decide)⟩,
    (parse_tells "").2 nothing⟩

/-- A case in which `parse_tells` says that reading overflows: the text tells a number of minutes
of 64 bits, which is more than a duration holds. It is not refused for that. -/
theorem parse_overflows :
    Tells "307445734561825861m".toList 307445734561825861 .minute ∧
    307445734561825861 < UInt64.size ∧
    capacity ≤ TimeUnit.minute.millis * 307445734561825861 ∧
    (∀ e, parse "307445734561825861m" ≠ .error (.refused e)) ∧
    parse "307445734561825861m" = .error .overflow := by
  have tells : Tells "307445734561825861m".toList 307445734561825861 .minute :=
    .intro [] "307445734561825861".toList [] "m".toList [] (by decide)
      (.plain (by decide) (List.all_eq_true.1 (by decide))) (by decide) (by decide) (by decide)
  have overflow := parse_eq_overflow_iff.2 ⟨_, tells, by decide, by decide⟩
  refine ⟨tells, by decide, by decide, fun e refused => ?_, overflow⟩
  exact nomatch overflow.symm.trans refused

end Duration

end StateChannel
