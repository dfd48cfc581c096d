import StateChannel.Json.Render
import StateChannel.Json.Token
import StateChannel.Proofs.Json.Shape

/-!
# JSON text as it is written

The characters of a written value, and the tokens that they are taken as: every string and every
integer is one token, whatever follows it.

## Main definitions

* `Json.quoted`: the characters of a string with its quotes
* `Json.furtherItems`, `Json.furtherMembers`: what stands after the first item or member

## Main results

* `Token.take_quoted`: a written string is one token with its value
* `Token.take_integer`: a written integer is one token with its value
-/

namespace StateChannel

namespace Json

/-! ### The characters of a value -/

/-- The characters of a string with its quotes. -/
def quoted (s : String) : List Char := '"' :: (s.toList.flatMap escape ++ ['"'])

theorem toList_renderString (before s : String) :
    (renderString before s).toList = before.toList ++ quoted s := by
  have pushed (cs : List Char) (front : String) :
      (cs.foldl String.push front).toList = front.toList ++ cs := by
    induction cs generalizing front with
    | nil => simp
    | cons c cs ih => simp [ih]
  have escaped (cs : List Char) (front : String) :
      (cs.foldl (fun acc c => (escape c).foldl String.push acc) front).toList =
        front.toList ++ cs.flatMap escape := by
    induction cs generalizing front with
    | nil => simp
    | cons c cs ih => simp [ih, pushed]
  simp [renderString, escaped, quoted]

/-- What stands after the first item of an array, for `items` as the others. -/
def furtherItems (items : List Json) : List Char :=
  items.flatMap fun item => ',' :: (render item).toList

/-- What stands after the first member of an object, for `members` as the others. -/
def furtherMembers (members : List (String × Json)) : List Char :=
  members.flatMap fun member => ',' :: (quoted member.1 ++ ':' :: (render member.2).toList)

mutual

/-- `renderAfter` writes a value behind any text as `render` does. -/
theorem toList_renderAfter (before : String) : ∀ value : Json,
    (renderAfter before value).toList = before.toList ++ (render value).toList
  | .null => by simp [renderAfter, render]
  | .bool true | .bool false => by simp [renderAfter, render]
  | .number n => by simp [renderAfter, render]
  | .string s => by simp [renderAfter, render, toList_renderString]
  | .array [] => by simp [renderAfter, render]
  | .array (item :: items) => by
    rw [render]
    simp [renderAfter, toList_renderItems _ items, toList_renderAfter _ item]
  | .object [] => by simp [renderAfter, render]
  | .object ((key, value) :: members) => by
    rw [render]
    simp [renderAfter, toList_renderMembers _ members, toList_renderAfter _ value,
      toList_renderString]

theorem toList_renderItems (before : String) : ∀ items : List Json,
    (renderItems before items).toList = before.toList ++ furtherItems items
  | [] => by simp [renderItems, furtherItems]
  | item :: items => by
    simp [renderItems, toList_renderItems _ items, toList_renderAfter _ item, furtherItems]

theorem toList_renderMembers (before : String) : ∀ members : List (String × Json),
    (renderMembers before members).toList = before.toList ++ furtherMembers members
  | [] => by simp [renderMembers, furtherMembers]
  | (key, value) :: members => by
    simp [renderMembers, toList_renderMembers _ members, toList_renderAfter _ value,
      toList_renderString, furtherMembers]

end

theorem toList_render_string (s : String) : (render (.string s)).toList = quoted s := by
  rw [render, renderAfter, toList_renderString]
  rfl

theorem toList_render_array (item : Json) (items : List Json) :
    (render (.array (item :: items))).toList =
      '[' :: ((render item).toList ++ furtherItems items ++ [']']) := by
  rw [render]
  simp [renderAfter, toList_renderItems, toList_renderAfter _ item]

theorem toList_render_object (key : String) (value : Json) (members : List (String × Json)) :
    (render (.object ((key, value) :: members))).toList =
      '\x7b' :: (quoted key ++ ':' :: (render value).toList ++ furtherMembers members ++
        ['\x7d']) := by
  rw [render]
  simp [renderAfter, toList_renderMembers, toList_renderAfter _ value, toList_renderString]

end Json

/-! ### Tokens -/

namespace Token

theorem takeString_plain (done : List Char) {c : Char} (rest : List Char) (space : ¬ c < ' ')
    (quote : c ≠ '"') (backslash : c ≠ '\\') :
    takeString done true none (c :: rest) = takeString (c :: done) true none rest := by
  rw [takeString]
  · rw [if_neg (not_or.2 ⟨space, backslash⟩)]
    rfl
  · exact quote
  · exact fun _ _ _ _ _ same => absurd same backslash
  · exact fun _ _ same => absurd same backslash

theorem takeString_short (done : List Char) {e c : Char} (rest : List Char)
    (short : shortEscape? e = some c) (other : e ≠ 'u') :
    takeString done true none ('\\' :: e :: rest) = takeString (c :: done) true none rest := by
  rw [takeString]
  · simp only [short]
    rfl
  · exact fun _ _ _ _ _ same => absurd same other

theorem takeString_unit (done : List Char) {p q r s : Char} {n : Nat} (rest : List Char)
    (unit : unit? p q r s = some n) (small : n < 0xD800) :
    takeString done true none ('\\' :: 'u' :: p :: q :: r :: s :: rest) =
      takeString (Char.ofNat n :: done) true none rest := by
  have high : isHighHalf n = false := by simp [isHighHalf]; omega
  have low : isLowHalf n = false := by simp [isLowHalf]; omega
  simp [takeString, unit, high, low]

/-- What a character `c` is escaped as is taken as `c`. -/
theorem takeString_escape (done : List Char) (c : Char) (rest : List Char) :
    takeString done true none (Json.escape c ++ rest) =
      takeString (c :: done) true none rest := by
  unfold Json.escape
  -- Seven characters have an escape of their own.
  iterate 7
    split
    · next same =>
      subst same
      exact takeString_short done rest rfl (by decide)
  -- Other control characters are written with their number, and all the rest as they are.
  split
  · next control =>
    have small : c.toNat < 32 := control
    have unit : unit? '0' '0' (Hex.digit (c.toNat / 16)) (Hex.digit (c.toNat % 16)) =
        some c.toNat := by
      simp only [unit?, Hex.value?_digit (show c.toNat / 16 < 16 by omega),
        Hex.value?_digit (show c.toNat % 16 < 16 by omega)]
      show some _ = some _
      congr 1
      show ((16 * 0 + 0) * 16 + c.toNat / 16) * 16 + c.toNat % 16 = c.toNat
      omega
    have taken := takeString_unit done rest unit (by omega)
    rwa [Char.ofNat_toNat] at taken
  · next quote backslash _ _ _ _ _ space => exact takeString_plain done rest space quote backslash

theorem takeString_quoted (done cs rest : List Char) :
    takeString done true none (cs.flatMap Json.escape ++ '"' :: rest) =
      (.string (some (String.ofList (done.reverse ++ cs))), rest) := by
  induction cs generalizing done with
  | nil => simp [takeString]
  | cons c cs ih =>
    rw [List.flatMap_cons, List.append_assoc, takeString_escape, ih]
    simp

/-- The quoted `s` is taken as one token, whatever follows. -/
theorem take_quoted (s : String) (rest : List Char) :
    take (Json.quoted s ++ rest) = (.string (some s), rest) := by
  have taken := takeString_quoted [] s.toList rest
  rw [List.reverse_nil, List.nil_append, String.ofList_toList] at taken
  rw [Json.quoted, List.cons_append, List.append_assoc]
  exact taken

end Token

/-! ### Integers -/

/-- Only zero is written with a zero in front. -/
theorem head?_toDigits_ne {n : Nat} (positive : 0 < n) :
    (Nat.toDigits 10 n).head? ≠ some '0' := by
  induction n using Nat.strongRecOn with
  | _ n ih =>
    rw [Nat.toDigits_eq_if (by decide)]
    split
    · next small =>
      have single : ∀ digit < 10, 0 < digit → [Nat.digitChar digit].head? ≠ some '0' := by decide
      exact single n small positive
    · next large =>
      obtain ⟨c, cs, front⟩ :=
        List.exists_cons_of_ne_nil (Nat.toDigits_ne_nil (n := n / 10) (b := 10))
      have first := ih (n / 10) (by omega) (by omega)
      rw [front] at first ⊢
      exact first

theorem isDigit_of_mem_toDigits {n : Nat} {c : Char} (member : c ∈ Nat.toDigits 10 n) :
    c.isDigit = true :=
  Nat.isDigit_of_mem_toDigits (by decide) (by decide) member

/-- `extend` takes all `digits` of a number that fits. -/
theorem NumberText.extend_eq {significand : Nat} {digits : List Char}
    (fits : Nat.ofDigitChars 10 digits significand ≤ maxSignificand) :
    extend significand digits = (Nat.ofDigitChars 10 digits significand, 0) := by
  induction digits generalizing significand with
  | nil => rfl
  | cons c digits ih =>
    have first : 10 * significand + (c.toNat - 48) ≤ maxSignificand := by
      refine Nat.le_trans ?_ fits
      rw [Nat.ofDigitChars_cons, Nat.ofDigitChars_eq_ofDigitChars_zero]
      exact Nat.le_trans (Nat.le_mul_of_pos_left _ (Nat.pow_pos (by decide))) (Nat.le_add_right _ _)
    rw [extend, if_pos first]
    exact ih fits

namespace Token

/-- A number ends before `rest`: nothing that could go on with it follows. -/
def EndsNumber (rest : List Char) : Prop :=
  ∀ c ∈ rest.head?, c.isDigit = false ∧ c ≠ '.' ∧ c ≠ 'e' ∧ c ≠ 'E'

theorem splitDigits_append {digits rest : List Char} (all : ∀ c ∈ digits, c.isDigit = true)
    (ends : EndsNumber rest) : splitDigits (digits ++ rest) = (digits, rest) := by
  have taken : rest.takeWhile Char.isDigit = [] ∧ rest.dropWhile Char.isDigit = rest := by
    cases rest with
    | nil => exact ⟨rfl, rfl⟩
    | cons c rest => simp [(ends c rfl).1]
  rw [splitDigits, List.takeWhile_append_of_pos all, List.dropWhile_append_of_pos all, taken.1,
    taken.2, List.append_nil]

theorem wholePart?_toDigits (n : Nat) {rest : List Char} (ends : EndsNumber rest) :
    wholePart? (Nat.toDigits 10 n ++ rest) = some (Nat.toDigits 10 n, rest) := by
  rw [wholePart?, splitDigits_append (fun c => isDigit_of_mem_toDigits) ends]
  split
  · next none => exact absurd (congrArg Prod.fst none) Nat.toDigits_ne_nil
  · next zeros =>
    have digits := congrArg Prod.fst zeros
    rcases Nat.eq_zero_or_pos n with rfl | positive
    · exact absurd digits (by simp)
    · exact absurd (congrArg List.head? digits) (head?_toDigits_ne positive)
  · rfl

theorem numberText?_toDigits (negative : Bool) (n : Nat) {rest : List Char}
    (ends : EndsNumber rest) :
    numberText? negative (Nat.toDigits 10 n ++ rest) =
      some (⟨negative, Nat.toDigits 10 n, none, none⟩, rest) := by
  have noFraction : fractionPart? rest = some (none, rest) := by
    cases rest with
    | nil => rfl
    | cons c rest => simp [fractionPart?, (ends c rfl).2.1]
  have noExponent : exponentPart? rest = some (none, rest) := by
    cases rest with
    | nil => rfl
    | cons c rest => simp [exponentPart?, (ends c rfl).2.2]
  simp [numberText?, wholePart?_toDigits n ends, noFraction, noExponent]

/-- `value?` reads the text of the integer `n` as `n`. -/
theorem value?_toDigits (n : Json.Integer) :
    NumberText.value? ⟨n.val < 0, Nat.toDigits 10 n.val.natAbs, none, none⟩ =
      some (.integer n) := by
  have fits : n.val.natAbs ≤ NumberText.maxSignificand := by
    have least := n.min_le
    have greatest := n.le_max
    simp only [Json.minInteger, Json.maxInteger] at least greatest
    simp only [NumberText.maxSignificand]
    omega
  have taken : NumberText.extend 0 (Nat.toDigits 10 n.val.natAbs) = (n.val.natAbs, 0) := by
    have all := Nat.ofDigitChars_ten_toDigits (n := n.val.natAbs)
    rw [NumberText.extend_eq (by rwa [all]), all]
  have same : Json.Integer.ofInt? n.val = some n := dif_pos ⟨n.min_le, n.le_max⟩
  rw [NumberText.value?, taken]
  show NumberText.integerValue? (n.val < 0) n.val.natAbs = some (.integer n)
  unfold NumberText.integerValue?
  -- A negative number is told by the digits of its opposite.
  split
  · next negative =>
    have negative := of_decide_eq_true negative
    obtain ⟨k, size⟩ : ∃ k, n.val.natAbs = k + 1 := ⟨n.val.natAbs - 1, by omega⟩
    have signed : -((k + 1 : Nat) : Int) = n.val := by omega
    rw [size, signed, same]
  · next positive =>
    have positive := of_decide_eq_false (eq_false_of_ne_true positive)
    have unsigned : (n.val.natAbs : Int) = n.val := by omega
    rw [unsigned, same]
    rfl

theorem takeNumber_toDigits (n : Json.Integer) {rest : List Char} (ends : EndsNumber rest) :
    takeNumber (n.val < 0) (Nat.toDigits 10 n.val.natAbs ++ rest) =
      (.number (some (.integer n)), rest) := by
  rw [takeNumber, numberText?_toDigits _ _ ends]
  simp only [value?_toDigits]

theorem take_digit {c : Char} (digit : c.isDigit = true) (rest : List Char) :
    take (c :: rest) = takeNumber false (c :: rest) := by
  rw [take.eq_def]
  split <;> simp_all

theorem isBlank_of_isDigit {c : Char} (digit : c.isDigit = true) : isBlank c = false := by
  have other (d : Char) (notDigit : d.isDigit = false) : c ≠ d := by
    rintro rfl
    rw [notDigit] at digit
    exact nomatch digit
  simp [isBlank, other ' ' rfl, other '\n' rfl, other '\t' rfl, other '\r' rfl]

/-- A written integer begins with a character that is not blank. -/
theorem exists_text_integer (n : Json.Integer) : ∃ c cs,
    (Json.Number.integer n).text.toList = c :: cs ∧ isBlank c = false := by
  simp only [Json.Number.text, String.toList_ofList]
  split
  · exact ⟨'-', _, rfl, rfl⟩
  · obtain ⟨c, cs, front⟩ :=
      List.exists_cons_of_ne_nil (Nat.toDigits_ne_nil (n := n.val.natAbs) (b := 10))
    exact ⟨c, cs, front, isBlank_of_isDigit (isDigit_of_mem_toDigits (front ▸ List.mem_cons_self))⟩

/-- The text of the integer `n` is taken as one token, before a `rest` where numbers end. -/
theorem take_integer (n : Json.Integer) {rest : List Char} (ends : EndsNumber rest) :
    take ((Json.Number.integer n).text.toList ++ rest) = (.number (some (.integer n)), rest) := by
  have taken := takeNumber_toDigits n ends
  simp only [Json.Number.text, String.toList_ofList]
  split
  · next negative =>
    rw [decide_eq_true negative] at taken
    exact taken
  · next positive =>
    rw [decide_eq_false positive] at taken
    obtain ⟨c, cs, front⟩ :=
      List.exists_cons_of_ne_nil (Nat.toDigits_ne_nil (n := n.val.natAbs) (b := 10))
    have digit : c.isDigit = true := isDigit_of_mem_toDigits (front ▸ List.mem_cons_self)
    rw [front, List.cons_append] at taken ⊢
    rw [take_digit digit, taken]

end Token

end StateChannel
