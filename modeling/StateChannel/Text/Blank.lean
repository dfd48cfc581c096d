/-!
# White space

The characters with the White_Space property, and trimming.

## Main definitions

* `Text.IsBlank`: white space
* `Text.trim`: a text without the white space at its two ends

## Main results

* `Text.isBlank_of_isWhitespace`: core's white space is white space here
-/

namespace StateChannel.Text

/-- White space: tab to carriage return, space, next line, no-break space, and the separators. -/
def IsBlank (c : Char) : Prop :=
  let n := c.toNat
  (9 ≤ n ∧ n ≤ 13) ∨ n = 0x20 ∨ n = 0x85 ∨ n = 0xa0 ∨ n = 0x1680 ∨ (0x2000 ≤ n ∧ n ≤ 0x200a) ∨
    n = 0x2028 ∨ n = 0x2029 ∨ n = 0x202f ∨ n = 0x205f ∨ n = 0x3000

instance (c : Char) : Decidable (IsBlank c) := by
  unfold IsBlank
  exact inferInstance

/-- The characters without the white space at the two ends. -/
def trim (cs : List Char) : List Char :=
  let front := cs.dropWhile (fun c => decide (IsBlank c))
  (front.reverse.dropWhile (fun c => decide (IsBlank c))).reverse

theorem isBlank_of_isWhitespace {c : Char} (h : c.isWhitespace) : IsBlank c := by
  simp only [Char.isWhitespace, Bool.or_eq_true, decide_eq_true_eq] at h
  rcases h with ((h | h) | h) | h <;> subst h <;> decide

theorem trim_nil : trim [] = [] := rfl

end StateChannel.Text
