/-!
# Request targets

What a request names as its target: a path with a query, a whole address, only a host, or the
asterisk. Requests are told apart by the path in it.

## Main definitions

* `Target.path`: the path of a target

## Main results

* `Target.path_of_slash`: a target that starts with a slash is its own path, up to the query
-/

namespace StateChannel.Target

/-- What stands before the query and the fragment. -/
def beforeQuery (cs : List Char) : List Char := cs.takeWhile fun c => c ≠ '?' ∧ c ≠ '#'

/-- A character that the name of a scheme may have. -/
def IsSchemeChar (c : Char) : Prop := c.isAlphanum ∨ c = '+' ∨ c = '-' ∨ c = '.' ∨ c = '~'

instance (c : Char) : Decidable (IsSchemeChar c) :=
  inferInstanceAs (Decidable (_ ∨ _ ∨ _ ∨ _ ∨ _))

/-- What follows the scheme of a whole address. -/
def afterScheme? (cs : List Char) : Option (List Char) :=
  match cs.dropWhile fun c => decide (IsSchemeChar c) with
  | ':' :: '/' :: '/' :: rest => some rest
  | _ => none

/-- What follows the host of an address. -/
def afterHost (cs : List Char) : List Char := cs.dropWhile fun c => c ≠ '/' ∧ c ≠ '?' ∧ c ≠ '#'

/-- The path of a target. A whole address without a path has the path of a single slash; a target
that is only a host has none. -/
def path (target : String) : String :=
  match target.toList with
  | '/' :: cs => String.ofList ('/' :: beforeQuery cs)
  | ['*'] => "*"
  | cs =>
    match (afterScheme? cs).map fun rest => beforeQuery (afterHost rest) with
    | some [] => "/"
    | some path => String.ofList path
    | none => ""

theorem path_of_slash {target : String} {cs : List Char} (h : target.toList = '/' :: cs) :
    path target = String.ofList ('/' :: beforeQuery cs) := by
  simp only [path, h]

end StateChannel.Target
