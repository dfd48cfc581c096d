import StateChannel.Decimal.Binary64

/-!
# JSON values

A number is an integer that fits 64 bits, signed or unsigned, or a floating-point number. The
members of an object are kept in the order of their keys, each key once; a later value
replaces an earlier one.

## Main definitions

* `Json`: the values
* `Json.Integer`, `Json.Number`: the numbers
* `Members.insert`, `Members.find?`: objects as sorted lists of members
* `Json.ofMembers`: an object from members in any order

## Main results

* `Members.find?_insert_self`, `Members.find?_insert_of_ne`: an object answers what was put in last
* `Json.member?_ofMembers`: of members in any order the last one with a key counts
-/

namespace StateChannel

namespace Json

/-- The least integer of 64 bits with a sign. -/
abbrev minInteger : Int := -9223372036854775808

/-- The greatest integer of 64 bits without a sign. -/
abbrev maxInteger : Int := 18446744073709551615

/-- An integer that fits 64 bits, signed or unsigned. -/
structure Integer where
  val : Int
  min_le : minInteger ≤ val
  le_max : val ≤ maxInteger
  deriving DecidableEq, Repr

/-- The integer `n`, when it fits. -/
def Integer.ofInt? (n : Int) : Option Integer :=
  if h : minInteger ≤ n ∧ n ≤ maxInteger then some ⟨n, h.1, h.2⟩ else none

/-- A JSON number. -/
inductive Number
  | integer (n : Integer)
  | float (x : Binary64)
  deriving DecidableEq, Repr

end Json

/-- A JSON value. -/
inductive Json
  | null
  | bool (b : Bool)
  | number (n : Json.Number)
  | string (s : String)
  | array (items : List Json)
  | object (members : List (String × Json))
  deriving Repr, Inhabited

/-- The members of an object, in the order of their keys. -/
abbrev Members := List (String × Json)

namespace Members

/-- Puts the member of `key` in its place, or in the place of the member with this key. -/
def insert (key : String) (value : Json) : Members → Members
  | [] => [(key, value)]
  | (k, v) :: rest =>
    if key < k then (key, value) :: (k, v) :: rest
    else if key = k then (key, value) :: rest
    else (k, v) :: insert key value rest

/-- The value of `key`. -/
def find? (key : String) (members : Members) : Option Json := List.lookup key members

theorem find?_cons_self (key : String) (value : Json) (rest : Members) :
    find? key ((key, value) :: rest) = some value := by
  simp [find?]

theorem find?_cons_of_ne {key other : String} (value : Json) (rest : Members) (h : other ≠ key) :
    find? other ((key, value) :: rest) = find? other rest := by
  simp only [find?, List.lookup_cons, beq_false_of_ne h]

theorem find?_insert_self (key : String) (value : Json) (members : Members) :
    find? key (insert key value members) = some value := by
  induction members with
  | nil => exact find?_cons_self key value []
  | cons member rest ih =>
    obtain ⟨k, v⟩ := member
    unfold insert
    split
    · exact find?_cons_self key value _
    · split
      · exact find?_cons_self key value _
      · next h => rw [find?_cons_of_ne _ _ h, ih]

theorem find?_insert_of_ne {key other : String} (value : Json) (members : Members)
    (h : other ≠ key) : find? other (insert key value members) = find? other members := by
  induction members with
  | nil => exact find?_cons_of_ne value [] h
  | cons member rest ih =>
    obtain ⟨k, v⟩ := member
    unfold insert
    split
    · exact find?_cons_of_ne value _ h
    · split
      · next he =>
        rw [find?_cons_of_ne value _ h, find?_cons_of_ne v _ (he ▸ h)]
      · by_cases hk : other = k
        · rw [hk, find?_cons_self, find?_cons_self]
        · rw [find?_cons_of_ne v _ hk, find?_cons_of_ne v _ hk, ih]

theorem find?_foldl_insert (key : String) (added members : Members) :
    find? key (added.foldl (fun acc member => insert member.1 member.2 acc) members) =
      (find? key added.reverse).or (find? key members) := by
  induction added generalizing members with
  | nil => rfl
  | cons member rest ih =>
    obtain ⟨k, v⟩ := member
    rw [List.foldl_cons, ih, List.reverse_cons]
    by_cases h : key = k
    · rw [← h, find?_insert_self, find?, find?, List.lookup_append, List.lookup_cons_self,
        Option.or_assoc, Option.or_some]
      cases List.lookup key rest.reverse <;> rfl
    · rw [find?_insert_of_ne v members h, find?, find?, find?, List.lookup_append, Option.or_assoc]
      simp [List.lookup_cons, beq_false_of_ne h]

end Members

namespace Json

/-- An integer value of 64 bits without a sign. -/
def ofUInt64 (n : UInt64) : Json :=
  .number (.integer ⟨n.toNat, by simp only [minInteger]; omega, by
    have := n.toNat_lt
    simp only [maxInteger]
    omega⟩)

/-- The value of an integer of 32 bits with a sign. -/
def ofInt32 (n : Int32) : Json :=
  .number (.integer ⟨n.toInt, by
    have := n.le_toInt
    simp only [minInteger]
    omega, by
    have := n.toInt_lt
    simp only [maxInteger]
    omega⟩)

/-- The value of a count, which is kept in 64 bits. -/
def ofCount (n : Nat) : Json := ofUInt64 (UInt64.ofNat n)

/-- An object from members in any order; of two members with one key the later counts. -/
def ofMembers (members : List (String × Json)) : Json :=
  .object (members.foldl (fun acc member => Members.insert member.1 member.2 acc) [])

/-- The text of a string value. -/
def string? : Json → Option String
  | .string s => some s
  | _ => none

/-- The value of `key`, where the value is an object. -/
def member? (key : String) : Json → Option Json
  | .object members => Members.find? key members
  | _ => none

theorem member?_ofMembers (key : String) (members : List (String × Json)) :
    (ofMembers members).member? key = List.lookup key members.reverse := by
  rw [ofMembers, member?, Members.find?_foldl_insert]
  simp [Members.find?]

end Json

end StateChannel
