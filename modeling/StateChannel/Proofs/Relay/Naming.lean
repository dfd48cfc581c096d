import Mathlib.Data.List.Forall2
import StateChannel.Proofs.Relay.Parameters
import StateChannel.Relay.Server

/-!
# Parameters by place and by name

A method reads some parameters and passes over all else. So it does not matter whether they stand in
an array or in an object, and what else stands there; parameters that are neither are none.

## Main definitions

* `Call.parameters`: what a method reads
* `Call.Agree`: parameters that are the same to a method
* `Entry.Agree`: requests that differ in nothing that is read

## Main results

* `Call.Agree.route`: what is the same to a method gives the same call, or the same error
* `Relay.submit_of_agree`: requests that agree have the same effect and the same answers
* `Relay.places_and_names`: parameters by place and by name
-/

namespace StateChannel

namespace Call

/-- The parameters that a method reads, each with its place and its name. -/
def parameters : String → List (Nat × String)
  | "send" => [(0, "channel"), (1, "message")]
  | "getseq" => [(0, "channel")]
  | "receive" => [(0, "channel"), (1, "fromseq")]
  | _ => []

/-- `params` and `params'` agree on every parameter that `method` reads: its value is the same in
both, or it is missing in both. -/
def Agree (method : String) (params params' : Option Json) : Prop :=
  ∀ p ∈ parameters method, param? params p.1 p.2 = param? params' p.1 p.2

variable {method : String} {params params' : Option Json} {index : Nat} {name : String}

theorem requireParam_congr (same : param? params index name = param? params' index name) :
    requireParam params index name = requireParam params' index name := by
  rw [requireParam, requireParam, same]

theorem typedParam_congr {α : Type} (same : param? params index name = param? params' index name)
    (read : Json → Except Mismatch α) :
    typedParam params index name read = typedParam params' index name read := by
  rw [typedParam, typedParam, requireParam_congr same]

/-- Parameters that `Agree` give the same call, or the same error. -/
theorem Agree.route (agree : Agree method params params') :
    route method params = route method params' := by
  -- One case for each method; in each, the parameters that it reads are listed.
  unfold Call.route
  split
  · have channel := agree (0, "channel") (by simp [parameters])
    have message := agree (1, "message") (by simp [parameters])
    rw [typedParam_congr channel, requireParam_congr message]
  · have channel := agree (0, "channel") (by simp [parameters])
    rw [typedParam_congr channel]
  · have channel := agree (0, "channel") (by simp [parameters])
    have start := agree (1, "fromseq") (by simp [parameters])
    rw [typedParam_congr channel, typedParam_congr start]
  · rfl

/-- The parameters are missing, or neither an array nor an object. -/
def Shapeless (params : Option Json) : Prop :=
  (∀ items, params ≠ some (.array items)) ∧ ∀ members, params ≠ some (.object members)

theorem Shapeless.param?_eq_none (shapeless : Shapeless params) (index : Nat) (name : String) :
    param? params index name = none := by
  obtain ⟨noArray, noObject⟩ := shapeless
  cases params with
  | none => rfl
  | some value =>
    cases value with
    | array items => exact absurd rfl (noArray items)
    | object members => exact absurd rfl (noObject members)
    | null | bool b | number n | string s => rfl

/-- `Shapeless` parameters agree with an empty array and with an empty object, for every
`method`. -/
theorem Shapeless.agree_empty (shapeless : Shapeless params) (method : String) :
    Agree method params (some (.array [])) ∧ Agree method params (some (.object [])) :=
  ⟨fun p _ => shapeless.param?_eq_none p.1 p.2, fun p _ => shapeless.param?_eq_none p.1 p.2⟩

end Call

namespace Entry

/-- Two entries are the same, but for `params` and `params'` that agree for their `method`. -/
inductive Agree : Entry → Entry → Prop
  | refused (answer : Json) : Agree (.refused answer) (.refused answer)
  | call (id : Option Json) {method : String} {params params' : Option Json}
      (agree : Call.Agree method params params') :
      Agree (.call id method params) (.call id method params')

theorem agree_self (entry : Entry) : Agree entry entry := by
  cases entry with
  | refused answer => exact .refused answer
  | call id method params => exact .call id fun p _ => rfl

end Entry

namespace Relay

variable {relay : Relay} {entry entry' : Entry} {entries entries' : List Entry}

theorem startEntry_of_agree (agree : entry.Agree entry') (relay : Relay) (key : Place) :
    relay.startEntry key entry = relay.startEntry key entry' := by
  cases agree with
  | refused answer => rfl
  | call id same => simp only [startEntry, same.route]

theorem startEntries_of_agree (agree : List.Forall₂ Entry.Agree entries entries') (relay : Relay)
    (ticket : Ticket) (first : Nat) :
    relay.startEntries ticket entries first = relay.startEntries ticket entries' first := by
  induction agree generalizing relay first with
  | nil => rfl
  | cons one _ ih => simp only [startEntries, startEntry_of_agree one, ih]

/-- Entries that agree one by one have the same effect on `relay`, and are answered the same. -/
theorem submit_of_agree (agree : List.Forall₂ Entry.Agree entries entries') (relay : Relay)
    (ticket : Ticket) (isBatch : Bool) :
    relay.submit ticket isBatch entries = relay.submit ticket isBatch entries' := by
  simp only [submit, startEntries_of_agree agree, agree.length_eq]

/-- Among any entries `before` and `after`, one of two entries that agree can stand for the
other. -/
theorem submit_among (agree : entry.Agree entry') (relay : Relay) (ticket : Ticket) (isBatch : Bool)
    (before after : List Entry) :
    relay.submit ticket isBatch (before ++ entry :: after) =
      relay.submit ticket isBatch (before ++ entry' :: after) := by
  have same (entries : List Entry) : List.Forall₂ Entry.Agree entries entries :=
    List.forall₂_same.2 fun other _ => Entry.agree_self other
  have all : List.Forall₂ Entry.Agree (before ++ entry :: after) (before ++ entry' :: after) :=
    List.rel_append (same before) (.cons agree (same after))
  exact submit_of_agree all relay ticket isBatch

/-- **Parameters by place and by name.** Let each of `Call.parameters method` be at its place in
`items` what it is under its name in `members`, or be missing in both. Then the array of `items`
and the object of `members` give the same call or the same error, whatever else stands in them, and
started alone, or submitted among any entries `before` and `after`, the requests have the same
effect on `relay` and the same answers. `Shapeless` parameters are as good as an empty array and an
empty object. -/
theorem places_and_names (relay : Relay) {method : String} {items : List Json} {members : Members}
    (agree : ∀ p ∈ Call.parameters method, items[p.1]? = Members.find? p.2 members) :
    Call.route method (some (.array items)) = Call.route method (some (.object members)) ∧
    (∀ key id, relay.startEntry key (.call id method (some (.array items))) =
      relay.startEntry key (.call id method (some (.object members)))) ∧
    (∀ ticket isBatch id before after,
      relay.submit ticket isBatch (before ++ .call id method (some (.array items)) :: after) =
        relay.submit ticket isBatch
          (before ++ .call id method (some (.object members)) :: after)) ∧
    ∀ params, Call.Shapeless params →
      ∀ empty ∈ [some (Json.array []), some (Json.object [])],
        Call.route method params = Call.route method empty ∧
        (∀ key id, relay.startEntry key (.call id method params) =
          relay.startEntry key (.call id method empty)) ∧
        ∀ ticket isBatch id before after,
          relay.submit ticket isBatch (before ++ .call id method params :: after) =
            relay.submit ticket isBatch (before ++ .call id method empty :: after) := by
  have same : Call.Agree method (some (.array items)) (some (.object members)) := agree
  refine ⟨same.route, fun key id => startEntry_of_agree (.call id same) relay key,
    fun ticket isBatch id => submit_among (.call id same) relay ticket isBatch,
    fun params shapeless empty member => ?_⟩
  -- Both kinds of empty parameters give none at any place, and shapeless ones do the same.
  have none : Call.Agree method params empty := by
    obtain ⟨inArray, inObject⟩ := shapeless.agree_empty method
    rcases List.mem_cons.1 member with rfl | member
    · exact inArray
    · rw [List.mem_singleton.1 member]
      exact inObject
  exact ⟨none.route, fun key id => startEntry_of_agree (.call id none) relay key,
    fun ticket isBatch id => submit_among (.call id none) relay ticket isBatch⟩

/-- The case of `places_and_names` for a position that is no number: both forms are refused alike,
though one has an element too many and the other a member of another method. -/
theorem places_and_names_misfit :
    Call.route "receive" (some (.array [.string "a", .null, .bool true])) =
      Call.route "receive" (some (.object
        [("channel", .string "a"), ("fromseq", .null), ("message", .bool true)])) := by
  have agree : ∀ p ∈ Call.parameters "receive",
      [Json.string "a", .null, .bool true][p.1]? =
        Members.find? p.2
          [("channel", .string "a"), ("fromseq", .null), ("message", .bool true)] := by
    intro p read
    rcases List.mem_cons.1 read with rfl | read
    · rfl
    · rw [List.mem_singleton.1 read]
      rfl
  exact (places_and_names (start .standard .silent) agree).1

end Relay

end StateChannel
