import StateChannel.Relay.Call

/-!
# What parameters ask for

A call is made from a method that there is and from parameters that fit it, and from nothing else.

## Main definitions

* `Call.Given`: a parameter, by its place or by its name
* `Call.Asks`: the call that parameters ask for

## Main results

* `Call.route_eq_ok_iff`: a call is made exactly when it is asked for
* `Call.code_of_route_error`: how all others fail
-/

namespace Except

variable {ε α β : Type} {first : Except ε α} {next : α → Except ε β}

theorem bind_eq_ok_iff {b : β} :
    (first >>= next) = .ok b ↔ ∃ a, first = .ok a ∧ next a = .ok b := by
  cases first <;> simp [bind, Except.bind]

theorem bind_eq_error_iff {e : ε} :
    (first >>= next) = .error e ↔
      first = .error e ∨ ∃ a, first = .ok a ∧ next a = .error e := by
  cases first <;> simp [bind, Except.bind]

end Except

namespace StateChannel

namespace Call

/-- `value` is given as the parameter: at `index` in an array, or under `name` in an object. -/
inductive Given (index : Nat) (name : String) (value : Json) : Option Json → Prop
  | place {items : List Json} (here : items[index]? = some value) :
    Given index name value (some (.array items))
  | named {members : Members} (here : Members.find? name members = some value) :
    Given index name value (some (.object members))

/-- `params` ask `method` for a call. Whatever else they contain does not matter. -/
inductive Asks (params : Option Json) : String → Call → Prop
  | send {channel : String} {message : Json} (onto : Given 0 "channel" (.string channel) params)
    (what : Given 1 "message" message params) : Asks params "send" (.send channel message)
  | getSeq {channel : String} (of : Given 0 "channel" (.string channel) params) :
    Asks params "getseq" (.getSeq channel)
  | receive {channel : String} {start : UInt64} (of : Given 0 "channel" (.string channel) params)
    (past : Given 1 "fromseq" (Json.ofUInt64 start) params) :
    Asks params "receive" (.receive channel start)

/-- The methods that there are. -/
def methods : List String := ["send", "getseq", "receive"]

variable {params : Option Json} {index : Nat} {name : String} {value : Json}

theorem param?_eq_some_iff :
    param? params index name = some value ↔ Given index name value params := by
  constructor
  · intro found
    cases params with
    | none => exact nomatch found
    | some params =>
      cases params with
      | array items => exact .place found
      | object members => exact .named found
      | null | bool b | number n | string s => exact nomatch found
  · rintro (here | here) <;> exact here

theorem requireParam_eq_ok_iff :
    requireParam params index name = .ok value ↔ Given index name value params := by
  rw [← param?_eq_some_iff, requireParam]
  cases param? params index name <;> simp

theorem code_of_requireParam {e : ApiError} (failed : requireParam params index name = .error e) :
    e.code = -32602 := by
  rw [requireParam] at failed
  cases found : param? params index name with
  | some value =>
    rw [found] at failed
    exact nomatch failed
  | none =>
    rw [found] at failed
    rw [← Except.error.inj failed]
    rfl

theorem typedParam_eq_ok_iff {α : Type} {read : Json → Except Mismatch α} {a : α} :
    typedParam params index name read = .ok a ↔
      ∃ value, Given index name value params ∧ read value = .ok a := by
  simp only [← requireParam_eq_ok_iff, typedParam]
  cases requireParam params index name with
  | error e => simp
  | ok value => cases fits : read value <;> simp [fits]

theorem code_of_typedParam {α : Type} {read : Json → Except Mismatch α} {e : ApiError}
    (failed : typedParam params index name read = .error e) : e.code = -32602 := by
  rw [typedParam] at failed
  -- Either the parameter is missing, or it is there and does not fit its type.
  cases required : requireParam params index name with
  | error e' =>
    rw [required] at failed
    exact Except.error.inj failed ▸ code_of_requireParam required
  | ok value =>
    rw [required] at failed
    cases fits : read value with
    | ok a =>
      simp only [fits] at failed
      exact nomatch failed
    | error cause =>
      simp only [fits] at failed
      rw [← Except.error.inj failed]
      rfl

theorem text_eq_ok_iff {s : String} : value.toText = .ok s ↔ value = .string s := by
  cases value <;> simp [Json.toText]

/-- `toUInt64` reads `n` from `value` exactly when `value` is `n` written as an integer. -/
theorem uint64_eq_ok_iff {n : UInt64} : value.toUInt64 = .ok n ↔ value = Json.ofUInt64 n := by
  constructor
  · intro fits
    cases value with
    | number x =>
      cases x with
      | integer i =>
        rw [Json.toUInt64] at fits
        -- No integer of JSON is larger than 64 bits, so one that is not negative fits.
        by_cases positive : 0 ≤ i.val
        · rw [if_pos positive] at fits
          rw [← Except.ok.inj fits, Json.ofUInt64]
          obtain ⟨val, min_le, le_max⟩ := i
          have small : val.toNat < 2 ^ 64 := by
            simp only [Json.maxInteger] at le_max
            omega
          simp only [Json.number.injEq, Json.Number.integer.injEq, Json.Integer.mk.injEq]
          rw [UInt64.toNat_ofNat_of_lt' small]
          exact (Int.toNat_of_nonneg positive).symm
        · rw [if_neg positive] at fits
          exact nomatch fits
      | float x => exact nomatch fits
    | null | bool b | string s | array items | object members => exact nomatch fits
  · rintro rfl
    simp [Json.ofUInt64, Json.toUInt64]

theorem channel_eq_ok_iff {channel : String} :
    typedParam params 0 "channel" Json.toText = .ok channel ↔
      Given 0 "channel" (.string channel) params := by
  simp [typedParam_eq_ok_iff, text_eq_ok_iff]

theorem start_eq_ok_iff {start : UInt64} :
    typedParam params 1 "fromseq" Json.toUInt64 = .ok start ↔
      Given 1 "fromseq" (Json.ofUInt64 start) params := by
  simp [typedParam_eq_ok_iff, uint64_eq_ok_iff]

/-- `route` makes `call` of `method` and `params` exactly when these ask for it. -/
theorem route_eq_ok_iff {method : String} {call : Call} :
    route method params = .ok call ↔ Asks params method call := by
  constructor
  · intro routed
    unfold route at routed
    -- One case for each method, and one for all that are none.
    split at routed
    · obtain ⟨channel, onto, routed⟩ := Except.bind_eq_ok_iff.1 routed
      obtain ⟨message, what, same⟩ := Except.bind_eq_ok_iff.1 routed
      rw [← Except.ok.inj same]
      exact .send (channel_eq_ok_iff.1 onto) (requireParam_eq_ok_iff.1 what)
    · obtain ⟨channel, of, same⟩ := Except.bind_eq_ok_iff.1 routed
      rw [← Except.ok.inj same]
      exact .getSeq (channel_eq_ok_iff.1 of)
    · obtain ⟨channel, of, routed⟩ := Except.bind_eq_ok_iff.1 routed
      obtain ⟨start, past, same⟩ := Except.bind_eq_ok_iff.1 routed
      rw [← Except.ok.inj same]
      exact .receive (channel_eq_ok_iff.1 of) (start_eq_ok_iff.1 past)
    · exact nomatch routed
  · intro asks
    cases asks with
    | send onto what =>
      exact Except.bind_eq_ok_iff.2 ⟨_, channel_eq_ok_iff.2 onto,
        Except.bind_eq_ok_iff.2 ⟨_, requireParam_eq_ok_iff.2 what, rfl⟩⟩
    | getSeq of => exact Except.bind_eq_ok_iff.2 ⟨_, channel_eq_ok_iff.2 of, rfl⟩
    | receive of past =>
      exact Except.bind_eq_ok_iff.2 ⟨_, channel_eq_ok_iff.2 of,
        Except.bind_eq_ok_iff.2 ⟨_, start_eq_ok_iff.2 past, rfl⟩⟩

/-- An error of `route` has the code -32602 if `method` is one of `methods`, and -32601
otherwise. -/
theorem code_of_route_error {method : String} {e : ApiError}
    (failed : route method params = .error e) :
    e.code = if method ∈ methods then -32602 else -32601 := by
  unfold route at failed
  -- Each parameter that is read may be what fails; the call itself does not.
  split at failed
  · rw [if_pos (by decide)]
    rcases Except.bind_eq_error_iff.1 failed with channel | ⟨_, _, failed⟩
    · exact code_of_typedParam channel
    · rcases Except.bind_eq_error_iff.1 failed with message | ⟨_, _, impossible⟩
      · exact code_of_requireParam message
      · exact nomatch impossible
  · rw [if_pos (by decide)]
    rcases Except.bind_eq_error_iff.1 failed with channel | ⟨_, _, impossible⟩
    · exact code_of_typedParam channel
    · exact nomatch impossible
  · rw [if_pos (by decide)]
    rcases Except.bind_eq_error_iff.1 failed with channel | ⟨_, _, failed⟩
    · exact code_of_typedParam channel
    · rcases Except.bind_eq_error_iff.1 failed with start | ⟨_, _, impossible⟩
      · exact code_of_typedParam start
      · exact nomatch impossible
  · next send getseq receive =>
    rw [if_neg (by simp [methods]; exact ⟨send, getseq, receive⟩), ← Except.error.inj failed]
    rfl

end Call

end StateChannel
