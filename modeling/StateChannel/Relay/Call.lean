import StateChannel.Relay.ApiError
import StateChannel.Relay.Slice

/-!
# Calls

The three things that a client can ask of a relay, with their parameters in order or by name.
A call is made only from parameters that fit; nothing else of the relay is looked at for that.

## Main definitions

* `Call`: what is asked
* `Call.route`: the call that a method and its parameters stand for
* `Outcome`: what a call gives
* `Entry`, `Entry.ofJson`: one request as it was sent

## Main results

* `Call.route_unknown`: an unknown method is refused whatever its parameters
-/

namespace StateChannel

/-- What is asked of a relay. -/
inductive Call
  | send (channel : String) (message : Json)
  | getSeq (channel : String)
  /-- The messages of `channel` past the position `start`. -/
  | receive (channel : String) (start : UInt64)
  deriving Repr

/-- What a call gives. -/
inductive Outcome
  | sent
  | seq (answer : SeqAnswer)
  | received (slice : Slice)
  deriving Repr

/-- The written form of what a call gives. -/
def Outcome.toJson : Outcome → Json
  | .sent => .null
  | .seq answer => answer.toJson
  | .received slice => slice.toJson

namespace Call

/-- The channel of a call. -/
def channel : Call → String
  | send channel _ => channel
  | getSeq channel => channel
  | receive channel _ => channel

/-- The parameter at `index` in an array, or under `name` in an object. -/
def param? (params : Option Json) (index : Nat) (name : String) : Option Json :=
  match params with
  | some (.array items) => items[index]?
  | some (.object members) => Members.find? name members
  | _ => none

/-- The error about the parameter `name`. -/
def badParam (name detail : String) : ApiError :=
  (ApiError.invalidParams detail).attach (Json.ofMembers [("param", .string name)])

/-- The parameter `name`, which must be there. -/
def requireParam (params : Option Json) (index : Nat) (name : String) : Except ApiError Json :=
  match param? params index name with
  | some value => .ok value
  | none => .error (badParam name ("missing parameter '" ++ name ++ "'"))

/-- The parameter `name`, which must be there and be accepted by `read`. -/
def typedParam (params : Option Json) (index : Nat) (name : String)
    (read : Json → Except Mismatch α) : Except ApiError α :=
  match requireParam params index name with
  | .error e => .error e
  | .ok value =>
    match read value with
    | .ok a => .ok a
    | .error cause => .error (badParam name ("parameter '" ++ name ++ "': " ++ cause.message))

/-- The call of `method` with `params`; the channel is looked at first. -/
def route (method : String) (params : Option Json) : Except ApiError Call :=
  match method with
  | "send" => do
    let channel ← typedParam params 0 "channel" Json.toText
    let message ← requireParam params 1 "message"
    return .send channel message
  | "getseq" => do
    let channel ← typedParam params 0 "channel" Json.toText
    return .getSeq channel
  | "receive" => do
    let channel ← typedParam params 0 "channel" Json.toText
    let start ← typedParam params 1 "fromseq" Json.toUInt64
    return .receive channel start
  | _ => .error (.methodNotFound method)

theorem route_unknown {method : String} (send : method ≠ "send") (getseq : method ≠ "getseq")
    (receive : method ≠ "receive") (params : Option Json) :
    route method params = .error (.methodNotFound method) := by
  unfold route
  split <;> simp_all

end Call

/-! ## Requests as they are sent -/

/-- The answer to `id` with the `result` of a call. -/
def resultAnswer (id result : Json) : Json :=
  Json.ofMembers [("jsonrpc", .string "2.0"), ("id", id), ("result", result)]

/-- The answer to `id` with the error `e`. -/
def errorAnswer (id : Json) (e : ApiError) : Json :=
  Json.ofMembers [("jsonrpc", .string "2.0"), ("id", id), ("error", e.toJson)]

/-- One request. -/
inductive Entry
  /-- It is no request, and gets `answer`. -/
  | refused (answer : Json)
  /-- A call of `method`; it is a notification when `id` is `none`. -/
  | call (id : Option Json) (method : String) (params : Option Json)
  deriving Repr

namespace Entry

/-- An id is a string, a number or null. -/
def IsId : Json → Prop
  | .string _ => True
  | .number _ => True
  | .null => True
  | _ => False

instance : DecidablePred IsId := fun value => by
  unfold IsId
  split <;> exact inferInstance

/-- The request that `value` stands for. The `id` is looked at before the method. -/
def ofJson (value : Json) : Entry :=
  match value with
  | .object members =>
    let id := Members.find? "id" members
    if (∀ i ∈ id, IsId i) then
      match Members.find? "method" members with
      | some (.string method) => .call id method (Members.find? "params" members)
      | _ => .refused (errorAnswer (id.getD .null) (.invalidRequest "method must be a string"))
    else .refused (errorAnswer .null (.invalidRequest "id must be string, number or null"))
  | _ => .refused (errorAnswer .null (.invalidRequest "request must be an object"))

/-- The answer to a call that has ended in `outcome`; a notification has none. -/
def answer (id : Option Json) (outcome : Except ApiError Outcome) : Option Json :=
  id.map fun id =>
    match outcome with
    | .ok outcome => resultAnswer id outcome.toJson
    | .error e => errorAnswer id e

end Entry

end StateChannel
