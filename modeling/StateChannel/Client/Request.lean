import StateChannel.Json.Basic

/-!
# Requests of a client

The envelope in which a client calls a relay. A request without an id is a notification.

## Main definitions

* `RpcRequest`, `RpcRequest.toJson`: a request and its written form

## Main results

* `RpcRequest.member?_id`: a notification has no id member
-/

namespace StateChannel

/-- A call of a method. -/
structure RpcRequest where
  method : String
  params : Json
  id : Option UInt64
  deriving Repr

namespace RpcRequest

/-- The written form; the id is written when there is one. -/
def toJson (r : RpcRequest) : Json :=
  Json.ofMembers
    ([("jsonrpc", .string "2.0"), ("method", .string r.method), ("params", r.params)] ++
      (r.id.map fun id => ("id", Json.ofUInt64 id)).toList)

theorem member?_id (r : RpcRequest) : r.toJson.member? "id" = r.id.map Json.ofUInt64 := by
  cases r with
  | mk method params id =>
    cases id <;> simp [toJson, Json.member?_ofMembers, List.lookup_cons]

end RpcRequest

end StateChannel
