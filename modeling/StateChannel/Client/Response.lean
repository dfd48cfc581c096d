import StateChannel.Json.Decoder

/-!
# Responses of a relay

The envelope in which a relay answers a call, as its client reads it.

## Main definitions

* `RpcError`, `RpcResponse`: the parts of a response
* `RpcResponse.decoder`: reads a response with a result of a given type
-/

namespace StateChannel

/-- The error of a response. -/
structure RpcError where
  code : Int32
  message : String
  data : Option Json
  deriving Repr

/-- A response. -/
structure RpcResponse (α : Type) where
  id : Option Json
  result : Option α
  error : Option RpcError
  deriving Repr

/-- Reads the error of a response. -/
def RpcError.decoder : Decoder RpcError :=
  Decoder.record "JsonRpcError"
    (((Fields.required "code" Decoder.i32).and (Fields.required "message" Decoder.string)).and
      (Fields.withDefault "data" (Decoder.optional Decoder.any) none)
      |>.map fun ((code, message), data) => ⟨code, message, data⟩)

/-- Reads a response. The result may be left out of an object, but not out of an array. -/
def RpcResponse.decoder (result : Decoder α) : Decoder (RpcResponse α) :=
  Decoder.record "JsonRpcResponse"
    (((Fields.withDefault "id" (Decoder.optional Decoder.any) none).and
      (Fields.nullable "result" result)).and
      (Fields.withDefault "error" (Decoder.optional RpcError.decoder) none)
      |>.map fun ((id, result), error) => ⟨id, result, error⟩)

end StateChannel
