import StateChannel.Json.Decoder

/-!
# Error objects

The errors that the relay answers with: a code, a text, and optional data about the fault.

## Main definitions

* `ApiError`: error objects, with one constructor function for each code
* `ApiError.toJson`, `ApiError.decoder`: the written form

## Main results

* `ApiError.member?_data`: the data are written exactly when there are some
-/

namespace StateChannel

/-- An error object. -/
structure ApiError where
  code : Int32
  message : String
  data : Option Json
  deriving Repr

namespace ApiError

/-- An error without data. -/
def plain (code : Int32) (message : String) : ApiError := ⟨code, message, none⟩

/-- The error `e` with `data` attached. -/
def attach (e : ApiError) (data : Json) : ApiError := { e with data := some data }

/-- The code -32700: the text is not JSON, for the reason `detail`. -/
def parseError (detail : String) : ApiError := plain (-32700) ("Parse error: " ++ detail)

/-- The code -32600: the value is no request. -/
def invalidRequest (detail : String) : ApiError := plain (-32600) ("Invalid request: " ++ detail)

/-- The code -32601: there is no `method`. -/
def methodNotFound (method : String) : ApiError := plain (-32601) ("Method not found: " ++ method)

/-- The code -32602: the parameters do not fit the method. -/
def invalidParams (detail : String) : ApiError := plain (-32602) ("Invalid params: " ++ detail)

/-- The code -32603: a fault of the relay itself. -/
def internal (detail : String) : ApiError := plain (-32603) ("Internal error: " ++ detail)

/-- The wording for a log. -/
def text (e : ApiError) : String := "[" ++ toString e.code.toInt ++ "] " ++ e.message

/-- The written form; `data` are written when there are some. -/
def toJson (e : ApiError) : Json :=
  Json.ofMembers ([("code", Json.ofInt32 e.code), ("message", .string e.message)] ++
    (e.data.map (("data", ·))).toList)

/-- Reads an error object. -/
def decoder : Decoder ApiError :=
  Decoder.record "ErrorHelper"
    (((Fields.required "code" Decoder.i32).and (Fields.required "message" Decoder.string)).and
      (Fields.withDefault "data" (Decoder.optional Decoder.any) none)
      |>.map fun ((code, message), data) => ⟨code, message, data⟩)

theorem member?_data (e : ApiError) : e.toJson.member? "data" = e.data := by
  cases e with
  | mk code message data =>
    cases data <;> simp [toJson, Json.member?_ofMembers, List.lookup_cons]

end ApiError

end StateChannel
