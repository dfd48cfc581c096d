import StateChannel.Relay.Call
import StateChannel.Relay.Config
import StateChannel.Relay.Target

/-!
# Requests over HTTP

Which requests a relay takes, and how it answers those that no call is made for.

## Main definitions

* `HttpRequest`, `HttpResponse`: what comes in and goes out
* `HttpRequest.route`: the resource that a request is for
* `HttpRequest.announcedLength?`, `HttpRequest.bodyLimit`: how long its body may be
* `Submission`, `Submission.ofBody`: what the body of a request asks for
* `Wording`: the words about a body that is not read, which are left open
* `BodyFault`, `BodyFault.response`: why a body is not read, and how that is answered

## Main results

* `HttpRequest.bodyLimit_le`: the limit holds whatever is announced
* `Submission.ofText_unparsable`: a text that is not JSON is no submission
-/

namespace StateChannel

/-- A request. -/
structure HttpRequest where
  method : String
  /-- What the request is for, with its query. -/
  target : String
  headers : List (String × Bytes)
  body : ByteArray

/-- The body of a response. -/
inductive HttpBody
  | none
  | text (s : String)
  | json (value : Json)
  deriving Repr

/-- A response. -/
structure HttpResponse where
  status : Nat
  contentType : Option String
  body : HttpBody
  deriving Repr

namespace HttpResponse

/-- A response without a body. -/
def bare (status : Nat) : HttpResponse := ⟨status, .none, .none⟩

/-- A response with plain text. -/
def plain (status : Nat) (s : String) : HttpResponse :=
  ⟨status, some "text/plain; charset=utf-8", .text s⟩

/-- A response with a JSON value. -/
def json (status : Nat) (value : Json) : HttpResponse :=
  ⟨status, some "application/json", .json value⟩

/-- The response without its body, for those who only ask for its head. -/
def headOnly (r : HttpResponse) : HttpResponse := { r with body := .none }

/-- The response to a request body: without answers there is nothing to send. -/
def ofAnswer : Option Json → HttpResponse
  | some value => json 200 value
  | .none => bare 204

end HttpResponse

/-- The resource that a request is for. -/
inductive Resource
  | calls
  | health (headOnly : Bool)
  | metrics (headOnly : Bool)
  | wrongMethod
  | missing
  deriving DecidableEq, Repr

/-- Only the head of the response is asked for. -/
def Resource.IsHeadOnly (resource : Resource) : Prop :=
  resource = .health true ∨ resource = .metrics true

instance (resource : Resource) : Decidable resource.IsHeadOnly :=
  inferInstanceAs (Decidable (_ ∨ _))

namespace HttpRequest

/-- The path of the target. -/
def path (r : HttpRequest) : String := Target.path r.target

/-- A resource that is only read. -/
def readOnly (r : HttpRequest) (resource : Bool → Resource) : Resource :=
  if r.method = "GET" then resource false
  else if r.method = "HEAD" then resource true
  else .wrongMethod

/-- The resource of a request; paths are compared literally. -/
def route (r : HttpRequest) : Resource :=
  match r.path with
  | "/" => if r.method = "POST" then .calls else .wrongMethod
  | "/health" => r.readOnly .health
  | "/metrics" => r.readOnly .metrics
  | _ => .missing

/-- A header that can be read as text: printable ASCII or tabs. -/
def headerText? (bs : Bytes) : Option (List Char) :=
  if bs.all fun b => (32 ≤ b && b < 127) || b == 9 then
    some (bs.map fun b => Char.ofNat b.toNat)
  else none

/-- The text of the first header called `name`, if it can be read; the case of letters does not
matter in names. -/
def header? (r : HttpRequest) (name : String) : Option (List Char) :=
  (r.headers.find? fun header => header.1.toLower == name).bind fun header => headerText? header.2

/-- The length of the body as a header announces it. -/
def announcedLength? (r : HttpRequest) : Option Nat :=
  ((r.header? "content-length").bind parseUInt64?).map (·.toNat)

/-- A body is announced that is longer than `maxRequestSize`. -/
def IsOverAnnounced (r : HttpRequest) (c : Config) : Prop :=
  ∃ n ∈ r.announcedLength?, c.maxRequestSize.toNat < n

instance (r : HttpRequest) (c : Config) : Decidable (r.IsOverAnnounced c) :=
  inferInstanceAs (Decidable (∃ n ∈ r.announcedLength?, _))

/-- How long the body may be: no longer than `maxRequestSize`, and no longer than announced. -/
def bodyLimit (r : HttpRequest) (c : Config) : Nat :=
  match r.announcedLength? with
  | some n => min c.maxRequestSize.toNat n
  | none => c.maxRequestSize.toNat

theorem bodyLimit_le (r : HttpRequest) (c : Config) : r.bodyLimit c ≤ c.maxRequestSize.toNat := by
  unfold bodyLimit
  split
  · exact Nat.min_le_left _ _
  · exact Nat.le_refl _

end HttpRequest

/-- The words of those who read a body, about what they cannot read. They are left open. -/
structure Wording where
  /-- What keeps bytes from being a text. -/
  notText : ByteArray → String
  /-- What keeps a text from being JSON. -/
  notJson : String → String

/-- Words that say nothing. -/
def Wording.silent : Wording := ⟨fun _ => "", fun _ => ""⟩

/-- Why a body is not read. -/
inductive BodyFault
  | tooLong
  /-- The bytes are no text. -/
  | notText (body : ByteArray)
  /-- The text is not JSON. -/
  | notJson (text : String)

/-- The response to a body that is not read. -/
def BodyFault.response (wording : Wording) : BodyFault → HttpResponse
  | .tooLong => .plain 413 "Failed to buffer the request body: length limit exceeded"
  | .notText body => .plain 400 ("Request body didn't contain valid UTF-8: " ++ wording.notText body)
  | .notJson text => .json 400 (errorAnswer .null (.parseError (wording.notJson text)))

/-- What the body of a request asks for. -/
inductive Submission
  /-- Nothing is asked: the whole is answered at once. -/
  | answered (response : HttpResponse)
  | single (entry : Entry)
  | batch (entries : List Entry)
  deriving Repr

namespace Submission

/-- What a JSON `value` asks for: an array is a batch, all else one request. -/
def ofJson (maxBatchSize : Nat) (value : Json) : Submission :=
  match value with
  | .array [] => .answered (.json 200 (errorAnswer .null (.invalidRequest "empty batch")))
  | .array items =>
    if maxBatchSize < items.length then
      .answered (.json 200 (errorAnswer .null (.invalidRequest
        ("batch of " ++ toString items.length ++ " exceeds limit of " ++ toString maxBatchSize))))
    else .batch (items.map Entry.ofJson)
  | value => .single (Entry.ofJson value)

/-- What a text asks for. -/
def ofText (maxBatchSize : Nat) (text : String) : Except BodyFault Submission :=
  match Json.parse? text with
  | some value => .ok (ofJson maxBatchSize value)
  | none => .error (.notJson text)

/-- What a body asks for. It is measured while it is read. -/
def ofBody (c : Config) (r : HttpRequest) : Except BodyFault Submission :=
  if r.bodyLimit c < r.body.size then .error .tooLong
  else
    match String.fromUTF8? r.body with
    | some text => ofText c.maxBatchSize.toNat text
    | none => .error (.notText r.body)

/-- What is asked for when a body has been read; one that is not read asks for nothing. -/
def ofRead (wording : Wording) : Except BodyFault Submission → Submission
  | .ok submission => submission
  | .error fault => .answered (fault.response wording)

@[simp]
theorem ofRead_ok (wording : Wording) (submission : Submission) :
    ofRead wording (.ok submission) = submission := rfl

@[simp]
theorem ofRead_error (wording : Wording) (fault : BodyFault) :
    ofRead wording (.error fault) = .answered (fault.response wording) := rfl

theorem ofText_unparsable {text : String} (h : Json.parse? text = none) (maxBatchSize : Nat) :
    ofText maxBatchSize text = .error (.notJson text) := by
  simp [ofText, h]

end Submission

end StateChannel
