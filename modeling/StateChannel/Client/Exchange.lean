import StateChannel.Bytes.Base64
import StateChannel.Bytes.Words
import StateChannel.Client.Request
import StateChannel.Json.Decoder

/-!
# Exchanges

A client posts a request to a server and waits for a reply. What stands at the other end is
left open: an exchange says what it replies, and how it changes.

## Main definitions

* `Post`, `Reply`, `Exchange`: what is posted, what comes back, and the other end
* `Session`: the other end together with the ids that the client gives to its requests
* `Exchange.unreachable`, `Exchange.scripted`: an end that nobody reaches, and one with
  prepared replies

## Main results

* `Exchange.unreachable_run`: what cannot be reached does not change
-/

namespace StateChannel

/-- A request as it is posted. -/
structure Post where
  /-- The header that says who posts. -/
  authorization : Option String
  body : Json
  deriving Repr

/-- What comes back. -/
inductive Reply
  /-- No connection could be made. -/
  | unreachable
  /-- Nothing came back in time. -/
  | silence
  | response (status : Nat) (body : String)
  deriving DecidableEq, Repr

/-- The other end, in a state `σ`. -/
abbrev Exchange (σ : Type) := Post → StateM σ Reply

/-- The other end of a conversation, and the id of the next request. -/
structure Session (σ : Type) where
  nextId : UInt64
  server : σ

namespace Session

variable {σ : Type}

/-- A conversation with `server` begins with the id one. -/
def start (server : σ) : Session σ := ⟨1, server⟩

/-- Takes an id; no two requests have the same. -/
def takeId : StateM (Session σ) UInt64 := fun session =>
  (session.nextId, { session with nextId := session.nextId + 1 })

/-- Posts `request` through `exchange` and waits for the reply. -/
def post (exchange : Exchange σ) (request : Post) : StateM (Session σ) Reply := fun session =>
  let (reply, server) := (exchange request).run session.server
  (reply, { session with server })

end Session

/-- The header for the name `user` and its `password`. -/
def basicAuthorization (user password : String) : String :=
  "Basic " ++ Base64.encode (Bytes.ofText (user ++ ":" ++ password))

/-- Replies that have been prepared, and the requests that were replied to, the last one first. -/
structure Script where
  replies : List (Nat × String)
  posts : List Post
  deriving Repr

namespace Exchange

/-- No connection can be made, whatever is posted. -/
def unreachable {σ : Type} : Exchange σ := fun _ => return .unreachable

/-- Gives the prepared replies in order, and none when they are used up. -/
def scripted : Exchange Script := fun request script =>
  let posts := request :: script.posts
  match script.replies with
  | [] => (.silence, ⟨[], posts⟩)
  | (status, body) :: replies => (.response status body, ⟨replies, posts⟩)

theorem unreachable_run {σ : Type} (request : Post) (state : σ) :
    (unreachable request).run state = (.unreachable, state) := rfl

end Exchange

end StateChannel
