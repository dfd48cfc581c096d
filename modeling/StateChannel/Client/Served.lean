import StateChannel.Client.RelayClient
import StateChannel.Json.Render
import StateChannel.Relay.Server

/-!
# A client with its relay

A running relay as the other end of an exchange. The client waits until its request has been
answered; the clock of the relay goes on meanwhile.

## Main definitions

* `HttpResponse.reply`: a response as the client gets it
* `Relay.await`: lets time pass until a request is answered
* `Relay.exchange`: a relay as the other end of an exchange

## Main results

* `Relay.await_of_responseTo?`: what has been answered is not waited for
-/

namespace StateChannel

/-- The text of a body. -/
def HttpBody.render : HttpBody → String
  | .none => ""
  | .text s => s
  | .json value => value.render

/-- The reply that a response is to those who wait for it. -/
def HttpResponse.reply (r : HttpResponse) : Reply := .response r.status r.body.render

/-- The HTTP request in which `post` is made. -/
def Post.toHttp (post : Post) : HttpRequest where
  method := "POST"
  target := "/"
  headers :=
    ("content-length", Bytes.ofText (toString post.body.render.utf8ByteSize)) ::
      (post.authorization.map fun text => ("authorization", Bytes.ofText text)).toList
  body := post.body.render.toUTF8

namespace Relay

/-- The response to `ticket` among `finished`. -/
def responseTo? (ticket : Ticket) (finished : List Finished) : Option HttpResponse :=
  (finished.find? fun f => f.ticket == ticket).map (·.response)

/-- The response to `ticket`, after as much time as it takes. -/
def await (relay : Relay) (ticket : Ticket) (finished : List Finished) :
    Relay × Option HttpResponse :=
  match responseTo? ticket finished, relay.remaining? ticket with
  | none, some millis =>
    let (relay, finished) := relay.pass millis
    (relay, responseTo? ticket finished)
  | response, _ => (relay, response)

/-- A relay as the other end of an exchange: each post is awaited, and nothing else is done
meanwhile. -/
def exchange : Exchange Relay := fun post relay =>
  let (relay, finished) := relay.begin .foreground post.toHttp
  let (relay, response) := relay.await .foreground finished
  ((response.map HttpResponse.reply).getD .silence, relay)

theorem await_of_responseTo? {relay : Relay} {ticket : Ticket} {finished : List Finished}
    {response : HttpResponse} (h : responseTo? ticket finished = some response) :
    relay.await ticket finished = (relay, some response) := by
  simp [await, h]

end Relay

end StateChannel
