import StateChannel.Relay.Http

/-!
# Spans

Every request runs within a span that names its method and its path. A header may name the
span of the caller, which the new span then follows. The status is recorded when the response
is there.

## Main definitions

* `SpanEvent`: what happens to spans
* `traceParent?`: the caller's span in a header
* `SpanEvent.opening`, `SpanEvent.closing`: the events at the two ends of a request

## Main results

* `traceParent?_eq_none_of_count`: a header with other than three dashes names no span
-/

namespace StateChannel

/-- What happens to spans. -/
inductive SpanEvent
  /-- The span of a request begins. -/
  | request (method path : String)
  /-- The span of the caller is named, and that of the request follows it. -/
  | parent (traceId spanId : String)
  /-- The status of the response is recorded. -/
  | status (code : Nat)
  deriving DecidableEq, Repr

/-- The parts of a text between dashes. -/
def splitDashes : List Char → List (List Char)
  | [] => [[]]
  | c :: rest =>
    if c = '-' then [] :: splitDashes rest
    else match splitDashes rest with
      | part :: parts => (c :: part) :: parts
      | [] => [[c]]

/-- The ids of a trace and of a span in a header of four parts. -/
def traceParent? (header : List Char) : Option (String × String) :=
  match splitDashes header with
  | [_, traceId, spanId, _] => some (String.ofList traceId, String.ofList spanId)
  | _ => none

namespace SpanEvent

/-- What happens when a request comes in. -/
def opening (r : HttpRequest) : List SpanEvent :=
  .request r.method r.path ::
    match (r.header? "traceparent").bind traceParent? with
    | some (traceId, spanId) => [.parent traceId spanId]
    | none => []

/-- What happens when a response goes out. -/
def closing (r : HttpResponse) : SpanEvent := .status r.status

end SpanEvent

theorem length_splitDashes (cs : List Char) : (splitDashes cs).length = cs.count '-' + 1 := by
  induction cs with
  | nil => rfl
  | cons c rest ih =>
    unfold splitDashes
    by_cases h : c = '-'
    · simp [h, ih]
    · rw [if_neg h, List.count_cons_of_ne h, ← ih]
      split
      · next part parts e => rw [e, List.length_cons, List.length_cons]
      · next e => rw [e] at ih; simp at ih

theorem traceParent?_eq_none_of_count {header : List Char} (dashes : header.count '-' ≠ 3) :
    traceParent? header = none := by
  unfold traceParent?
  split
  · next h =>
    have := length_splitDashes header
    rw [h] at this
    simp at this
    omega
  · rfl

end StateChannel
