import StateChannel.Proofs.Json.Shape
import StateChannel.Proofs.Relay.Operations

/-!
# The messages that a relay has

A message is part of the text in which it was sent, so whatever holds of all parts of a text that
has been read holds of every message in a log: it is in order, and leaves room for what stood around
it.

## Main results

* `Entry.within_of_call?`: two containers stand around a message in the request that sends it
* `Relay.within_of_mem_logOf`: what holds of every message that a relay has
-/

namespace StateChannel

namespace Call

variable {method channel : String} {params : Option Json} {message : Json}

theorem within_of_param? {index limit : Nat} {name : String}
    (within : ∀ value ∈ params, value.Within (limit + 1))
    (given : param? params index name = some message) : message.Within limit := by
  unfold param? at given
  split at given
  · next items => exact (within _ rfl).of_mem_array (List.mem_of_getElem? given)
  · next members => exact (within _ rfl).of_mem_object (Members.mem_of_find? given)
  · exact nomatch given

/-- The `message` of a `.send` is the second of its parameters. -/
theorem param?_of_route (routed : route method params = .ok (.send channel message)) :
    param? params 1 "message" = some message := by
  have bound {α : Type} {x : Except ApiError α} {next : α → Except ApiError Call} {call : Call}
      (whole : x >>= next = .ok call) : ∃ a, x = .ok a ∧ next a = .ok call := by
    cases x with
    | error e => exact nomatch whole
    | ok a => exact ⟨a, rfl, whole⟩
  -- Of the methods only `send` makes a call that sends, and its second parameter is the message.
  unfold route at routed
  split at routed
  · obtain ⟨name, -, routed⟩ := bound routed
    obtain ⟨value, required, routed⟩ := bound routed
    obtain ⟨-, rfl⟩ : name = channel ∧ value = message := by simpa [pure, Except.pure] using routed
    unfold requireParam at required
    split at required
    · next given => exact given.trans (congrArg some (Except.ok.inj required))
    · exact nomatch required
  · obtain ⟨name, -, routed⟩ := bound routed
    exact nomatch routed
  · obtain ⟨name, -, routed⟩ := bound routed
    obtain ⟨start, -, routed⟩ := bound routed
    exact nomatch routed
  · exact nomatch routed

end Call

/-- The `message` of a `.send` has two levels of room less than the `value` of its request. -/
theorem Entry.within_of_call? {limit : Nat} {value : Json} (within : value.Within (limit + 2))
    {channel : String} {message : Json}
    (asked : (ofJson value).call? = some (.send channel message)) : message.Within limit := by
  -- A request is an object, and its parameters are a member of it: two levels for the message.
  unfold ofJson at asked
  split at asked
  · next members =>
    dsimp only at asked
    split at asked
    · split at asked
      · next method _ =>
        have routed : Call.route method (Members.find? "params" members) =
            .ok (.send channel message) := by
          cases routed : Call.route method (Members.find? "params" members) with
          | error e => simp [call?, routed, Except.toOption] at asked
          | ok call => simpa [call?, routed, Except.toOption] using asked
        exact Call.within_of_param?
          (fun params found => within.of_mem_object (Members.mem_of_find? found))
          (Call.param?_of_route routed)
      · cases asked
    · cases asked
  · cases asked

/-- An entry of a submission that `ofText` reads is made from a `value` within `maxDepth`. -/
theorem Submission.within_of_mem_entries {maxBatchSize : Nat} {text : String} {entry : Entry}
    {submission : Submission} (read : ofText maxBatchSize text = .ok submission)
    (inside : entry ∈ submission.entries) :
    ∃ value : Json, value.Within Node.maxDepth ∧ entry = Entry.ofJson value := by
  unfold ofText at read
  split at read
  · next value parsed =>
    obtain rfl := Except.ok.inj read
    have within := Json.within_of_parse? parsed
    unfold ofJson at inside
    split at inside
    · exact nomatch inside
    · split at inside
      · exact nomatch inside
      · -- An item of a batch has one level less than the text.
        obtain ⟨item, member, rfl⟩ := List.mem_map.1 inside
        have held : item.Within (Node.maxDepth - 1) := within.of_mem_array member
        exact ⟨item, ⟨held.ordered, Nat.le_trans held.room (Nat.sub_le _ _)⟩, rfl⟩
    · exact ⟨value, within, List.mem_singleton.1 inside⟩
  · exact nomatch read

theorem Traffic.within_of_mem_entries {config : Config} {request : HttpRequest} {entry : Entry}
    (inside : entry ∈ Traffic.entries config request) :
    ∃ value : Json, value.Within Node.maxDepth ∧ entry = Entry.ofJson value := by
  unfold Traffic.entries at inside
  split at inside
  · exact nomatch inside
  · split at inside
    · split at inside
      · next submission read =>
        unfold Submission.ofBody at read
        split at read
        · exact nomatch read
        · split at read
          · exact Submission.within_of_mem_entries read inside
          · exact nomatch read
      · exact nomatch inside
    · exact nomatch inside

namespace Relay

/-- Every `message` in the log of a relay that has been reached was sent in a text: it is within
`Node.maxDepth - 2`, for two containers stood around it. -/
theorem within_of_mem_logOf (config : Config) (wording : Wording) {operations : List Operation}
    (admits : (start config wording).Admits operations) {channel : String} {message : Json}
    (inside : message ∈
      (((start config wording).operateAll operations).1.timeline.registry.logOf channel).toList) :
    message.Within (Node.maxDepth - 2) := by
  obtain ⟨events, same, asked, -⟩ := exists_traffic config wording admits
  obtain ⟨moves, reached, stored⟩ := Traffic.exists_moves config events
  have sound := Traffic.sound_run (Traffic.sound_start config) events
  -- The message was stored by a call, which was made for a part of a text.
  have kept : message ∈ Stored.messagesOn channel ((Traffic.start config).history events) := by
    have log := Traffic.toList_log_run (Traffic.sound_start config) events channel
    rw [same] at inside
    rw [Traffic.log] at log
    rw [log] at inside
    exact inside
  obtain ⟨entry, member, rfl⟩ := List.mem_map.1 kept
  obtain ⟨member, -⟩ := List.mem_filter.1 member
  rw [stored, Interleaving.mem_history_iff] at member
  obtain ⟨stage, found, -⟩ := member
  obtain ⟨place, ⟨part, present, made⟩, -⟩ := Traffic.existsUnique_part sound (reached ▸ found)
  have partInside := List.mem_of_getElem? present
  have called := sound.entries part partInside
  rw [made] at called
  have origin := List.mem_map_of_mem (f := Part.entry) partInside
  rw [asked] at origin
  obtain ⟨operation, -, origin⟩ := List.mem_flatMap.1 origin
  cases operation with
  | begin ticket request =>
    obtain ⟨value, within, entry⟩ := Traffic.within_of_mem_entries origin
    exact Entry.within_of_call? within (entry ▸ called.symm)
  | abort ticket => cases origin
  | pass millis => cases origin

end Relay

end StateChannel
