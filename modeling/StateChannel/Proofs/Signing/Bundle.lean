import StateChannel.Proofs.Bytes.Canonical
import StateChannel.Proofs.Json.Records
import StateChannel.Proofs.Json.Refining
import StateChannel.Signing.Bundle

/-!
# Metadata and signed data survive being written

What is written of them is read back as it was. What is read from a text has the texts of its bytes
in common with that text, except that the padding of these may have been left out there.

## Main definitions

* `Metadata.Written`, `SignedData.Written`: the written forms, with the texts of the bytes

## Main results

* `Metadata.run_toJson`, `SignedData.run_toJson`: what is written is read back
* `Metadata.refined`, `SignedData.refined`: bytes are read from their texts
* `bundles_survive_writing`: what is written and what is read have the texts of the bytes in common
* `SignedData.written_unpadded`: bytes have more texts than one
-/

namespace StateChannel

namespace Base64

theorem floatFree_toJson (bs : Bytes) : (toJson bs).FloatFree := .string _

theorem decoder_toJson (bs : Bytes) (depth : Nat) :
    decoder depth (Node.ofJson (toJson bs)) = .ok bs := by
  have read : decodeUnpadded? (encode bs) = some bs :=
    decodeUnpadded?_eq_some_iff.2 (complete_encode bs)
  rw [toJson, decoder, Decoder.parsed_string, read]
  rfl

/-- `Base64.decoder` reads bytes from the texts that are their encoding when completed. -/
theorem refined : Decoder.string.RefinedBy (fun text bs => complete text = encode bs) decoder := by
  refine .parsed (fun text bs read => decodeUnpadded?_eq_some_iff.1 ?_) _
  split at read
  · next given => exact given.trans (congrArg some (Except.ok.inj read))
  · exact nomatch read

end Base64

namespace Participant

theorem floatFree_toJson (p : Participant) : p.toJson.FloatFree := by
  refine .ofMembers fun member inside => ?_
  simp only [List.mem_cons, List.not_mem_nil, or_false] at inside
  rcases inside with rfl | rfl <;> exact .string _

theorem decoder_toJson (p : Participant) (depth : Nat) :
    decoder (depth + 1) (Node.ofJson p.toJson) = .ok p := by
  obtain ⟨members, written, distinct, found⟩ := Json.exists_ofMembers
    [("name", .string p.name), ("address", .string p.address)]
  rw [toJson, written]
  exact Decoder.record_two (by decide) distinct (found "name") rfl (found "address") rfl
    "Participant" _

theorem list_toJson (ps : List Participant) (depth : Nat) :
    Decoder.list decoder (depth + 2) (Node.ofJson (.array (ps.map toJson))) = .ok ps := by
  have each (p : Participant) : decoder (depth + 1) (Node.ofJson p.toJson) = .ok (id p) :=
    p.decoder_toJson depth
  rw [Decoder.list_ofJson each, List.map_id]

end Participant

/-! ### Metadata -/

namespace Metadata

/-- The written form of metadata, with the text of the token as it stands there. -/
structure Written where
  participants : List Participant
  reinit : String
  deriving DecidableEq, Repr

/-- The written form `w` with all padding. -/
def Written.complete (w : Written) : Written := { w with reinit := Base64.complete w.reinit }

/-- Reads the written form as it stands. -/
def Written.decoder : Decoder Written :=
  Decoder.record "ChannelMetadata"
    ((Fields.required "participants" (Decoder.list Participant.decoder)).and
      (Fields.required "reinit" Decoder.string)
      |>.map fun (participants, reinit) => ⟨participants, reinit⟩)

/-- The written form that `m` is given. -/
def written (m : Metadata) : Written := ⟨m.participants, Base64.encode m.reinit⟩

theorem toJson_eq (m : Metadata) : m.toJson =
    .object [("participants", .array (m.participants.map Participant.toJson)),
      ("reinit", Base64.toJson m.reinit)] :=
  Json.ofMembers_of_keys ["participants", "reinit"] rfl (by decide)

theorem floatFree_toJson (m : Metadata) : m.toJson.FloatFree := by
  refine .ofMembers fun member inside => ?_
  simp only [List.mem_cons, List.not_mem_nil, or_false] at inside
  rcases inside with rfl | rfl
  · refine .array fun item inside => ?_
    obtain ⟨p, _, rfl⟩ := List.mem_map.1 inside
    exact p.floatFree_toJson
  · exact Base64.floatFree_toJson _

variable (m : Metadata)

theorem run_toJson : decoder.run m.toJson.render = .ok m := by
  rw [Decoder.run_render decoder m.floatFree_toJson, toJson_eq]
  exact Decoder.record_two (by decide) (by simp) rfl
    (Participant.list_toJson _ (Node.maxDepth - 3)) rfl (Base64.decoder_toJson _ _)
    "ChannelMetadata" _

theorem run_written : Written.decoder.run m.toJson.render = .ok m.written := by
  rw [Decoder.run_render Written.decoder m.floatFree_toJson, toJson_eq]
  exact Decoder.record_two (by decide) (by simp) rfl
    (Participant.list_toJson _ (Node.maxDepth - 3)) rfl rfl "ChannelMetadata" _

/-- `Metadata.decoder` reads `m` from the written forms that are `m.written` when completed. -/
theorem refined : Written.decoder.RefinedBy (fun w m => w.complete = m.written) decoder := by
  -- The participants are read in the same way, and only the token is read as bytes.
  have participants := Fields.RefinedBy.required
    (Decoder.RefinedBy.refl (Decoder.list Participant.decoder)) "participants"
  have reinit := Fields.RefinedBy.required Base64.refined "reinit"
  refine ((participants.and reinit).map fun form parts both => ?_).record "ChannelMetadata"
  obtain ⟨same, text⟩ := both
  exact congrArg₂ Written.mk same text

end Metadata

/-! ### Signed data -/

namespace SignedData

/-- The written form of signed data, with the texts of the bytes as they stand there. -/
structure Written where
  data : String
  signatures : List String
  deriving DecidableEq, Repr

/-- The written form `w` with all padding. -/
def Written.complete (w : Written) : Written :=
  ⟨Base64.complete w.data, w.signatures.map Base64.complete⟩

/-- Reads the written form as it stands. -/
def Written.decoder : Decoder Written :=
  Decoder.record "SignedData"
    ((Fields.required "data" Decoder.string).and
      (Fields.required "signatures" (Decoder.list Decoder.string))
      |>.map fun (data, signatures) => ⟨data, signatures⟩)

/-- The written form that `s` is given. -/
def written (s : SignedData) : Written := ⟨Base64.encode s.data, s.signatures.map Base64.encode⟩

theorem toJson_eq (s : SignedData) : s.toJson =
    .object [("data", Base64.toJson s.data),
      ("signatures", .array (s.signatures.map Base64.toJson))] :=
  Json.ofMembers_of_keys ["data", "signatures"] rfl (by decide)

theorem floatFree_toJson (s : SignedData) : s.toJson.FloatFree := by
  refine .ofMembers fun member inside => ?_
  simp only [List.mem_cons, List.not_mem_nil, or_false] at inside
  rcases inside with rfl | rfl
  · exact Base64.floatFree_toJson _
  · refine .array fun item inside => ?_
    obtain ⟨bs, _, rfl⟩ := List.mem_map.1 inside
    exact Base64.floatFree_toJson bs

variable (s : SignedData)

theorem run_toJson : decoder.run s.toJson.render = .ok s := by
  have each (bs : Bytes) : Base64.decoder (Node.maxDepth - 2) (Node.ofJson (Base64.toJson bs)) =
      .ok (id bs) := Base64.decoder_toJson bs _
  have signatures := Decoder.list_ofJson each s.signatures
  rw [List.map_id] at signatures
  rw [Decoder.run_render decoder s.floatFree_toJson, toJson_eq]
  exact Decoder.record_two (by decide) (by simp) rfl (Base64.decoder_toJson _ _) rfl signatures
    "SignedData" _

theorem run_written : Written.decoder.run s.toJson.render = .ok s.written := by
  have each (bs : Bytes) : Decoder.string (Node.maxDepth - 2) (Node.ofJson (Base64.toJson bs)) =
      .ok (Base64.encode bs) := rfl
  have signatures := Decoder.list_ofJson each s.signatures
  rw [Decoder.run_render Written.decoder s.floatFree_toJson, toJson_eq]
  exact Decoder.record_two (by decide) (by simp) rfl rfl rfl signatures "SignedData" _

/-- `SignedData.decoder` reads `s` from the written forms that are `s.written` when completed. -/
theorem refined : Written.decoder.RefinedBy (fun w s => w.complete = s.written) decoder := by
  have data := Fields.RefinedBy.required Base64.refined "data"
  have signatures := Fields.RefinedBy.required Base64.refined.list "signatures"
  refine ((data.and signatures).map fun form parts both => ?_).record "SignedData"
  obtain ⟨text, texts⟩ := both
  have same : List.Forall₂ Eq (form.2.map Base64.complete) (parts.2.map Base64.encode) :=
    List.forall₂_map_left_iff.2 (List.forall₂_map_right_iff.2 texts)
  rw [List.forall₂_eq_eq_eq] at same
  exact congrArg₂ Written.mk text same

/-- Padding may be left out, so the texts `AA` and `AA==` stand for one byte. The longer one is
written. -/
theorem written_unpadded :
    decoder.run "\x7b\"data\":\"AA\",\"signatures\":[]\x7d" = .ok ⟨[0], []⟩ ∧
    decoder.run "\x7b\"data\":\"AA==\",\"signatures\":[]\x7d" = .ok ⟨[0], []⟩ ∧
    (SignedData.mk [0] []).toJson.render = "\x7b\"data\":\"AA==\",\"signatures\":[]\x7d" := by
  decide +kernel

end SignedData

/-- **Metadata and signed data survive being written and read back**: `m.toJson` and `s.toJson` are
read as `m` and `s`, and their texts are those of `written`. What is read from any other `text` is,
when its padding is completed, the written form of what was read; and two base64 texts stand for
the same bytes exactly when they are the same after `Base64.complete`. -/
theorem bundles_survive_writing :
    (∀ m : Metadata, Metadata.decoder.run m.toJson.render = .ok m ∧
      Metadata.Written.decoder.run m.toJson.render = .ok m.written) ∧
    (∀ s : SignedData, SignedData.decoder.run s.toJson.render = .ok s ∧
      SignedData.Written.decoder.run s.toJson.render = .ok s.written) ∧
    (∀ text m, Metadata.decoder.run text = .ok m →
      ∃ w, Metadata.Written.decoder.run text = .ok w ∧ w.complete = m.written) ∧
    (∀ text s, SignedData.decoder.run text = .ok s →
      ∃ w, SignedData.Written.decoder.run text = .ok w ∧ w.complete = s.written) ∧
    ∀ text other bs bs', Base64.decodeUnpadded? text = some bs →
      Base64.decodeUnpadded? other = some bs' →
      (Base64.complete text = Base64.complete other ↔ bs = bs') :=
  ⟨fun m => ⟨m.run_toJson, m.run_written⟩, fun s => ⟨s.run_toJson, s.run_written⟩,
    Metadata.refined.run, SignedData.refined.run, fun _ _ _ _ => Base64.complete_inj⟩

theorem bundles_survive_writing_unpadded :
    (∃ w, Metadata.Written.decoder.run "[[],\"AAE\"]" = .ok w ∧
      w.complete = Metadata.written ⟨[], [0, 1]⟩) ∧
    (∃ w, SignedData.Written.decoder.run "[\"\",[\"AA\"]]" = .ok w ∧
      w.complete = SignedData.written ⟨[], [[0]]⟩) ∧
    (Base64.complete "AA" = Base64.complete "AA=" ↔ [(0 : UInt8)] = [0]) :=
  ⟨bundles_survive_writing.2.2.1 _ _ (by decide +kernel),
    bundles_survive_writing.2.2.2.1 _ _ (by decide +kernel),
    bundles_survive_writing.2.2.2.2 _ _ _ _ (by decide) (by decide)⟩

end StateChannel
