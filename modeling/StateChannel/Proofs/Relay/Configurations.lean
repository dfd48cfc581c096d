import StateChannel.Proofs.Json.Records
import StateChannel.Proofs.Relay.Addresses
import StateChannel.Proofs.Relay.Durations
import StateChannel.Relay.Config

/-!
# Configurations survive being written

A configuration that is written is read back as it was, as long as the milliseconds of its waiting
time fit 64 bits. A waiting time told in seconds or in minutes may have more, and then what has been
written is refused.

## Main results

* `Config.decoder_toJson`: what is read from a written configuration
* `Config.survives_writing`: which configurations are read back
* `Config.survives_writing_false`: a configuration that is accepted, but not when it comes back
-/

namespace StateChannel.Config

theorem floatFree_toJson (c : Config) : c.toJson.FloatFree := by
  refine .ofMembers fun member inside => ?_
  simp only [List.mem_cons, List.not_mem_nil, or_false] at inside
  rcases inside with rfl | rfl | rfl | rfl | rfl
  · exact .string _
  · exact .ofUInt64 _
  · exact .string _
  · exact .ofUInt64 _
  · exact .ofUInt64 _

theorem hostDecoder_text (ip : IpAddress) (depth : Nat) :
    hostDecoder depth (Node.ofJson (.string ip.text)) = .ok ip := by
  rw [hostDecoder, Decoder.parsed_string, ip.parse?_text]
  rfl

theorem durationDecoder_text (d : Duration) (depth : Nat) :
    durationDecoder depth (Node.ofJson (.string d.text)) =
      if d.millis < UInt64.size then .ok d
      else .error (.mismatch (.badText "invalid milliseconds")) := by
  have read : durationDecoder depth (Node.ofJson (.string d.text)) =
      (Duration.parse d.text).mapError refusalOf := rfl
  rw [read, d.parse_text]
  split <;> rfl

/-- `Config.decoder` reads the written `c` as `c`, or refuses its `receiveTimeout` if the
milliseconds do not fit 64 bits. -/
theorem decoder_toJson (c : Config) (depth : Nat) :
    decoder (depth + 1) (Node.ofJson c.toJson) =
      if c.receiveTimeout.millis < UInt64.size then .ok c
      else .error (.mismatch (.badText "invalid milliseconds")) := by
  obtain ⟨members, written, distinct, found⟩ : ∃ members : Members, c.toJson = .object members ∧
      (members.map Prod.fst).Nodup ∧ ∀ key, members.find? key = _ := Json.exists_ofMembers _
  have host : (Fields.withDefault "host" hostDecoder standard.host).readMembers depth none
      (Node.ofMembers members) = .ok (some c.host) :=
    Fields.readMembers_found distinct (found _) (hostDecoder_text c.host depth)
  have port : (Fields.withDefault "port" Decoder.u16 standard.port).readMembers depth none
      (Node.ofMembers members) = .ok (some c.port) :=
    Fields.readMembers_found distinct (found _) (Decoder.u16_ofUInt64 c.port depth)
  have timeout : (Fields.withDefault "receive_timeout" durationDecoder
      standard.receiveTimeout).readMembers depth none (Node.ofMembers members) =
        (durationDecoder depth (Node.ofJson (.string c.receiveTimeout.text))).map some :=
    Fields.readMembers_found distinct (found _) rfl
  have size : (Fields.withDefault "max_request_size" Decoder.size
      standard.maxRequestSize).readMembers depth none (Node.ofMembers members) =
        .ok (some c.maxRequestSize) :=
    Fields.readMembers_found distinct (found _) (Decoder.size_ofUInt64 c.maxRequestSize depth)
  have batch : (Fields.withDefault "max_batch_size" Decoder.size
      standard.maxBatchSize).readMembers depth none (Node.ofMembers members) =
        .ok (some c.maxBatchSize) :=
    Fields.readMembers_found distinct (found _) (Decoder.size_ofUInt64 c.maxBatchSize depth)
  rw [durationDecoder_text] at timeout
  -- The fields join from the left, in the order in which the record has them.
  have address := Fields.readMembers_and (by simp) host port
  rw [written, decoder]
  split at timeout
  · next fits =>
    rw [if_pos fits]
    have waiting := Fields.readMembers_and (by simp) address timeout
    exact Decoder.record_ofJson ((Fields.readMembers_map _ _).trans
      (Fields.readMembers_and (by simp) (Fields.readMembers_and (by simp) waiting size) batch))
      rfl _
  · next large =>
    rw [if_neg large]
    -- All other fields are read without a fault, so the waiting time decides.
    have waiting := Fields.readMembers_and_of_left (by simp) address timeout
    exact Decoder.record_refused ((Fields.readMembers_map _ _).trans
      (Fields.readMembers_and_of_right (by simp)
        (Fields.readMembers_and_of_right (by simp) waiting size) batch)) _

/-- **A configuration survives being written and read back** exactly when the milliseconds of its
`receiveTimeout` fit 64 bits; otherwise reading is refused for that text. -/
theorem survives_writing (c : Config) :
    Decoder.run decoder c.toJson.render =
      if c.receiveTimeout.millis < UInt64.size then .ok c
      else .error (.mismatch (.badText "invalid milliseconds")) := by
  rw [Decoder.run_render decoder c.floatFree_toJson]
  exact c.decoder_toJson (Node.maxDepth - 1)

/-- A configuration whose `receiveTimeout` has more milliseconds than fit 64 bits. -/
def patient : Config := { standard with receiveTimeout := ⟨18446744073709552000⟩ }

/-- The text in seconds is read as `patient`, which a relay accepts, and what `patient` is written
as is refused. -/
theorem survives_writing_false :
    Decoder.run decoder "\x7b\"receive_timeout\":\"18446744073709552s\"\x7d" = .ok patient ∧
    patient.check = .ok () ∧
    Decoder.run decoder patient.toJson.render =
      .error (.mismatch (.badText "invalid milliseconds")) := by
  refine ⟨by decide +kernel, rfl, ?_⟩
  rw [Decoder.run_render decoder patient.floatFree_toJson]
  exact patient.decoder_toJson (Node.maxDepth - 1)

end StateChannel.Config
