import StateChannel.Proofs.Json.Records
import StateChannel.Relay.ApiError

/-!
# Error objects survive being written

What is written of an error object is read back as it was, with one exception: data that are null
are written, but read as no data.

## Main definitions

* `ApiError.readBack`: an error object whose data are not null

## Main results

* `ApiError.readBack_eq_self_iff`: only data that are null are lost
* `ApiError.decoder_written`: what is read from a written error object
* `ApiError.decoder_written_false`: an error object that is not read back as it was
-/

namespace StateChannel

/-- The value, or `none` where it is null. -/
def Json.unlessNull : Json → Option Json
  | .null => none
  | value => some value

theorem Json.unlessNull_of_ne_null {value : Json} (present : value ≠ .null) :
    value.unlessNull = some value := by
  cases value with
  | null => exact absurd rfl present
  | _ => rfl

theorem Json.unlessNull_eq_some_self_iff {value : Json} :
    value.unlessNull = some value ↔ value ≠ .null :=
  ⟨fun same null => by simp [null, unlessNull] at same, unlessNull_of_ne_null⟩

theorem Decoder.optional_any_ofJson {value : Json} (ordered : value.Ordered) {depth : Nat}
    (room : value.depth ≤ depth) :
    optional any depth (Node.ofJson value) = .ok value.unlessNull := by
  have read : any depth (Node.ofJson value) = .ok value :=
    (any_ofJson ordered depth).trans (if_pos room)
  by_cases null : value = .null
  · rw [null]
    rfl
  · rw [Json.unlessNull_of_ne_null null]
    exact optional_of_ne_null null read

namespace ApiError

/-- The error object `e` as it is read back: `data` that are null are gone. -/
def readBack (e : ApiError) : ApiError := { e with data := e.data.bind Json.unlessNull }

theorem readBack_eq_self_iff {e : ApiError} : e.readBack = e ↔ e.data ≠ some .null := by
  obtain ⟨code, message, data⟩ := e
  cases data with
  | none => simp [readBack]
  | some value => simp [readBack, Json.unlessNull_eq_some_self_iff]

/-- The `members` of `e.toJson`, in whatever order: `code`, `message`, and `data` if there are
any. -/
theorem exists_members (e : ApiError) : ∃ members : Members, e.toJson = .object members ∧
    (members.map Prod.fst).Nodup ∧ members.find? "code" = some (Json.ofInt32 e.code) ∧
    members.find? "message" = some (.string e.message) ∧ members.find? "data" = e.data := by
  obtain ⟨members, written, distinct, found⟩ : ∃ members : Members, e.toJson = .object members ∧
      (members.map Prod.fst).Nodup ∧ ∀ key, members.find? key = _ := Json.exists_ofMembers _
  refine ⟨members, written, distinct, ?_, ?_, ?_⟩
  · rw [found]
    cases e.data <;> rfl
  · rw [found]
    cases e.data <;> rfl
  · rw [← e.member?_data, written, Json.member?]

/-- `decoder` reads `e.toJson` as `e.readBack` if the `limit` has room for its depth. -/
theorem decoder_toJson (e : ApiError) (ordered : ∀ data ∈ e.data, data.Ordered) {limit : Nat}
    (room : e.toJson.depth ≤ limit) : decoder limit (Node.ofJson e.toJson) = .ok e.readBack := by
  obtain ⟨members, written, distinct, foundCode, foundMessage, foundData⟩ := e.exists_members
  rw [written] at room ⊢
  cases limit with
  | zero => exact absurd room (by simp [Json.depth])
  | succ depth =>
    have code : (Fields.required "code" Decoder.i32).readMembers depth none
        (Node.ofMembers members) = .ok (some e.code) :=
      Fields.readMembers_found distinct foundCode (Decoder.i32_ofInt32 e.code depth)
    have message : (Fields.required "message" Decoder.string).readMembers depth none
        (Node.ofMembers members) = .ok (some e.message) :=
      Fields.readMembers_found distinct foundMessage rfl
    have data : (Fields.withDefault "data" (Decoder.optional Decoder.any) none).readMembers depth
        none (Node.ofMembers members) = .ok (e.data.map Json.unlessNull) := by
      apply Fields.readMembers_one distinct
      rw [foundData]
      cases given : e.data with
      | none => exact .nothing none
      | some value =>
        have inside := Members.mem_of_find? (foundData.trans given)
        exact .value (Decoder.optional_any_ofJson (ordered value given)
          (Json.depth_object_le_iff.1 room _ inside))
    have always := Fields.readMembers_and (by simp) code message
    refine Decoder.record_ofJson ((Fields.readMembers_map _ _).trans
      (Fields.readMembers_and (by simp) always data)) ?_ _
    -- Without data the field takes its default, which is no data either.
    unfold readBack
    cases e.data with
    | none => rfl
    | some value => rfl

/-- **An error object survives being written and read back**, unless its `data` are null: `decoder`
reads `e.toJson` as `e.readBack`, which is `e` exactly when `e.data ≠ some .null`, and the member
`data` is written exactly when there are `data`. -/
theorem decoder_written (e : ApiError) (ordered : ∀ data ∈ e.data, data.Ordered) {limit : Nat}
    (room : e.toJson.depth ≤ limit) :
    decoder limit (Node.ofJson e.toJson) = .ok e.readBack ∧
    (e.readBack = e ↔ e.data ≠ some .null) ∧
    e.toJson.member? "data" = e.data :=
  ⟨e.decoder_toJson ordered room, e.readBack_eq_self_iff, e.member?_data⟩

theorem decoder_written_nested :
    (∀ data ∈ (attach (plain 1 "a") (.array [.null])).data, data.Ordered) ∧
    (attach (plain 1 "a") (.array [.null])).toJson.depth ≤ 2 ∧
    decoder 2 (Node.ofJson (attach (plain 1 "a") (.array [.null])).toJson) =
      .ok (attach (plain 1 "a") (.array [.null])) := by
  have ordered : ∀ data ∈ (attach (plain 1 "a") (.array [.null])).data, data.Ordered := by
    rintro data ⟨⟩
    exact .array fun item inside => List.mem_singleton.1 inside ▸ .null
  have room : (attach (plain 1 "a") (.array [.null])).toJson.depth ≤ 2 := by decide
  exact ⟨ordered, room, (decoder_written _ ordered room).1⟩

/-- The constructors make an error object that does not survive: with null `data` attached, `data`
are written, and read back as none. -/
theorem decoder_written_false :
    decoder 1 (Node.ofJson ((invalidParams "bad").attach .null).toJson) =
      .ok (invalidParams "bad") ∧
    ((invalidParams "bad").attach .null).toJson.member? "data" = some .null ∧
    (invalidParams "bad").attach .null ≠ invalidParams "bad" := by
  have ordered : ∀ data ∈ ((invalidParams "bad").attach .null).data, data.Ordered := by
    rintro data ⟨⟩
    exact .null
  exact ⟨decoder_toJson _ ordered (by decide), member?_data _,
    by simp [attach, invalidParams, plain]⟩

end ApiError

end StateChannel
