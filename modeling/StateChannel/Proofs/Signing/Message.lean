import Mathlib.Data.List.Basic
import StateChannel.Proofs.Signing.ChannelId
import StateChannel.Signing.Message

/-!
# A message says what is signed

The fields of a message are free text in labelled lines, so that one field may look like another
with its label, or like several lines. A message is read back nevertheless: no field breaks its
line, hence the text falls into the six lines that it was made of, and each line starts with the
label of its place.

## Main definitions

* `Signing.StaysOnLine`: free of line feeds

## Main results

* `Signing.compose_eq_ok_iff`: which arguments are accepted, and what becomes of them
* `Signing.joinLines_injOn`: a text falls into one list of lines
* `Signing.eq_of_messageLines_eq`: the lines determine the fields
* `Signing.compose_binds`: a message determines its fields, and the data up to its digest
-/

namespace StateChannel

namespace Signing

/-! ### What is accepted -/

theorem checkLine_eq_ok_iff {field : LineField} {text : String} :
    checkLine field text = .ok () ↔ IsSingleLine text := by
  unfold checkLine
  split
  · next single => exact iff_of_true rfl single
  · next broken => exact iff_of_false (fun accepted => nomatch accepted) broken

/-- `compose` makes a `text` exactly when `channel` has 32 bytes and both `gameId` and `topic` stay
on their lines. -/
theorem compose_eq_ok_iff {gameId topic text : String} {channel reinit data : Bytes} :
    compose gameId channel reinit topic data = .ok text ↔
      ∃ id : ChannelId, id.bytes = channel ∧ IsSingleLine gameId ∧ IsSingleLine topic ∧
        joinLines (messageLines gameId id reinit topic data) = text := by
  constructor
  · -- The three checks are made one after the other, and each can stop the rest.
    intro accepted
    unfold compose at accepted
    cases first : ChannelId.ofBytes channel with
    | error e =>
      rw [first] at accepted
      exact nomatch accepted
    | ok id =>
      cases second : checkLine .gameId gameId with
      | error e =>
        rw [first, second] at accepted
        exact nomatch accepted
      | ok game =>
        cases third : checkLine .topic topic with
        | error e =>
          rw [first, second, third] at accepted
          exact nomatch accepted
        | ok line =>
          rw [first, second, third] at accepted
          exact ⟨id, ChannelId.ofBytes_eq_ok_iff.1 first, checkLine_eq_ok_iff.1 second,
            checkLine_eq_ok_iff.1 third, Except.ok.inj accepted⟩
  · rintro ⟨id, rfl, game, line, rfl⟩
    exact compose_eq_ok game line id reinit data

/-! ### Lines -/

/-- A text without a line feed. -/
def StaysOnLine (text : String) : Prop := '\n' ∉ text.toList

theorem IsSingleLine.staysOnLine {text : String} (single : IsSingleLine text) :
    StaysOnLine text := by
  intro member
  exact (single '\n' member).1 rfl

theorem staysOnLine_hex (bs : Bytes) : StaysOnLine (Hex.encode bs) := by
  intro member
  have digit := Hex.isDigit_of_mem_text member
  exact absurd digit (by decide)

theorem staysOnLine_base64 (bs : Bytes) : StaysOnLine (Base64.encode bs) := by
  intro member
  rw [Base64.encode, String.toList_ofList] at member
  have symbol := Base64.isSymbol_of_mem_encodeChars member
  rcases symbol with digit | padding
  · exact absurd digit (by decide)
  · exact absurd padding (by decide)

theorem StaysOnLine.append {label text : String} (first : StaysOnLine label)
    (second : StaysOnLine text) : StaysOnLine (label ++ text) := by
  rw [StaysOnLine, String.toList_append, List.mem_append]
  exact not_or.2 ⟨first, second⟩

theorem staysOnLine_of_mem_messageLines {gameId topic : String} (game : IsSingleLine gameId)
    (line : IsSingleLine topic) (channel : ChannelId) (reinit data : Bytes) {text : String}
    (member : text ∈ messageLines gameId channel reinit topic data) : StaysOnLine text := by
  simp only [messageLines, List.mem_cons, List.not_mem_nil, or_false] at member
  -- A heading, and then each field behind its label.
  rcases member with rfl | rfl | rfl | rfl | rfl | rfl
  · unfold StaysOnLine
    decide
  · exact .append (by unfold StaysOnLine; decide) game.staysOnLine
  · exact .append (by unfold StaysOnLine; decide) (staysOnLine_hex _)
  · exact .append (by unfold StaysOnLine; decide) (staysOnLine_base64 _)
  · exact .append (by unfold StaysOnLine; decide) line.staysOnLine
  · exact .append (by unfold StaysOnLine; decide) (staysOnLine_hex _)

/-- Joined `lines` without line feeds are split into the same lines again. -/
theorem splitOn_joinLines {lines : List String} (nonempty : lines ≠ [])
    (single : ∀ line ∈ lines, StaysOnLine line) :
    (joinLines lines).toList.splitOn '\n' = lines.map String.toList := by
  rw [joinLines, String.toList_ofList]
  apply List.splitOn_intercalate
  · intro chars member
    obtain ⟨line, inside, rfl⟩ := List.mem_map.1 member
    exact single line inside
  · intro empty
    exact nonempty (List.map_eq_nil_iff.1 empty)

theorem joinLines_injOn {lines others : List String} (nonempty : lines ≠ [])
    (nonempty' : others ≠ []) (single : ∀ line ∈ lines, StaysOnLine line)
    (single' : ∀ line ∈ others, StaysOnLine line) (same : joinLines lines = joinLines others) :
    lines = others := by
  have split : lines.map String.toList = others.map String.toList := by
    rw [← splitOn_joinLines nonempty single, same, splitOn_joinLines nonempty' single']
  exact List.map_injective_iff.2 (fun _ _ => String.toList_injective) split

/-! ### Fields -/

theorem eq_of_messageLines_eq {gameId gameId' topic topic' : String} {channel channel' : ChannelId}
    {reinit reinit' data data' : Bytes}
    (same : messageLines gameId channel reinit topic data =
      messageLines gameId' channel' reinit' topic' data') :
    gameId = gameId' ∧ channel = channel' ∧ reinit = reinit' ∧ topic = topic' ∧
      Sha256.digest data = Sha256.digest data' := by
  -- Each line starts with the label of its place, so what follows the labels is the same.
  simp only [messageLines, List.cons.injEq, String.append_right_inj, true_and, and_true] at same
  obtain ⟨game, id, epoch, line, digest⟩ := same
  exact ⟨game, ChannelId.toHex_injective id, Base64.encode_injective epoch, line,
    Hex.encode_injective digest⟩

/-- If two accepted tuples have the same joined lines, their fields are the same, `data` and
`data'` up to their digests. -/
theorem eq_of_joinLines_eq {gameId gameId' topic topic' : String} {channel channel' : ChannelId}
    {reinit reinit' data data' : Bytes} (game : IsSingleLine gameId) (line : IsSingleLine topic)
    (game' : IsSingleLine gameId') (line' : IsSingleLine topic')
    (same : joinLines (messageLines gameId channel reinit topic data) =
      joinLines (messageLines gameId' channel' reinit' topic' data')) :
    gameId = gameId' ∧ channel = channel' ∧ reinit = reinit' ∧ topic = topic' ∧
      Sha256.digest data = Sha256.digest data' := by
  apply eq_of_messageLines_eq
  refine joinLines_injOn (List.cons_ne_nil _ _) (List.cons_ne_nil _ _) ?_ ?_ same
  · intro text member
    exact staysOnLine_of_mem_messageLines game line channel reinit data member
  · intro text member
    exact staysOnLine_of_mem_messageLines game' line' channel' reinit' data' member

/-- **A message binds every field.** `compose` accepts exactly the arguments whose `channel` has 32
bytes and whose `gameId` and `topic` are single lines, and two accepted tuples with the same `text`
agree in all fields, with `data` and `data'` up to their digests. -/
theorem compose_binds :
    (∀ (gameId topic : String) (channel reinit data : Bytes),
      (∃ text, compose gameId channel reinit topic data = .ok text) ↔
        channel.length = 32 ∧ IsSingleLine gameId ∧ IsSingleLine topic) ∧
    ∀ (gameId gameId' topic topic' : String) (channel channel' reinit reinit' data data' : Bytes)
      (text : String),
      compose gameId channel reinit topic data = .ok text →
      compose gameId' channel' reinit' topic' data' = .ok text →
      gameId = gameId' ∧ channel = channel' ∧ reinit = reinit' ∧ topic = topic' ∧
        Sha256.digest data = Sha256.digest data' := by
  constructor
  · intro gameId topic channel reinit data
    constructor
    · rintro ⟨text, accepted⟩
      obtain ⟨id, rfl, game, line, _⟩ := compose_eq_ok_iff.1 accepted
      exact ⟨id.length_eq, game, line⟩
    · rintro ⟨length, game, line⟩
      exact ⟨_, compose_eq_ok game line ⟨channel, length⟩ reinit data⟩
  · intro gameId gameId' topic topic' channel channel' reinit reinit' data data' text first second
    obtain ⟨id, rfl, game, line, made⟩ := compose_eq_ok_iff.1 first
    obtain ⟨id', rfl, game', line', made'⟩ := compose_eq_ok_iff.1 second
    -- The text tells its fields, and of the data its hash.
    obtain ⟨sameGame, rfl, rest⟩ :=
      eq_of_joinLines_eq game line game' line' (made.trans made'.symm)
    exact ⟨sameGame, rfl, rest⟩

/-- The case of `compose_binds` for a game id that goes on like a topic: it does not stand for the
other game with that topic. -/
theorem compose_binds_lookalike :
    (∃ text, compose "chess" (List.replicate 32 0) [1] "Topic: move" [2] = .ok text) ∧
    (∃ text, compose "chess Topic: move" (List.replicate 32 0) [1] "" [2] = .ok text) ∧
    compose "chess" (List.replicate 32 0) [1] "Topic: move" [2] ≠
      compose "chess Topic: move" (List.replicate 32 0) [1] "" [2] := by
  have accepted : ∃ text, compose "chess" (List.replicate 32 0) [1] "Topic: move" [2] = .ok text :=
    (compose_binds.1 _ _ _ _ _).2 ⟨rfl, by decide, by decide⟩
  have accepted' :
      ∃ text, compose "chess Topic: move" (List.replicate 32 0) [1] "" [2] = .ok text :=
    (compose_binds.1 _ _ _ _ _).2 ⟨rfl, by decide, by decide⟩
  refine ⟨accepted, accepted', ?_⟩
  intro same
  obtain ⟨text, made⟩ := accepted
  obtain ⟨game, _⟩ := compose_binds.2 _ _ _ _ _ _ _ _ _ _ text made (same ▸ made)
  exact absurd game (by decide)

end Signing

end StateChannel
