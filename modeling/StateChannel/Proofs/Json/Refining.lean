import Mathlib.Data.List.Forall2
import StateChannel.Json.Decoder

/-!
# Readers that refine each other

One reader refines another if the other reads whatever the first reads, and the two values belong
together. So a reader of bytes refines the reader of their texts. Lists and records refine each
other item by item and field by field, from an object as from an array.

## Main definitions

* `Except.Follows`: an outcome succeeds whenever another does, with related values
* `Decoder.RefinedBy`: what one reader reads, another reads too
* `Fields.RefinedBy`: the same of the fields of a record

## Main results

* `Decoder.RefinedBy.list`, `Fields.RefinedBy.record`: lists and records refine each other
* `Decoder.RefinedBy.run`: what a finer reader makes of a text
-/

namespace StateChannel

variable {α β γ δ ε ι : Type}

/-- Whenever `y` is a success, `x` is one too, and their values are `related`. -/
def Except.Follows (related : α → β → Prop) (x : Except ε α) (y : Except ε β) : Prop :=
  ∀ b, y = .ok b → ∃ a, x = .ok a ∧ related a b

namespace Except.Follows

variable {related : α → β → Prop} {related' : γ → δ → Prop} {x : Except ε α} {y : Except ε β}

theorem ok {a : α} {b : β} (both : related a b) :
    Follows related (.ok a : Except ε α) (.ok b) := by
  rintro b' ⟨⟩
  exact ⟨a, rfl, both⟩

theorem error (e : ε) : Follows related x (.error e) := fun _ => nofun

theorem bind {f : α → Except ε γ} {g : β → Except ε δ} (first : Follows related x y)
    (next : ∀ a b, related a b → Follows related' (f a) (g b)) :
    Follows related' (x >>= f) (y >>= g) := by
  intro d done
  cases y with
  | error e => exact nomatch done
  | ok b =>
    obtain ⟨a, rfl, both⟩ := first b rfl
    exact next a b both d done

theorem map {f : α → γ} {g : β → δ} (first : Follows related x y)
    (next : ∀ a b, related a b → related' (f a) (g b)) :
    Follows related' (x.map f) (y.map g) := by
  intro d done
  cases y with
  | error e => exact nomatch done
  | ok b =>
    obtain ⟨a, rfl, both⟩ := first b rfl
    obtain rfl := Except.ok.inj done
    exact ⟨f a, rfl, next a b both⟩

/-- If `f` and `g` follow each other on each item, they do on a list of `ι`. -/
theorem mapM {f : ι → Except ε α} {g : ι → Except ε β}
    (each : ∀ item, Follows related (f item) (g item)) (items : List ι) :
    Follows (List.Forall₂ related) (items.mapM f) (items.mapM g) := by
  induction items with
  | nil => exact .ok .nil
  | cons item items ih =>
    rw [List.mapM_cons, List.mapM_cons]
    exact (each item).bind fun a b both => ih.bind fun as bs others => .ok (.cons both others)

end Except.Follows

/-- What the `finer` reader reads, the `coarser` one reads too, and `meaning` relates the two
values. -/
def Decoder.RefinedBy (meaning : α → β → Prop) (coarser : Decoder α) (finer : Decoder β) : Prop :=
  ∀ depth node, Except.Follows meaning (coarser depth node) (finer depth node)

/-! ### Fields -/

section Tables

variable {σ τ : Type}

/-- Two fields of one name, whose `drafts` stay related as they are read. -/
structure Field.RefinedBy (drafts : σ → τ → Prop) (coarser : Field σ) (finer : Field τ) : Prop where
  name : coarser.name = finer.name
  isSet {draft : σ} {draft' : τ} : drafts draft draft' → coarser.isSet draft = finer.isSet draft'
  read {draft : σ} {draft' : τ} (depth : Nat) (node : Node) : drafts draft draft' →
    Except.Follows drafts (coarser.read depth node draft) (finer.read depth node draft')

variable {drafts : σ → τ → Prop} {table : List (Field σ)} {table' : List (Field τ)}

theorem Field.RefinedBy.find? (tables : List.Forall₂ (Field.RefinedBy drafts) table table')
    (key : String) : Option.Rel (Field.RefinedBy drafts)
      (table.find? fun field => field.name == key)
      (table'.find? fun field => field.name == key) := by
  induction tables with
  | nil => exact .none
  | @cons field field' table table' both others ih =>
    rw [List.find?_cons, List.find?_cons, both.name]
    cases field'.name == key with
    | true => exact .some both
    | false => exact ih

/-- Reading the elements of an array in order keeps `drafts` related, and leaves the same for
both. -/
theorem Field.RefinedBy.readElements (tables : List.Forall₂ (Field.RefinedBy drafts) table table')
    (depth : Nat) (nodes : List Node) {draft : σ} {draft' : τ} (both : drafts draft draft') :
    Except.Follows (fun read read' => drafts read.1 read'.1 ∧ read.2 = read'.2)
      (Fields.readElements depth draft table nodes)
      (Fields.readElements depth draft' table' nodes) := by
  induction tables generalizing draft draft' nodes with
  | nil =>
    cases nodes with
    | nil => exact .ok ⟨both, rfl⟩
    | cons node nodes => exact .ok ⟨both, rfl⟩
  | @cons field field' table table' fields others ih =>
    -- A list may end before the fields do, and those that are left keep what they have.
    cases nodes with
    | nil => exact .ok ⟨both, rfl⟩
    | cons node nodes =>
      rw [Fields.readElements, Fields.readElements]
      cases taken : field'.read depth node draft' with
      | error refusal => exact .error _
      | ok next' =>
        obtain ⟨next, taken', both⟩ := fields.read depth node both next' taken
        rw [taken']
        exact ih nodes both

end Tables

/-- The fields of two records with the same names, which are read together into values that
`meaning` relates. -/
structure Fields.RefinedBy (coarser : Fields α) (finer : Fields β)
    (drafts : coarser.Draft → finer.Draft → Prop) (meaning : α → β → Prop) : Prop where
  empty : drafts coarser.empty finer.empty
  table : List.Forall₂ (Field.RefinedBy drafts) coarser.table finer.table
  finish {draft : coarser.Draft} {draft' : finer.Draft} (form : RecordForm) (index : Nat) :
    drafts draft draft' →
    Except.Follows meaning (coarser.finish form index draft) (finer.finish form index draft')

namespace Fields.RefinedBy

variable {meaning : α → β → Prop} {meaning' : γ → δ → Prop}

theorem required {coarser : Decoder α} {finer : Decoder β}
    (refined : coarser.RefinedBy meaning finer) (name : String) :
    (Fields.required name coarser).RefinedBy (Fields.required name finer) (Option.Rel meaning)
      meaning where
  empty := .none
  table := by
    refine .cons ⟨rfl, ?_, ?_⟩ .nil
    · rintro _ _ (both | _) <;> rfl
    · intro draft draft' depth node _
      exact (refined depth node).map fun a b both => .some both
  finish form index := by
    rintro (both | _)
    · exact .ok both
    · cases form <;> exact .error _

variable {f : Fields α} {f' : Fields β} {g : Fields γ} {g' : Fields δ}
  {drafts : f.Draft → f'.Draft → Prop} {drafts' : g.Draft → g'.Draft → Prop}

theorem and (left : f.RefinedBy f' drafts meaning) (right : g.RefinedBy g' drafts' meaning') :
    (f.and g).RefinedBy (f'.and g') (fun d d' => drafts d.1 d'.1 ∧ drafts' d.2 d'.2)
      (fun a b => meaning a.1 b.1 ∧ meaning' a.2 b.2) where
  empty := ⟨left.empty, right.empty⟩
  table := by
    refine List.rel_append ?_ ?_
    · refine List.forall₂_map_left_iff.2 (List.forall₂_map_right_iff.2 (left.table.imp ?_))
      intro field field' fields
      refine ⟨fields.name, fun both => fields.isSet both.1, fun depth node both => ?_⟩
      exact (fields.read depth node both.1).map fun next next' inner => ⟨inner, both.2⟩
    · refine List.forall₂_map_left_iff.2 (List.forall₂_map_right_iff.2 (right.table.imp ?_))
      intro field field' fields
      refine ⟨fields.name, fun both => fields.isSet both.2, fun depth node both => ?_⟩
      exact (fields.read depth node both.2).map fun next next' inner => ⟨both.1, inner⟩
  finish form index both := by
    -- The index only tells which field is missing, but both tables count alike anyway.
    have length : f.table.length = f'.table.length := left.table.length_eq
    refine (left.finish form index both.1).bind fun a b first => ?_
    rw [length]
    exact (right.finish form _ both.2).bind fun a b second => .ok ⟨first, second⟩

theorem map {make : α → γ} {make' : β → δ} (refined : f.RefinedBy f' drafts meaning)
    (same : ∀ a b, meaning a b → meaning' (make a) (make' b)) :
    (f.map make).RefinedBy (f'.map make') drafts meaning' where
  empty := refined.empty
  table := refined.table
  finish form index both := (refined.finish form index both).map same

theorem readMembers (refined : f.RefinedBy f' drafts meaning) (depth : Nat)
    (members : List (Option String × Node)) {draft : f.Draft} {draft' : f'.Draft}
    (both : drafts draft draft') :
    Except.Follows drafts (f.readMembers depth draft members)
      (f'.readMembers depth draft' members) := by
  induction members generalizing draft draft' with
  | nil => exact .ok both
  | cons member members ih =>
    obtain ⟨_ | key, node⟩ := member
    · exact .error _
    · rw [Fields.readMembers, Fields.readMembers]
      -- Both tables have a field of this name, or neither has.
      have found := Field.RefinedBy.find? refined.table key
      generalize f.table.find? _ = field, f'.table.find? _ = field' at found ⊢
      cases found with
      | none =>
        cases node.isWhole with
        | true => exact ih both
        | false => exact .error _
      | @some field field' fields =>
        simp only [fields.isSet both]
        split
        · exact .error _
        · cases taken : field'.read depth node draft' with
          | error refusal => exact .error _
          | ok next' =>
            obtain ⟨next, taken', both⟩ := fields.read depth node both next' taken
            rw [taken']
            exact ih both

end Fields.RefinedBy

/-! ### Readers -/

theorem Decoder.unexpected_ne_ok (expected : String) (node : Node) {a : α} :
    unexpected expected node ≠ .ok a := by
  unfold unexpected
  split <;> exact nofun

/-- A node that `parsed` reads is a text that `parse` accepts. -/
theorem Decoder.eq_of_parsed {expected : String} {parse : String → Except String α} {depth : Nat}
    {node : Node} {a : α} (read : parsed expected parse depth node = .ok a) :
    ∃ s, node = .string (some s) ∧ parse s = .ok a := by
  unfold parsed text at read
  split at read
  · next s =>
    refine ⟨s, rfl, ?_⟩
    cases made : parse s with
    | error message => simp [made, bind, Except.bind] at read
    | ok made' => simpa [made, bind, Except.bind] using read
  · cases refused : (unexpected expected node : Except Refusal String) with
    | error refusal => simp [refused, bind, Except.bind] at read
    | ok s => exact absurd refused (unexpected_ne_ok _ _)

namespace Decoder.RefinedBy

variable {meaning : α → β → Prop} {coarser : Decoder α} {finer : Decoder β}

theorem refl (decode : Decoder α) : decode.RefinedBy Eq decode :=
  fun _ _ a read => ⟨a, read, rfl⟩

theorem parsed {parse : String → Except String β} {meaning : String → β → Prop}
    (means : ∀ s b, parse s = .ok b → meaning s b) (expected : String) :
    string.RefinedBy meaning (Decoder.parsed expected parse) := by
  intro depth node b read
  obtain ⟨s, rfl, made⟩ := eq_of_parsed read
  exact ⟨s, rfl, means s b made⟩

theorem list (refined : coarser.RefinedBy meaning finer) :
    (Decoder.list coarser).RefinedBy (List.Forall₂ meaning) (Decoder.list finer) := by
  intro depth node bs read
  unfold Decoder.list at read
  split at read
  · exact nomatch read
  · next items closed depth =>
    have items := Except.Follows.mapM (refined depth) items
    refine items.bind (fun as bs all => ?_) bs read
    cases closed with
    | true => exact .ok all
    | false => exact .error _
  · exact absurd read (unexpected_ne_ok _ _)

/-- A `text` that the `finer` reader reads is read by the `coarser` one too. -/
theorem run (refined : coarser.RefinedBy meaning finer) (text : String) :
    Except.Follows meaning (coarser.run text) (finer.run text) := by
  refine (refined Node.maxDepth (Document.read text).root).bind fun a b both => ?_
  cases (Document.read text).surplus with
  | true => exact .error _
  | false => exact .ok both

end Decoder.RefinedBy

/-- Records of fields that refine each other do so too, whether they are read from an object or
from an array. -/
theorem Fields.RefinedBy.record {meaning : α → β → Prop} {f : Fields α} {f' : Fields β}
    {drafts : f.Draft → f'.Draft → Prop} (refined : f.RefinedBy f' drafts meaning)
    (name : String) :
    (Decoder.record name f).RefinedBy meaning (Decoder.record name f') := by
  intro depth node b read
  unfold Decoder.record at read
  split at read
  · exact nomatch read
  · exact nomatch read
  · next members closed depth =>
    refine (refined.readMembers depth members refined.empty).bind (fun draft draft' both => ?_)
      b read
    cases closed with
    | false => exact .error _
    | true =>
      intro b made
      simp only [if_true] at made ⊢
      split at made
      · next finished =>
        obtain ⟨a, finished', means⟩ := refined.finish .object 0 both _ finished
        obtain rfl := Except.ok.inj made
        exact ⟨a, by simp only [finished'], means⟩
      · exact nomatch made
  · next elements closed depth =>
    refine (Field.RefinedBy.readElements refined.table depth elements refined.empty).bind
      (fun read read' both => ?_) b read
    obtain ⟨draft, surplus⟩ := read
    obtain ⟨draft', surplus'⟩ := read'
    obtain ⟨both, rfl⟩ := both
    -- Elements that are left over make the record faulty for both.
    intro b made
    simp only at made ⊢
    split at made
    · exact nomatch made
    · next finished =>
      obtain ⟨a, finished', means⟩ := refined.finish .array 0 both _ finished
      split at made
      · next whole =>
        obtain rfl := Except.ok.inj made
        exact ⟨a, by simp only [finished', if_pos whole], means⟩
      · exact nomatch made
  · exact absurd read (Decoder.unexpected_ne_ok _ _)

end StateChannel
