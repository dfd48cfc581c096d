import StateChannel.Json.Decoder
import StateChannel.Proofs.Json.Reading

/-!
# Records that are read from objects

A record takes its fields from the members of an object, whatever their order and whatever else is
in the object. The objects here have every key once. Two groups of fields with different names do
not disturb each other, so what a record becomes is found field by field.

## Main definitions

* `Fields.Takes`: what a field of a record becomes
* `Field.takeAll`: the members of an object go to the fields of a table

## Main results

* `Fields.readMembers_one`: what the only field of a record becomes
* `Fields.readMembers_and_of_left`, `Fields.readMembers_and_of_right`: two groups of fields, of
  which one is read without a fault
* `Decoder.record_object`: a record is made of what its fields have become
* `Decoder.run_render`: what is read from a written text
-/

namespace StateChannel

/-- `ofMembers added` has each key once, with the last of its values in `added`. -/
theorem Json.exists_ofMembers (added : List (String × Json)) :
    ∃ members : Members, ofMembers added = .object members ∧ (members.map Prod.fst).Nodup ∧
      ∀ key, members.find? key = List.lookup key added.reverse := by
  obtain ⟨members, same, apart, -⟩ := ofMembers_eq added
  refine ⟨members, same, ?_, fun key => ?_⟩
  · exact List.pairwise_map.2 (apart.imp fun before => String.ne_of_lt before)
  · rw [← member?_ofMembers, same]
    rfl

theorem Node.isWhole_ofJson (value : Json) : (ofJson value).isWhole = true := by
  cases value <;> rfl

/-! ### Tables of fields -/

namespace Field

variable {α σ τ : Type} {table : List (Field σ)} {others : List (Field τ)} {depth : Nat}
  {key : String} {value : Json} {members : Members}

/-- The member `key` goes to the field of `table` with this name, or it is passed over. -/
def take (table : List (Field σ)) (depth : Nat) (draft : σ) (key : String) (value : Json) :
    Except Refusal σ :=
  match table.find? (fun field => field.name == key) with
  | none => .ok draft
  | some field =>
    if field.isSet draft then .error (.mismatch (.duplicateField key))
    else field.read depth (.ofJson value) draft

/-- The `members` of an object go to the fields in order. -/
def takeAll (table : List (Field σ)) (depth : Nat) (draft : σ) (members : Members) :
    Except Refusal σ :=
  members.foldlM (fun draft member => take table depth draft member.1 member.2) draft

theorem takeAll_cons (draft : σ) : takeAll table depth draft ((key, value) :: members) =
    take table depth draft key value >>= fun next => takeAll table depth next members :=
  List.foldlM_cons

theorem find?_eq_none (unknown : key ∉ table.map name) :
    table.find? (fun field => field.name == key) = none := by
  refine List.find?_eq_none.2 fun field inside same => unknown ?_
  exact List.mem_map.2 ⟨field, inside, eq_of_beq same⟩

theorem take_of_unknown (unknown : key ∉ table.map name) (draft : σ) :
    take table depth draft key value = .ok draft := by
  rw [take, find?_eq_none unknown]

theorem takeAll_of_unknown (unknown : ∀ key ∈ members.map Prod.fst, key ∉ table.map name)
    (draft : σ) : takeAll table depth draft members = .ok draft := by
  induction members with
  | nil => rfl
  | cons member members ih =>
    obtain ⟨first, later⟩ := List.forall_mem_cons.1 unknown
    rw [takeAll_cons, take_of_unknown first]
    exact ih later

/-- The only field of a record. -/
def only (name : String) (decode : Decoder α) : Field (Option α) where
  name := name
  isSet := Option.isSome
  read depth node _ := (decode depth node).map some

/-- What a field becomes of the value of its member, if there is one. -/
def taken (decode : Decoder α) (depth : Nat) : Option Json → Except Refusal (Option α)
  | none => .ok none
  | some value => (decode depth (.ofJson value)).map some

theorem takeAll_only (distinct : (members.map Prod.fst).Nodup) (name : String)
    (decode : Decoder α) : takeAll [only name decode] depth none members =
      taken decode depth (members.find? name) := by
  induction members with
  | nil => rfl
  | cons member members ih =>
    obtain ⟨key, value⟩ := member
    obtain ⟨once, later⟩ := List.nodup_cons.1 distinct
    rw [takeAll_cons]
    by_cases own : name = key
    · subst own
      have reads : take [only name decode] depth none name value =
          (decode depth (.ofJson value)).map some := by
        simp [take, only]
      -- The member has been taken, and there is no other with its key.
      have rest (draft : Option α) : takeAll [only name decode] depth draft members = .ok draft := by
        refine takeAll_of_unknown (fun key inside => ?_) draft
        have apart : key ≠ name := fun same => once (same ▸ inside)
        simpa [only] using apart
      rw [reads, Members.find?_cons_self, taken]
      simp only [rest]
      exact bind_pure _
    · have unknown : key ∉ [only name decode].map Field.name := by
        simpa [only] using Ne.symm own
      rw [take_of_unknown unknown, Members.find?_cons_of_ne value members own]
      exact ih later

/-! ### Two groups of fields -/

/-- A field of the first of two groups. -/
def onLeft (field : Field σ) : Field (σ × τ) where
  name := field.name
  isSet draft := field.isSet draft.1
  read depth node draft := (field.read depth node draft.1).map (·, draft.2)

/-- A field of the second of two groups. -/
def onRight (field : Field τ) : Field (σ × τ) where
  name := field.name
  isSet draft := field.isSet draft.2
  read depth node draft := (field.read depth node draft.2).map (draft.1, ·)

/-- The fields of two groups. -/
def both (table : List (Field σ)) (others : List (Field τ)) : List (Field (σ × τ)) :=
  table.map onLeft ++ others.map onRight

theorem take_both_left (unknown : key ∉ others.map name) (draft : σ) (other : τ) :
    take (both table others) depth (draft, other) key value =
      (take table depth draft key value).map (·, other) := by
  have none := find?_eq_none unknown
  have front : (both table others).find? (fun field => field.name == key) =
      (table.find? fun field => field.name == key).map onLeft := by
    simp only [both, List.find?_append, List.find?_map, Function.comp_def, onLeft, onRight, none,
      Option.map_none, Option.or_none]
  rw [take, take, front]
  cases table.find? fun field => field.name == key with
  | none => rfl
  | some field =>
    simp only [Option.map_some, onLeft]
    split <;> rfl

theorem take_both_right (unknown : key ∉ table.map name) (draft : σ) (other : τ) :
    take (both table others) depth (draft, other) key value =
      (take others depth other key value).map (draft, ·) := by
  have none := find?_eq_none unknown
  have back : (both table others).find? (fun field => field.name == key) =
      (others.find? fun field => field.name == key).map onRight := by
    simp only [both, List.find?_append, List.find?_map, Function.comp_def, onLeft, onRight, none,
      Option.map_none, Option.none_or]
  rw [take, take, back]
  cases others.find? fun field => field.name == key with
  | none => rfl
  | some field =>
    simp only [Option.map_some, onRight]
    split <;> rfl

/-- When the fields of `table` are read without a fault, those of `others` decide. -/
theorem takeAll_both_of_left (apart : ∀ key ∈ table.map name, key ∉ others.map name)
    {draft next : σ} (left : takeAll table depth draft members = .ok next) (other : τ) :
    takeAll (both table others) depth (draft, other) members =
      (takeAll others depth other members).map (next, ·) := by
  induction members generalizing draft other with
  | nil =>
    obtain rfl := Except.ok.inj left
    rfl
  | cons member members ih =>
    obtain ⟨key, value⟩ := member
    rw [takeAll_cons] at left
    rw [takeAll_cons, takeAll_cons]
    -- A key of `table` is unknown to `others`, so only the first half takes it.
    by_cases own : key ∈ table.map name
    · rw [take_both_left (apart key own), take_of_unknown (apart key own)]
      cases first : take table depth draft key value with
      | error refusal => rw [first] at left; exact nomatch left
      | ok middle =>
        rw [first] at left
        exact ih left other
    · rw [take_of_unknown own] at left
      rw [take_both_right own]
      cases take others depth other key value with
      | error refusal => rfl
      | ok middle => exact ih left middle

/-- When the fields of `others` are read without a fault, those of `table` decide. -/
theorem takeAll_both_of_right (apart : ∀ key ∈ table.map name, key ∉ others.map name)
    {other next : τ} (right : takeAll others depth other members = .ok next) (draft : σ) :
    takeAll (both table others) depth (draft, other) members =
      (takeAll table depth draft members).map (·, next) := by
  induction members generalizing draft other with
  | nil =>
    obtain rfl := Except.ok.inj right
    rfl
  | cons member members ih =>
    obtain ⟨key, value⟩ := member
    rw [takeAll_cons] at right
    rw [takeAll_cons, takeAll_cons]
    -- Again only one of the two takes the member, and the other passes it over.
    by_cases own : key ∈ table.map name
    · rw [take_of_unknown (apart key own)] at right
      rw [take_both_left (apart key own)]
      cases take table depth draft key value with
      | error refusal => rfl
      | ok middle => exact ih right middle
    · rw [take_both_right own, take_of_unknown own]
      cases first : take others depth other key value with
      | error refusal => rw [first] at right; exact nomatch right
      | ok middle =>
        rw [first] at right
        exact ih right draft

end Field

/-! ### Records -/

namespace Fields

variable {α β γ : Type} {f : Fields α} {g : Fields β} {depth : Nat} {members : Members}

/-- What a field of a record becomes: it stays as it is, or it takes the value of its member. -/
inductive Takes (decode : Decoder α) (depth : Nat) : Option Json → Option α → Option α → Prop
  | nothing (old : Option α) : Takes decode depth none old old
  | value {value : Json} {a : α} (reads : decode depth (.ofJson value) = .ok a) :
      Takes decode depth (some value) none (some a)

/-- The names of the fields. -/
def names (f : Fields α) : List String := f.table.map Field.name

@[simp]
theorem names_one (name : String) (decode : Decoder α) (whenAbsent whenShort : Option α) :
    (one name decode whenAbsent whenShort).names = [name] := rfl

@[simp]
theorem names_withDefault (name : String) (decode : Decoder α) (default : α) :
    (withDefault name decode default).names = [name] := rfl

@[simp]
theorem names_required (name : String) (decode : Decoder α) :
    (required name decode).names = [name] := rfl

@[simp]
theorem names_and (f : Fields α) (g : Fields β) : (f.and g).names = f.names ++ g.names := by
  simp only [names, and, List.map_append, List.map_map]
  rfl

/-- The `members` of an object are read by the fields with their names, as `takeAll` does. -/
theorem readMembers_eq (draft : f.Draft) (members : Members) :
    f.readMembers depth draft (Node.ofMembers members) =
      Field.takeAll f.table depth draft members := by
  induction members generalizing draft with
  | nil => rfl
  | cons member members ih =>
    obtain ⟨key, value⟩ := member
    rw [Node.ofMembers, readMembers, Field.takeAll_cons, Field.take]
    -- A member with no field is passed over, and a field that is set takes no second one.
    cases f.table.find? fun field => field.name == key with
    | none => exact (if_pos (Node.isWhole_ofJson value)).trans (ih draft)
    | some field =>
      cases set : field.isSet draft with
      | true => simp [set, bind, Except.bind]
      | false =>
        simp only [set, Bool.false_eq_true, if_false]
        cases field.read depth (.ofJson value) draft with
        | error refusal => rfl
        | ok next => exact ih next

/-- What `make` makes of a record does not matter for how its fields are read. -/
theorem readMembers_map (make : α → γ) (draft : f.Draft) :
    (f.map make).readMembers depth draft (Node.ofMembers members) =
      f.readMembers depth draft (Node.ofMembers members) := by
  rw [readMembers_eq]
  exact readMembers_eq (f := f.map make) draft members

section One

variable {name : String} {decode : Decoder α} {whenAbsent whenShort : Option α}

theorem readMembers_one_eq (distinct : (members.map Prod.fst).Nodup) :
    (one name decode whenAbsent whenShort).readMembers depth none (Node.ofMembers members) =
      Field.taken decode depth (members.find? name) :=
  (readMembers_eq (f := one name decode whenAbsent whenShort) none members).trans
    (Field.takeAll_only distinct name decode)

/-- The only field of a record is read from the member that `find? name` finds. -/
theorem readMembers_found (distinct : (members.map Prod.fst).Nodup) {value : Json}
    {result : Except Refusal α} (found : members.find? name = some value)
    (reads : decode depth (.ofJson value) = result) :
    (one name decode whenAbsent whenShort).readMembers depth none (Node.ofMembers members) =
      result.map some := by
  refine (readMembers_one_eq distinct).trans ?_
  rw [found, Field.taken, reads]

/-- The only field of a record becomes `new` if it `Takes` so from its member. -/
theorem readMembers_one (distinct : (members.map Prod.fst).Nodup) {new : Option α}
    (takes : Takes decode depth (members.find? name) none new) :
    (one name decode whenAbsent whenShort).readMembers depth none (Node.ofMembers members) =
      .ok new := by
  refine (readMembers_one_eq distinct).trans ?_
  generalize members.find? name = found at takes
  cases takes with
  | nothing => rfl
  | value reads => rw [Field.taken, reads]; rfl

end One

/-- When `f` is read without a fault, `g` decides. -/
theorem readMembers_and_of_left (apart : ∀ name ∈ f.names, name ∉ g.names) {draft next : f.Draft}
    {other : g.Draft} {result : Except Refusal g.Draft}
    (left : f.readMembers depth draft (Node.ofMembers members) = .ok next)
    (right : g.readMembers depth other (Node.ofMembers members) = result) :
    (f.and g).readMembers depth (draft, other) (Node.ofMembers members) =
      result.map (next, ·) := by
  rw [readMembers_eq] at left right
  rw [← right]
  exact (readMembers_eq (f := f.and g) (draft, other) members).trans
    (Field.takeAll_both_of_left apart left other)

/-- When `g` is read without a fault, `f` decides. -/
theorem readMembers_and_of_right (apart : ∀ name ∈ f.names, name ∉ g.names) {draft : f.Draft}
    {other next : g.Draft} {result : Except Refusal f.Draft}
    (left : f.readMembers depth draft (Node.ofMembers members) = result)
    (right : g.readMembers depth other (Node.ofMembers members) = .ok next) :
    (f.and g).readMembers depth (draft, other) (Node.ofMembers members) =
      result.map (·, next) := by
  rw [readMembers_eq] at left right
  rw [← left]
  exact (readMembers_eq (f := f.and g) (draft, other) members).trans
    (Field.takeAll_both_of_right apart right draft)

/-- When `f` and `g` are both read without a fault, so is `f.and g`. -/
theorem readMembers_and (apart : ∀ name ∈ f.names, name ∉ g.names) {draft next : f.Draft}
    {other next' : g.Draft}
    (left : f.readMembers depth draft (Node.ofMembers members) = .ok next)
    (right : g.readMembers depth other (Node.ofMembers members) = .ok next') :
    (f.and g).readMembers depth (draft, other) (Node.ofMembers members) = .ok (next, next') :=
  readMembers_and_of_left apart left right

/-- The two fields of a record become `new` and `new'`, in whatever order their members come. -/
theorem readMembers_two {name name' : String} {decode : Decoder α} {decode' : Decoder β}
    {whenAbsent whenShort : Option α} {whenAbsent' whenShort' : Option β} (apart : name ≠ name')
    (distinct : (members.map Prod.fst).Nodup) {new : Option α} {new' : Option β}
    (takes : Takes decode depth (members.find? name) none new)
    (takes' : Takes decode' depth (members.find? name') none new') (make : α × β → γ) :
    (((one name decode whenAbsent whenShort).and
        (one name' decode' whenAbsent' whenShort')).map make).readMembers depth (none, none)
      (Node.ofMembers members) = .ok (new, new') := by
  have other : ∀ key ∈ (one name decode whenAbsent whenShort).names,
      key ∉ (one name' decode' whenAbsent' whenShort').names := by
    simpa using apart
  exact (readMembers_map (f := (one name decode _ _).and (one name' decode' _ _)) make
    (none, none)).trans
      (readMembers_and other (readMembers_one distinct takes) (readMembers_one distinct takes'))

end Fields

namespace Decoder

variable {α β γ : Type} {depth : Nat} {members : Members}

/-- A record is read from an object by reading its fields and finishing them; a field that is
missing is named. -/
theorem record_object (name : String) (f : Fields α) (depth : Nat) (members : Members) :
    record name f (depth + 1) (Node.ofJson (.object members)) =
      f.readMembers depth f.empty (Node.ofMembers members) >>= fun draft =>
        match f.finish .object 0 draft with
        | .ok a => .ok a
        | .error (missing, _) => .error (.mismatch (.missingField missing)) := by
  rw [Node.ofJson, record]
  rfl

theorem record_ofJson {f : Fields α} {draft : f.Draft} {a : α}
    (reads : f.readMembers depth f.empty (Node.ofMembers members) = .ok draft)
    (made : f.finish .object 0 draft = .ok a) (name : String) :
    record name f (depth + 1) (Node.ofJson (.object members)) = .ok a := by
  rw [record_object, reads]
  simp only [bind, Except.bind, made]

theorem record_refused {f : Fields α} {refusal : Refusal}
    (reads : f.readMembers depth f.empty (Node.ofMembers members) = .error refusal)
    (name : String) :
    record name f (depth + 1) (Node.ofJson (.object members)) = .error refusal := by
  rw [record_object, reads]
  rfl

/-- A record of one field that must be there is read as `make a`. -/
theorem record_required {decode : Decoder α} {key : String} {value : Json} {a : α}
    (distinct : (members.map Prod.fst).Nodup) (found : Members.find? key members = some value)
    (reads : decode depth (.ofJson value) = .ok a) (name : String) (make : α → β) :
    record name ((Fields.required key decode).map make) (depth + 1)
      (Node.ofJson (.object members)) = .ok (make a) := by
  have takes : Fields.Takes decode depth (Members.find? key members) none (some a) := by
    rw [found]
    exact .value reads
  have draft : ((Fields.required key decode).map make).readMembers depth none
      (Node.ofMembers members) = .ok (some a) :=
    (Fields.readMembers_map (f := Fields.required key decode) make none).trans
      (Fields.readMembers_one distinct takes)
  exact record_ofJson draft rfl name

/-- A record of two fields that must be there is read as `make (a, b)`. -/
theorem record_two {decode : Decoder α} {decode' : Decoder β} {key key' : String}
    {value value' : Json} {a : α} {b : β} (apart : key ≠ key')
    (distinct : (members.map Prod.fst).Nodup) (found : Members.find? key members = some value)
    (reads : decode depth (.ofJson value) = .ok a)
    (found' : Members.find? key' members = some value')
    (reads' : decode' depth (.ofJson value') = .ok b) (name : String) (make : α × β → γ) :
    record name (((Fields.required key decode).and (Fields.required key' decode')).map make)
      (depth + 1) (Node.ofJson (.object members)) = .ok (make (a, b)) := by
  have takes : Fields.Takes decode depth (Members.find? key members) none (some a) := by
    rw [found]
    exact .value reads
  have takes' : Fields.Takes decode' depth (Members.find? key' members) none (some b) := by
    rw [found']
    exact .value reads'
  exact record_ofJson (Fields.readMembers_two apart distinct takes takes' make) rfl name

/-! ### Values -/

/-- A list that is written item by item, each of which is read as `made` of it, is read as
`items.map made`. -/
theorem list_ofJson {decode : Decoder β} {write : α → Json} {made : α → β}
    (each : ∀ item, decode depth (Node.ofJson (write item)) = .ok (made item)) (items : List α) :
    list decode (depth + 1) (Node.ofJson (.array (items.map write))) = .ok (items.map made) := by
  have all : items.mapM (fun item => decode depth (Node.ofJson (write item))) =
      (.ok (items.map made) : Except Refusal (List β)) := by
    induction items with
    | nil => rfl
    | cons item items ih =>
      rw [List.mapM_cons, each item, ih]
      rfl
  rw [Node.ofJson, Node.ofItems_eq_map, list, List.mapM_map, List.mapM_map, Function.comp_def,
    Function.comp_def, all]
  rfl

/-- A `value` that is not null is read by `optional` as what `decode` reads. -/
theorem optional_of_ne_null {decode : Decoder α} {value : Json} {a : α} (present : value ≠ .null)
    (reads : decode depth (.ofJson value) = .ok a) :
    optional decode depth (.ofJson value) = .ok (some a) := by
  cases value with
  | null => exact absurd rfl present
  | _ => exact congrArg (Except.map some) reads

theorem parsed_string (expected : String) (parse : String → Except String α) (s : String)
    (depth : Nat) : parsed expected parse depth (Node.ofJson (.string s)) =
      (parse s).mapError fun message => .mismatch (.badText message) := by
  simp only [parsed, text, Node.ofJson, bind, Except.bind]
  cases parse s <;> rfl

theorem natural_ofUInt64 {bits : Nat} {n : UInt64} (fits : n.toNat < Nat.pow 2 bits)
    (expected : String) (depth : Nat) :
    natural bits expected depth (Node.ofJson (Json.ofUInt64 n)) = .ok n.toNat := by
  have bounds : 0 ≤ (n.toNat : Int) ∧ (n.toNat : Int) ≤ (Nat.pow 2 bits : Int) - 1 :=
    ⟨Int.natCast_nonneg _, Int.le_sub_one_of_lt (Int.ofNat_lt.2 fits)⟩
  simp only [natural, map, integer, Json.ofUInt64, Node.ofJson]
  rw [if_pos bounds]
  rfl

theorem size_ofUInt64 (n : UInt64) (depth : Nat) :
    size depth (Node.ofJson (Json.ofUInt64 n)) = .ok n := by
  rw [size, map, natural_ofUInt64 n.toNat_lt]
  exact congrArg Except.ok (UInt64.ofNat_toNat)

theorem u16_ofUInt64 (n : UInt16) (depth : Nat) :
    u16 depth (Node.ofJson (Json.ofUInt64 n.toUInt64)) = .ok n := by
  have same : n.toUInt64.toNat = n.toNat := UInt16.toNat_toUInt64 n
  rw [u16, map, natural_ofUInt64 (same ▸ n.toNat_lt), same]
  exact congrArg Except.ok UInt16.ofNat_toNat

theorem i32_ofInt32 (n : Int32) (depth : Nat) :
    i32 depth (Node.ofJson (Json.ofInt32 n)) = .ok n := by
  have bounds : -2147483648 ≤ n.toInt ∧ n.toInt ≤ 2147483647 :=
    ⟨n.le_toInt, Int.le_of_lt_add_one n.toInt_lt⟩
  simp only [i32, map, integer, Json.ofInt32, Node.ofJson]
  rw [if_pos bounds]
  exact congrArg Except.ok (Int32.ofInt_toInt n)

/-- A text that is written of `value` is decoded as the node of `value`. -/
theorem run_render (decode : Decoder α) {value : Json} (free : value.FloatFree) :
    decode.run value.render = decode Node.maxDepth (Node.ofJson value) := by
  simp only [run, Document.read_render free]
  exact bind_pure _

end Decoder

end StateChannel
