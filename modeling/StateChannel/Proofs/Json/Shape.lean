import StateChannel.Json.Node

/-!
# The shape of JSON values

How deep a value is nested, whether the members of its objects stand in order, and whether it holds
floating-point numbers. What is read from a text is in order and no deeper than may be read.

## Main definitions

* `Json.depth`: how many containers are inside each other
* `Json.Ordered`: the members of every object are in the order of their keys, each key once
* `Json.FloatFree`: every number is an integer
* `Json.Within`: a value is in order and no deeper than a limit

## Main results

* `Members.foldl_insert_of_pairwise`: members in order stay as they are
* `Node.within_of_value?`, `Json.within_of_parse?`: what has been read is within its limit
-/

namespace StateChannel

namespace Json

/-! ### Depth -/

mutual

/-- How many arrays and objects are inside each other. -/
def depth : Json → Nat
  | .array items => depthItems items + 1
  | .object members => depthMembers members + 1
  | .null | .bool _ | .number _ | .string _ => 0

/-- The depth of the deepest item. -/
def depthItems : List Json → Nat
  | [] => 0
  | item :: items => max (depth item) (depthItems items)

/-- The depth of the deepest member. -/
def depthMembers : List (String × Json) → Nat
  | [] => 0
  | (_, value) :: members => max (depth value) (depthMembers members)

end

theorem depthItems_le_iff {items : List Json} {limit : Nat} :
    depthItems items ≤ limit ↔ ∀ item ∈ items, item.depth ≤ limit := by
  induction items with
  | nil => simp [depthItems]
  | cons item items ih => rw [depthItems, Nat.max_le, ih, List.forall_mem_cons]

theorem depthMembers_le_iff {members : List (String × Json)} {limit : Nat} :
    depthMembers members ≤ limit ↔ ∀ member ∈ members, member.2.depth ≤ limit := by
  induction members with
  | nil => simp [depthMembers]
  | cons member members ih => rw [depthMembers, Nat.max_le, ih, List.forall_mem_cons]

theorem depth_array_le_iff {items : List Json} {limit : Nat} :
    (Json.array items).depth ≤ limit + 1 ↔ ∀ item ∈ items, item.depth ≤ limit := by
  rw [depth, Nat.add_le_add_iff_right, depthItems_le_iff]

theorem depth_object_le_iff {members : List (String × Json)} {limit : Nat} :
    (Json.object members).depth ≤ limit + 1 ↔ ∀ member ∈ members, member.2.depth ≤ limit := by
  rw [depth, Nat.add_le_add_iff_right, depthMembers_le_iff]

/-! ### Order and numbers -/

/-- The members of every object are in the order of their keys, each key once. -/
inductive Ordered : Json → Prop
  | null : Ordered .null
  | bool (b : Bool) : Ordered (.bool b)
  | number (n : Number) : Ordered (.number n)
  | string (s : String) : Ordered (.string s)
  | array {items : List Json} (inner : ∀ item ∈ items, Ordered item) : Ordered (.array items)
  | object {members : List (String × Json)}
      (apart : members.Pairwise fun first later => first.1 < later.1)
      (inner : ∀ member ∈ members, Ordered member.2) : Ordered (.object members)

/-- Every number is an integer. -/
inductive FloatFree : Json → Prop
  | null : FloatFree .null
  | bool (b : Bool) : FloatFree (.bool b)
  | integer (n : Integer) : FloatFree (.number (.integer n))
  | string (s : String) : FloatFree (.string s)
  | array {items : List Json} (inner : ∀ item ∈ items, FloatFree item) : FloatFree (.array items)
  | object {members : List (String × Json)} (inner : ∀ member ∈ members, FloatFree member.2) :
      FloatFree (.object members)

/-- `value` is in order, and no deeper than `limit`. -/
structure Within (limit : Nat) (value : Json) : Prop where
  ordered : value.Ordered
  room : value.depth ≤ limit

theorem Within.of_mem_array {limit : Nat} {items : List Json} {item : Json}
    (within : Within (limit + 1) (.array items)) (inside : item ∈ items) : Within limit item where
  ordered := by
    cases within.ordered with
    | array inner => exact inner item inside
  room := depth_array_le_iff.1 within.room item inside

theorem Within.of_mem_object {limit : Nat} {members : List (String × Json)}
    {member : String × Json} (within : Within (limit + 1) (.object members))
    (inside : member ∈ members) : Within limit member.2 where
  ordered := by
    cases within.ordered with
    | object _ inner => exact inner member inside
  room := depth_object_le_iff.1 within.room member inside

theorem Ordered.ofUInt64 (n : UInt64) : (Json.ofUInt64 n).Ordered := .number _

theorem FloatFree.ofUInt64 (n : UInt64) : (Json.ofUInt64 n).FloatFree := .integer _

end Json

/-! ### Members in order -/

namespace Members

theorem mem_insert {key : String} {value : Json} {members : Members} {member : String × Json}
    (inside : member ∈ insert key value members) : member = (key, value) ∨ member ∈ members := by
  induction members with
  | nil => exact .inl (List.mem_singleton.1 inside)
  | cons first rest ih =>
    obtain ⟨k, v⟩ := first
    unfold insert at inside
    split at inside
    · exact List.mem_cons.1 inside
    · split at inside
      · exact (List.mem_cons.1 inside).imp_right (List.mem_cons_of_mem _)
      · rcases List.mem_cons.1 inside with rfl | later
        · exact .inr List.mem_cons_self
        · exact (ih later).imp_right (List.mem_cons_of_mem _)

/-- Inserting `key` keeps `members` in the order of their keys. -/
theorem pairwise_insert (key : String) (value : Json) {members : Members}
    (apart : members.Pairwise fun first later => first.1 < later.1) :
    (insert key value members).Pairwise fun first later => first.1 < later.1 := by
  induction members with
  | nil => exact List.pairwise_singleton _ _
  | cons first rest ih =>
    obtain ⟨k, v⟩ := first
    obtain ⟨ahead, apart⟩ := List.pairwise_cons.1 apart
    -- The new member goes before the first, in its place, or somewhere behind it.
    unfold insert
    split
    · next before =>
      refine List.pairwise_cons.2 ⟨fun member inside => ?_, List.pairwise_cons.2 ⟨ahead, apart⟩⟩
      rcases List.mem_cons.1 inside with rfl | later
      · exact before
      · exact String.lt_trans before (ahead member later)
    · next notBefore =>
      split
      · next same =>
        exact List.pairwise_cons.2 ⟨fun member later => same ▸ ahead member later, apart⟩
      · next differs =>
        refine List.pairwise_cons.2 ⟨fun member inside => ?_, ih apart⟩
        rcases mem_insert inside with rfl | later
        · exact Decidable.byContradiction fun notAfter =>
            differs (String.le_antisymm notAfter notBefore)
        · exact ahead member later

theorem mem_of_find? {members : Members} {key : String} {value : Json}
    (found : find? key members = some value) : (key, value) ∈ members := by
  obtain ⟨before, after, rfl, -⟩ := List.lookup_eq_some_iff.1 found
  exact List.mem_append_right _ List.mem_cons_self

/-- A `key` that comes after all `members` is inserted at their end. -/
theorem insert_of_lt {key : String} (value : Json) {members : Members}
    (after : ∀ member ∈ members, member.1 < key) :
    insert key value members = members ++ [(key, value)] := by
  induction members with
  | nil => rfl
  | cons first rest ih =>
    obtain ⟨k, v⟩ := first
    have before : k < key := after (k, v) List.mem_cons_self
    have differs : key ≠ k := fun same => String.lt_irrefl k (same ▸ before)
    rw [insert, if_neg (String.lt_asymm before), if_neg differs,
      ih fun member inside => after member (List.mem_cons_of_mem _ inside), List.cons_append]

/-- Inserting `members` that come after `front`, in order, appends them. -/
theorem foldl_insert_of_pairwise (front : Members) {members : Members}
    (apart : (front ++ members).Pairwise fun first later => first.1 < later.1) :
    members.foldl (fun acc member => insert member.1 member.2 acc) front = front ++ members := by
  induction members generalizing front with
  | nil => exact (List.append_nil front).symm
  | cons member rest ih =>
    have last : insert member.1 member.2 front = front ++ [member] :=
      insert_of_lt _ fun earlier inside =>
        (List.pairwise_append.1 apart).2.2 earlier inside member List.mem_cons_self
    have same : front ++ member :: rest = front ++ [member] ++ rest := by simp
    rw [List.foldl_cons, last, same]
    exact ih _ (same ▸ apart)

end Members

namespace Json

theorem ofMembers_of_pairwise {members : List (String × Json)}
    (apart : members.Pairwise fun first later => first.1 < later.1) :
    ofMembers members = .object members :=
  congrArg Json.object (Members.foldl_insert_of_pairwise [] apart)

/-- `ofMembers` leaves `members` whose `keys` stand in order as they are. -/
theorem ofMembers_of_keys {members : List (String × Json)} (keys : List String)
    (named : members.map Prod.fst = keys) (apart : keys.Pairwise fun first later => first < later) :
    ofMembers members = .object members :=
  ofMembers_of_pairwise (List.pairwise_map.1 (named ▸ apart))

/-- `ofMembers members` is an object of some of `members`, in the order of their keys. -/
theorem ofMembers_eq (members : List (String × Json)) :
    ∃ inside : Members, ofMembers members = .object inside ∧
      (inside.Pairwise fun first later => first.1 < later.1) ∧
      ∀ member ∈ inside, member ∈ members := by
  -- The members are put in one by one, so this is shown for any that are in already.
  suffices kept : ∀ front : Members, (front.Pairwise fun first later => first.1 < later.1) →
      ((members.foldl (fun acc member => Members.insert member.1 member.2 acc) front).Pairwise
        fun first later => first.1 < later.1) ∧
      ∀ member ∈ members.foldl (fun acc member => Members.insert member.1 member.2 acc) front,
        member ∈ front ∨ member ∈ members by
    obtain ⟨apart, held⟩ := kept [] List.Pairwise.nil
    exact ⟨_, rfl, apart, fun member inside =>
      (held member inside).resolve_left List.not_mem_nil⟩
  induction members with
  | nil => exact fun front apart => ⟨apart, fun member inside => .inl inside⟩
  | cons first rest ih =>
    intro front apart
    obtain ⟨apart, held⟩ := ih _ (Members.pairwise_insert first.1 first.2 apart)
    refine ⟨apart, fun member inside => ?_⟩
    rcases held member inside with put | later
    · rcases Members.mem_insert put with rfl | old
      · exact .inr List.mem_cons_self
      · exact .inl old
    · exact .inr (List.mem_cons_of_mem first later)

theorem Ordered.ofMembers {members : List (String × Json)}
    (inner : ∀ member ∈ members, member.2.Ordered) : (Json.ofMembers members).Ordered := by
  obtain ⟨inside, same, apart, held⟩ := ofMembers_eq members
  rw [same]
  exact .object apart fun member here => inner member (held member here)

theorem FloatFree.ofMembers {members : List (String × Json)}
    (inner : ∀ member ∈ members, member.2.FloatFree) : (Json.ofMembers members).FloatFree := by
  obtain ⟨inside, same, -, held⟩ := ofMembers_eq members
  rw [same]
  exact .object fun member here => inner member (held member here)

theorem depth_ofMembers_le {members : List (String × Json)} {limit : Nat}
    (inner : ∀ member ∈ members, member.2.depth ≤ limit) :
    (Json.ofMembers members).depth ≤ limit + 1 := by
  obtain ⟨inside, same, -, held⟩ := ofMembers_eq members
  rw [same, depth_object_le_iff]
  exact fun member here => inner member (held member here)

end Json

/-! ### What has been read -/

theorem exists_of_mapM_eq_some {α β : Type} {f : α → Option β} {xs : List α} {ys : List β}
    (mapped : xs.mapM f = some ys) {y : β} (inside : y ∈ ys) : ∃ x ∈ xs, f x = some y := by
  induction xs generalizing ys with
  | nil =>
    obtain rfl : [] = ys := Option.some.inj mapped
    exact nomatch inside
  | cons x xs ih =>
    simp only [List.mapM_cons, Option.bind_eq_bind, Option.bind_eq_some_iff] at mapped
    obtain ⟨first, given, rest, later, whole⟩ := mapped
    obtain rfl : first :: rest = ys := Option.some.inj whole
    rcases List.mem_cons.1 inside with rfl | inside
    · exact ⟨x, List.mem_cons_self, given⟩
    · obtain ⟨z, member, found⟩ := ih later inside
      exact ⟨z, List.mem_cons_of_mem x member, found⟩

namespace Node

/-- An array that is read has been closed, there is room for it, and its items are read with one
level of room less. -/
theorem eq_of_value?_array {depth : Nat} {items : List Node} {closed : Bool} {value : Json}
    (read : value? depth (.array items closed) = some value) :
    ∃ room values, depth = room + 1 ∧ items.mapM (value? room) = some values ∧
      value = .array values := by
  cases depth with
  | zero => simp [value?] at read
  | succ room =>
    cases closed with
    | false => exact nomatch read
    | true =>
      obtain ⟨values, mapped, rfl⟩ := Option.map_eq_some_iff.1 read
      exact ⟨room, values, rfl, mapped, rfl⟩

theorem eq_of_value?_object {depth : Nat} {members : List (Option String × Node)} {closed : Bool}
    {value : Json} (read : value? depth (.object members closed) = some value) :
    ∃ room values, depth = room + 1 ∧ value = Json.ofMembers values ∧
      ∀ member ∈ values, ∃ node, value? room node = some member.2 := by
  cases depth with
  | zero => simp [value?] at read
  | succ room =>
    cases closed with
    | false => exact nomatch read
    | true =>
      obtain ⟨values, mapped, rfl⟩ := Option.map_eq_some_iff.1 read
      refine ⟨room, values, rfl, rfl, fun member inside => ?_⟩
      obtain ⟨⟨key, node⟩, -, given⟩ := exists_of_mapM_eq_some mapped inside
      obtain ⟨name, -, given⟩ := Option.bind_eq_some_iff.1 given
      obtain ⟨inner, given, whole⟩ := Option.bind_eq_some_iff.1 given
      exact ⟨node, given.trans (congrArg some (congrArg Prod.snd (Option.some.inj whole)))⟩

/-- A `value` that is read with `depth` is in order, and no deeper than `depth`. -/
theorem within_of_value? {depth : Nat} {node : Node} {value : Json}
    (read : node.value? depth = some value) : value.Within depth := by
  -- A container takes one level of the room, whatever is in it: the room carries the induction.
  induction depth using Nat.strongRecOn generalizing node value with
  | _ depth ih =>
    cases node with
    | broken => exact absurd read (by simp [value?_broken])
    | null =>
      obtain rfl : Json.null = value := by simpa [value?] using read
      exact ⟨.null, Nat.zero_le _⟩
    | bool b =>
      obtain rfl : Json.bool b = value := by simpa [value?] using read
      exact ⟨.bool b, Nat.zero_le _⟩
    | number n =>
      obtain ⟨n, -, rfl⟩ : ∃ m, n = some m ∧ Json.number m = value := by simpa [value?] using read
      exact ⟨.number n, Nat.zero_le _⟩
    | string s =>
      obtain ⟨s, -, rfl⟩ : ∃ t, s = some t ∧ Json.string t = value := by simpa [value?] using read
      exact ⟨.string s, Nat.zero_le _⟩
    | array items closed =>
      obtain ⟨room, values, rfl, mapped, rfl⟩ := eq_of_value?_array read
      have inner (item : Json) (inside : item ∈ values) : item.Within room := by
        obtain ⟨node, -, given⟩ := exists_of_mapM_eq_some mapped inside
        exact ih room (Nat.lt_succ_self room) given
      exact ⟨.array fun item inside => (inner item inside).ordered,
        Json.depth_array_le_iff.2 fun item inside => (inner item inside).room⟩
    | object members closed =>
      obtain ⟨room, values, rfl, rfl, given⟩ := eq_of_value?_object read
      have inner (member : String × Json) (inside : member ∈ values) : member.2.Within room := by
        obtain ⟨node, given⟩ := given member inside
        exact ih room (Nat.lt_succ_self room) given
      exact ⟨.ofMembers fun member inside => (inner member inside).ordered,
        Json.depth_ofMembers_le fun member inside => (inner member inside).room⟩

end Node

/-- A `value` that a `text` denotes is in order, and no deeper than `Node.maxDepth`. -/
theorem Json.within_of_parse? {text : String} {value : Json} (parsed : parse? text = some value) :
    value.Within Node.maxDepth := by
  simp only [parse?] at parsed
  split at parsed
  · exact nomatch parsed
  · exact Node.within_of_value? parsed

end StateChannel
