import StateChannel.Json.Decoder
import StateChannel.Proofs.Json.Written

/-!
# Written values read back

What has been written is read as it was, token by token: the machine goes through the text of a
value and hands the value to the container around it. So a value without floating-point numbers is
read back from its text, unless it is nested too deeply.

## Main definitions

* `Node.ofJson`: a value as it is written
* `Reading.Reaches`: the machine goes from one state to another

## Main results

* `Document.read_render`: the text of a value is read as what was written
* `Node.value?_ofJson`: its value is the one that was written, if there is room for it
* `Json.parse?_render`: so a value is read back, if it is not too deep
-/

namespace StateChannel

namespace Node

mutual

/-- A value as a node, as it is read from its text. -/
def ofJson : Json → Node
  | .null => .null
  | .bool b => .bool b
  | .number n => .number (some n)
  | .string s => .string (some s)
  | .array items => .array (ofItems items) true
  | .object members => .object (ofMembers members) true

/-- Items as nodes, in order. -/
def ofItems : List Json → List Node
  | [] => []
  | item :: items => ofJson item :: ofItems items

/-- Members as nodes, in order. -/
def ofMembers : List (String × Json) → List (Option String × Node)
  | [] => []
  | (key, value) :: members => (some key, ofJson value) :: ofMembers members

end

theorem ofItems_eq_map (items : List Json) : ofItems items = items.map ofJson := by
  induction items with
  | nil => rfl
  | cons item items ih => rw [ofItems, ih, List.map_cons]

theorem ofMembers_eq_map (members : List (String × Json)) :
    ofMembers members = members.map fun member => (some member.1, ofJson member.2) := by
  induction members with
  | nil => rfl
  | cons member members ih => rw [ofMembers, ih, List.map_cons]

end Node

theorem Token.next_of_not_blank {c : Char} (blank : isBlank c = false) (cs : List Char) :
    next (c :: cs) = some (take (c :: cs)) := by
  simp [next, blank]

namespace Reading

/-! ### Going on -/

/-- From `reading` with `cs` ahead, reading gets to `later` with `rest` ahead, taking at most a
token for each character. -/
def Reaches (reading : Reading) (cs : List Char) (later : Reading) (rest : List Char) : Prop :=
  ∃ used, used + rest.length ≤ cs.length ∧
    ∀ count, reading.run cs (used + count) = later.run rest count

variable {reading middle later : Reading} {cs between rest : List Char} {awaiting : Awaiting}
  {frames : List Frame}

theorem Reaches.refl (reading : Reading) (cs : List Char) : reading.Reaches cs reading cs :=
  ⟨0, by simp, fun count => by rw [Nat.zero_add]⟩

theorem Reaches.trans (first : reading.Reaches cs middle between)
    (second : middle.Reaches between later rest) : reading.Reaches cs later rest := by
  obtain ⟨used, fits, goes⟩ := first
  obtain ⟨more, fits', goes'⟩ := second
  refine ⟨used + more, by omega, fun count => ?_⟩
  rw [Nat.add_assoc, goes, goes']

/-- A `token` is taken from `c :: cs`, and fed. -/
theorem reaches_token {c : Char} {token : Token} (awaiting : Awaiting) (frames : List Frame)
    (blank : Token.isBlank c = false) (taken : Token.take (c :: cs) = (token, rest))
    (shorter : rest.length ≤ cs.length) :
    (inside awaiting frames).Reaches (c :: cs) ((inside awaiting frames).feed token) rest := by
  refine ⟨1, by rw [List.length_cons]; omega, fun count => ?_⟩
  rw [Nat.add_comm, run, Token.next_of_not_blank blank, taken]

/-- A `token` that is the one character `c` is taken, and fed. -/
theorem reaches_mark (c : Char) (token : Token) (awaiting : Awaiting) (frames : List Frame)
    (rest : List Char) (taken : Token.take (c :: rest) = (token, rest))
    (blank : Token.isBlank c = false) :
    (inside awaiting frames).Reaches (c :: rest) ((inside awaiting frames).feed token) rest :=
  reaches_token awaiting frames blank taken (Nat.le_refl _)

theorem feed_value {token : Token} (other : token ≠ .closeArray) (orClose : Bool)
    (frames : List Frame) :
    (inside (.value orClose) frames).feed token = feedValue token frames := by
  rw [feed, beq_false_of_ne other, Bool.and_false]
  rfl

/-! ### Values -/

/-- The text of `value` is read as `value`, whatever follows it. -/
def Reads (value : Json) : Prop :=
  ∀ (orClose : Bool) (frames : List Frame) (rest : List Char), Token.EndsNumber rest →
    (inside (.value orClose) frames).Reaches ((Json.render value).toList ++ rest)
      (put (Node.ofJson value) frames) rest

/-- A `value` whose text is one `token` is read. -/
theorem reads_of_token {value : Json} (token : Token) {c : Char} {cs : List Char}
    (text : (Json.render value).toList = c :: cs) (blank : Token.isBlank c = false)
    (other : token ≠ .closeArray)
    (taken : ∀ rest, Token.EndsNumber rest → Token.take (c :: (cs ++ rest)) = (token, rest))
    (fed : ∀ frames, feedValue token frames = put (Node.ofJson value) frames) : Reads value := by
  intro orClose frames rest ends
  rw [text, List.cons_append, ← fed, ← feed_value other orClose]
  exact reaches_token _ _ blank (taken rest ends) (by simp)

theorem reads_null : Reads .null :=
  reads_of_token .null rfl rfl (by decide) (fun _ _ => rfl) fun _ => rfl

theorem reads_bool (b : Bool) : Reads (.bool b) := by
  cases b
  · exact reads_of_token (.bool false) rfl rfl (by decide) (fun _ _ => rfl) fun _ => rfl
  · exact reads_of_token (.bool true) rfl rfl (by decide) (fun _ _ => rfl) fun _ => rfl

theorem reads_string (s : String) : Reads (.string s) :=
  reads_of_token (.string s) (Json.toList_render_string s) rfl (by simp)
    (fun rest _ => Token.take_quoted s rest) fun _ => rfl

theorem reads_integer (n : Json.Integer) : Reads (.number (.integer n)) := by
  have text : (Json.render (.number (.integer n))).toList =
      (Json.Number.integer n).text.toList := by
    simp [Json.render, Json.renderAfter]
  obtain ⟨c, cs, written, blank⟩ := Token.exists_text_integer n
  have other : Token.number (some (.integer n)) ≠ .closeArray := fun same => nomatch same
  refine reads_of_token _ (text.trans written) blank other (fun rest ends => ?_) fun _ => rfl
  rw [← List.cons_append, ← written]
  exact Token.take_integer n ends

/-! ### Containers -/

theorem endsNumber_mark {c : Char} (mark : c = ',' ∨ c = ']' ∨ c = '\x7d') (rest : List Char) :
    Token.EndsNumber (c :: rest) := by
  rintro d same
  obtain rfl := Option.some.inj same
  rcases mark with rfl | rfl | rfl <;> decide

theorem endsNumber_items (items : List Json) (rest : List Char) :
    Token.EndsNumber (Json.furtherItems items ++ ']' :: rest) := by
  cases items with
  | nil => exact endsNumber_mark (by simp) _
  | cons item items => exact endsNumber_mark (by simp) _

theorem endsNumber_members (members : List (String × Json)) (rest : List Char) :
    Token.EndsNumber (Json.furtherMembers members ++ '\x7d' :: rest) := by
  cases members with
  | nil => exact endsNumber_mark (by simp) _
  | cons member members => exact endsNumber_mark (by simp) _

/-- The further `items` of an array are read one after the other. -/
theorem reaches_items {items : List Json} (reads : ∀ item ∈ items, Reads item)
    (nodes : List Node) (frames : List Frame) (rest : List Char) :
    (inside .commaOrClose (.array nodes :: frames)).Reaches
      (Json.furtherItems items ++ ']' :: rest)
      (inside .commaOrClose (.array ((items.map Node.ofJson).reverse ++ nodes) :: frames))
      (']' :: rest) := by
  induction items generalizing nodes with
  | nil => exact .refl _ _
  | cons item items ih =>
    let after := (Json.render item).toList ++ (Json.furtherItems items ++ ']' :: rest)
    -- Each further item stands behind a comma, and after it the reading is where it was before.
    have written : Json.furtherItems (item :: items) ++ ']' :: rest = ',' :: after := by
      simp [Json.furtherItems, after]
    have comma : (inside .commaOrClose (.array nodes :: frames)).Reaches (',' :: after)
        (inside (.value false) (.array nodes :: frames)) after :=
      reaches_mark ',' .comma _ _ after rfl rfl
    have read := reads item List.mem_cons_self false (.array nodes :: frames) _
      (endsNumber_items items rest)
    have later := ih (fun other member => reads other (List.mem_cons_of_mem item member))
      (Node.ofJson item :: nodes)
    rw [List.map_cons, List.reverse_cons, List.append_assoc, written]
    exact (comma.trans read).trans later

theorem reads_array {items : List Json} (reads : ∀ item ∈ items, Reads item) :
    Reads (.array items) := by
  intro orClose frames rest ends
  rw [Node.ofJson, Node.ofItems_eq_map]
  have opens (after : List Char) : (inside (.value orClose) frames).Reaches ('[' :: after)
      (inside (.value true) (.array [] :: frames)) after := by
    have taken := reaches_mark '[' .openArray (.value orClose) frames after rfl rfl
    rwa [feed_value (by decide)] at taken
  -- An empty list is closed at once, without waiting for a comma.
  cases items with
  | nil =>
    have closes : (inside (.value true) (.array [] :: frames)).Reaches (']' :: rest)
        (put (.array [] true) frames) rest :=
      reaches_mark ']' .closeArray _ _ rest rfl rfl
    exact (opens (']' :: rest)).trans closes
  | cons item items =>
    have first := reads item List.mem_cons_self true (.array [] :: frames) _
      (endsNumber_items items rest)
    have later := reaches_items (fun other member => reads other (List.mem_cons_of_mem item member))
      [Node.ofJson item] frames rest
    have closes : (inside .commaOrClose
        (.array ((items.map Node.ofJson).reverse ++ [Node.ofJson item]) :: frames)).Reaches
          (']' :: rest) (put (.array ((item :: items).map Node.ofJson) true) frames) rest := by
      have taken := reaches_mark ']' .closeArray .commaOrClose
        (.array ((items.map Node.ofJson).reverse ++ [Node.ofJson item]) :: frames) rest rfl rfl
      simpa [feed, close] using taken
    rw [Json.toList_render_array]
    simpa using (((opens _).trans first).trans later).trans closes

/-- The member of `key` and `value` is read. -/
theorem reaches_member {value : Json} (reads : Reads value) (key : String) (orClose : Bool)
    (nodes : List (Option String × Node)) (frames : List Frame) {rest : List Char}
    (ends : Token.EndsNumber rest) :
    (inside (.key orClose) (.object nodes :: frames)).Reaches
      (Json.quoted key ++ ':' :: ((Json.render value).toList ++ rest))
      (inside .commaOrClose (.object ((some key, Node.ofJson value) :: nodes) :: frames)) rest := by
  let after := (Json.render value).toList ++ rest
  have name : (inside (.key orClose) (.object nodes :: frames)).Reaches
      (Json.quoted key ++ ':' :: after) (inside .colon (.member nodes (some key) :: frames))
      (':' :: after) :=
    reaches_token (.key orClose) (.object nodes :: frames) rfl
      (Token.take_quoted key (':' :: after)) (by simp; omega)
  have colon : (inside .colon (.member nodes (some key) :: frames)).Reaches (':' :: after)
      (inside (.value false) (.member nodes (some key) :: frames)) after :=
    reaches_mark ':' .colon _ _ after rfl rfl
  exact (name.trans colon).trans (reads false _ rest ends)

/-- The further `members` of an object are read one after the other. -/
theorem reaches_members {members : List (String × Json)}
    (reads : ∀ member ∈ members, Reads member.2) (nodes : List (Option String × Node))
    (frames : List Frame) (rest : List Char) :
    (inside .commaOrClose (.object nodes :: frames)).Reaches
      (Json.furtherMembers members ++ '\x7d' :: rest)
      (inside .commaOrClose (.object
        ((members.map fun member => (some member.1, Node.ofJson member.2)).reverse ++ nodes) ::
          frames)) ('\x7d' :: rest) := by
  induction members generalizing nodes with
  | nil => exact .refl _ _
  | cons member members ih =>
    let after := Json.quoted member.1 ++ ':' :: ((Json.render member.2).toList ++
      (Json.furtherMembers members ++ '\x7d' :: rest))
    -- Each further member stands behind a comma, and after it the reading is where it was before.
    have written : Json.furtherMembers (member :: members) ++ '\x7d' :: rest = ',' :: after := by
      simp [Json.furtherMembers, after]
    have comma : (inside .commaOrClose (.object nodes :: frames)).Reaches (',' :: after)
        (inside (.key false) (.object nodes :: frames)) after :=
      reaches_mark ',' .comma _ _ after rfl rfl
    have read := reaches_member (reads member List.mem_cons_self) member.1 false nodes frames
      (endsNumber_members members rest)
    have later := ih (fun other inside => reads other (List.mem_cons_of_mem member inside))
      ((some member.1, Node.ofJson member.2) :: nodes)
    rw [List.map_cons, List.reverse_cons, List.append_assoc, written]
    exact (comma.trans read).trans later

theorem reads_object {members : List (String × Json)}
    (reads : ∀ member ∈ members, Reads member.2) : Reads (.object members) := by
  intro orClose frames rest ends
  rw [Node.ofJson, Node.ofMembers_eq_map]
  have opens (after : List Char) : (inside (.value orClose) frames).Reaches ('\x7b' :: after)
      (inside (.key true) (.object [] :: frames)) after := by
    have taken := reaches_mark '\x7b' .openObject (.value orClose) frames after rfl rfl
    rwa [feed_value (by decide)] at taken
  -- An empty object is closed at once, without waiting for a comma.
  cases members with
  | nil =>
    have closes : (inside (.key true) (.object [] :: frames)).Reaches ('\x7d' :: rest)
        (put (.object [] true) frames) rest :=
      reaches_mark '\x7d' .closeObject _ _ rest rfl rfl
    exact (opens ('\x7d' :: rest)).trans closes
  | cons member members =>
    have first := reaches_member (reads member List.mem_cons_self) member.1 true [] frames
      (endsNumber_members members rest)
    have later := reaches_members
      (fun other inside => reads other (List.mem_cons_of_mem member inside))
      [(some member.1, Node.ofJson member.2)] frames rest
    have closes : (inside .commaOrClose (.object
        ((members.map fun member => (some member.1, Node.ofJson member.2)).reverse ++
          [(some member.1, Node.ofJson member.2)]) :: frames)).Reaches ('\x7d' :: rest)
        (put (.object ((member :: members).map fun member =>
          (some member.1, Node.ofJson member.2)) true) frames) rest := by
      have taken := reaches_mark '\x7d' .closeObject .commaOrClose (.object
        ((members.map fun member => (some member.1, Node.ofJson member.2)).reverse ++
          [(some member.1, Node.ofJson member.2)]) :: frames) rest rfl rfl
      simpa [feed, close] using taken
    rw [Json.toList_render_object]
    simpa using (((opens _).trans first).trans later).trans closes

/-- Every `value` without floating-point numbers `Reads`. -/
theorem reads_of_floatFree {value : Json} (free : value.FloatFree) : Reads value := by
  induction free with
  | null => exact reads_null
  | bool b => exact reads_bool b
  | integer n => exact reads_integer n
  | string s => exact reads_string s
  | array inner ih => exact reads_array ih
  | object inner ih => exact reads_object ih

end Reading

/-- `value.render` is read as the node of `value`, and nothing is left over. -/
theorem Document.read_render {value : Json} (free : value.FloatFree) :
    read value.render = ⟨Node.ofJson value, false⟩ := by
  obtain ⟨used, fits, goes⟩ :=
    Reading.reads_of_floatFree free false [] [] fun c none => nomatch none
  rw [List.append_nil, List.length_nil, Nat.add_zero] at fits
  have ends (count : Nat) : (Reading.complete (Node.ofJson value)).run [] count =
      .complete (Node.ofJson value) := by
    cases count <;> rfl
  -- Reading goes on for as many steps as there are characters; those that are left change nothing.
  have whole := goes (value.render.toList.length - used)
  rw [List.append_nil, Nat.add_sub_cancel' fits] at whole
  rw [read, Reading.start, whole]
  simp only [Reading.put, ends]
  rfl

/-! ### The value that is read -/

/-- If `f` fails on items without `p` and gives `g` of the others, `mapM f` gives `xs.map g` where
all have `p`, and fails otherwise. -/
theorem mapM_of_ite {m : Type → Type} [Monad m] [LawfulMonad m] {α β : Type} {f : α → m β}
    (fail : (γ : Type) → m γ) (absorbs : ∀ (γ δ : Type) (k : γ → m δ), fail γ >>= k = fail δ)
    {p : α → Prop} [DecidablePred p] {g : α → β} {xs : List α}
    (each : ∀ x ∈ xs, f x = if p x then pure (g x) else fail β) :
    xs.mapM f = if ∀ x ∈ xs, p x then pure (xs.map g) else fail (List β) := by
  induction xs with
  | nil => simp
  | cons x xs ih =>
    have rest := ih fun y member => each y (List.mem_cons_of_mem x member)
    rw [List.mapM_cons, each x List.mem_cons_self, rest]
    -- All are right, a later one fails, or this one fails before any other is tried.
    by_cases first : p x
    · by_cases later : ∀ y ∈ xs, p y
      · rw [if_pos first, if_pos later, if_pos (List.forall_mem_cons.2 ⟨first, later⟩), pure_bind,
          pure_bind, List.map_cons]
      · rw [if_pos first, if_neg later, if_neg fun all => later (List.forall_mem_cons.1 all).2,
          pure_bind, absorbs]
    · rw [if_neg first, if_neg fun all => first (List.forall_mem_cons.1 all).1, absorbs]

namespace Node

/-- The node of a `value` is read as `value` exactly if its depth is within `depth`. -/
theorem value?_ofJson {value : Json} (ordered : value.Ordered) (depth : Nat) :
    (ofJson value).value? depth = if value.depth ≤ depth then some value else none := by
  induction ordered generalizing depth with
  | null | bool b | number n | string s => simp [ofJson, value?, Json.depth]
  | @array items inner ih =>
    cases depth with
    | zero => simp [ofJson, value?, Json.depth]
    | succ room =>
      -- With one level less for what is inside, the items are read or one of them fails.
      have all := mapM_of_ite (m := Option) (fun _ => none) (fun _ _ _ => rfl)
        fun item member => ih item member room
      rw [ofJson, ofItems_eq_map, value?, List.mapM_map, Function.comp_def, all]
      simp only [List.map_id', Json.depth_array_le_iff]
      split <;> rfl
  | @object members apart inner ih =>
    cases depth with
    | zero => simp [ofJson, value?, Json.depth]
    | succ room =>
      let read (member : String × Json) : Option (String × Json) :=
        ((ofJson member.2).value? room).bind fun value => some (member.1, value)
      -- The keys have no part in this: a member is read if its value is.
      have each (member : String × Json) (inside : member ∈ members) :
          read member = if member.2.depth ≤ room then some (id member) else none := by
        simp only [read, ih member inside room]
        split <;> rfl
      have all : members.mapM read = _ :=
        mapM_of_ite (fun _ => none) (fun _ _ _ => rfl) each
      rw [ofJson, ofMembers_eq_map, value?, List.mapM_map]
      show (members.mapM read).map Json.ofMembers = _
      simp only [all, List.map_id, Json.depth_object_le_iff]
      split
      · exact congrArg some (Json.ofMembers_of_pairwise apart)
      · rfl

end Node

/-- A `value` is read back from `value.render`, if it is not deeper than `Node.maxDepth`. -/
theorem Json.parse?_render {value : Json} (free : value.FloatFree) (ordered : value.Ordered) :
    parse? value.render = if value.depth ≤ Node.maxDepth then some value else none := by
  rw [parse?, Document.read_render free]
  exact Node.value?_ofJson ordered _

theorem Decoder.any_ofJson {value : Json} (ordered : value.Ordered) (depth : Nat) :
    any depth (Node.ofJson value) =
      if value.depth ≤ depth then .ok value else .error .malformed := by
  rw [any, Node.value?_ofJson ordered]
  by_cases fits : value.depth ≤ depth
  · rw [if_pos fits, if_pos fits]
  · rw [if_neg fits, if_neg fits]

end StateChannel
