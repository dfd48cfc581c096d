import Mathlib.Data.List.Induction
import StateChannel.Proofs.Json.Written
import StateChannel.Relay.IpAddress

/-!
# Addresses survive being written

The text of an address is read as the address, whichever zeros are left out of it.

## Main definitions

* `Ipv6.EndsGroup`: no group goes on here
* `Ipv6.IsRun`: a run of zero groups

## Main results

* `Ipv4.take?_text`: the four numbers are read as they were written
* `Ipv6.takeGroups_joined`: groups with colons between them are read as they were written
* `Ipv6.isRun_longestRun`: what is left out of a text are zero groups
* `IpAddress.parse?_text`: the text of an address is read as the address
-/

namespace StateChannel

/-- `takeWhile p` and `dropWhile p` part `front ++ rest` at `rest`, if `p` holds throughout `front`
and not at the head of `rest`. -/
theorem takeWhile_dropWhile_append {p : Char → Bool} {front rest : List Char}
    (all : ∀ c ∈ front, p c = true) (ends : ∀ c ∈ rest.head?, p c = false) :
    (front ++ rest).takeWhile p = front ∧ (front ++ rest).dropWhile p = rest := by
  rw [List.takeWhile_append_of_pos all, List.dropWhile_append_of_pos all]
  cases rest with
  | nil => simp
  | cons c rest => simp [ends c rfl]

/-! ### Version four -/

namespace Ipv4

/-- `number?` reads the decimal digits of `a` up to a `rest` that does not start with a digit. -/
theorem number?_toDigits (a : UInt8) {rest : List Char}
    (ends : ∀ c ∈ rest.head?, c.isDigit = false) :
    number? (Nat.toDigits 10 a.toNat ++ rest) = some (a, rest) := by
  have bound := a.toNat_lt
  obtain ⟨taken, dropped⟩ := takeWhile_dropWhile_append
    (fun c member => isDigit_of_mem_toDigits (n := a.toNat) member) ends
  have short : (Nat.toDigits 10 a.toNat).length ≤ 3 :=
    (Nat.length_toDigits_le_iff (by decide) (by decide)).2 (by omega)
  have first : (Nat.toDigits 10 a.toNat).head? ≠ some '0' ∨
      (Nat.toDigits 10 a.toNat).length = 1 := by
    rcases Nat.eq_zero_or_pos a.toNat with zero | positive
    · rw [zero]
      exact .inr rfl
    · exact .inl (head?_toDigits_ne positive)
  simp only [number?, taken, dropped, Nat.ofDigitChars_ten_toDigits]
  rw [if_pos ⟨Nat.toDigits_ne_nil, short, first, bound⟩, UInt8.ofNat_toNat]

/-- The characters of `ip.text`: the four numbers with points between them. -/
theorem toList_text (ip : Ipv4) : ip.text.toList =
    Nat.toDigits 10 ip.a.toNat ++ '.' :: (Nat.toDigits 10 ip.b.toNat ++
      '.' :: (Nat.toDigits 10 ip.c.toNat ++ '.' :: Nat.toDigits 10 ip.d.toNat)) := by
  simp only [text, Nat.toString_eq_ofList_toDigits, String.toList_append, String.toList_ofList,
    List.append_assoc]
  rfl

theorem take?_text (ip : Ipv4) : take? ip.text.toList = some (ip, []) := by
  have point (rest : List Char) : ∀ c ∈ ('.' :: rest).head?, c.isDigit = false := by
    rintro c ⟨⟩
    decide
  have ends : ∀ c ∈ ([] : List Char).head?, c.isDigit = false := nofun
  have last := number?_toDigits ip.d ends
  rw [List.append_nil] at last
  rw [toList_text, take?]
  simp [number?_toDigits _ (point _), pointed?, last]

/-- `Ipv4.take?` takes nothing from `cs` if no point follows its first digits. -/
theorem take?_eq_none {cs : List Char} (noPoint : (cs.dropWhile Char.isDigit).head? ≠ some '.') :
    take? cs = none := by
  have after {a : UInt8} {rest : List Char} (read : number? cs = some (a, rest)) :
      pointed? rest = none := by
    simp only [number?] at read
    split at read
    · obtain ⟨-, rfl⟩ := Prod.mk.inj (Option.some.inj read)
      unfold pointed?
      split
      · next same => exact absurd (congrArg List.head? same) noPoint
      · rfl
    · exact nomatch read
  rw [take?]
  cases read : number? cs with
  | none => rfl
  | some first => simp [after read]

end Ipv4

/-! ### Groups -/

namespace Ipv6

theorem exists_digit_of_mem_toDigits {n : Nat} {c : Char} (member : c ∈ Nat.toDigits 16 n) :
    ∃ digit < 16, c = Nat.digitChar digit := by
  induction n using Nat.strongRecOn with
  | _ n ih =>
    rw [Nat.toDigits_eq_if (by decide)] at member
    split at member
    · next small => exact ⟨n, small, List.mem_singleton.1 member⟩
    · rcases List.mem_append.1 member with front | last
      · exact ih (n / 16) (by omega) front
      · exact ⟨n % 16, Nat.mod_lt _ (by decide), List.mem_singleton.1 last⟩

theorem value?_digitChar {digit : Nat} (small : digit < 16) :
    Hex.value? (Nat.digitChar digit) = some digit := by
  have all : ∀ d : Fin 16, Hex.value? (Nat.digitChar d) = some d.val := by decide
  exact all ⟨digit, small⟩

/-- The hexadecimal digits of `n`, folded in base 16, give `n`. -/
theorem foldl_toDigits (n : Nat) : ((Nat.toDigits 16 n).filterMap Hex.value?).foldl
    (fun n digit => 16 * n + digit) 0 = n := by
  induction n using Nat.strongRecOn with
  | _ n ih =>
    rw [Nat.toDigits_eq_if (by decide)]
    split
    · next small => simp [value?_digitChar small]
    · have last := value?_digitChar (Nat.mod_lt n (show 0 < 16 by decide))
      rw [List.filterMap_append, List.foldl_append, ih (n / 16) (by omega)]
      simp only [List.filterMap_cons, last, List.filterMap_nil, List.foldl_cons, List.foldl_nil]
      omega

/-- At `rest` a group ends: no hexadecimal digit follows, and no point. -/
def EndsGroup (rest : List Char) : Prop := ∀ c ∈ rest.head?, ¬ Hex.IsDigit c ∧ c ≠ '.'

theorem endsGroup_nil : EndsGroup [] := fun _ none => nomatch none

theorem endsGroup_colon (rest : List Char) : EndsGroup (':' :: rest) := by
  rintro c ⟨⟩
  decide

/-- `group?` reads the hexadecimal digits of `g` up to a `rest` that `EndsGroup`. -/
theorem group?_toDigits (g : UInt16) {rest : List Char} (ends : EndsGroup rest) :
    group? (Nat.toDigits 16 g.toNat ++ rest) = some (g, rest) := by
  have digits (c : Char) (member : c ∈ Nat.toDigits 16 g.toNat) :
      decide (Hex.IsDigit c) = true := by
    obtain ⟨digit, small, rfl⟩ := exists_digit_of_mem_toDigits member
    rw [decide_eq_true_iff, Hex.IsDigit, value?_digitChar small]
    rfl
  obtain ⟨taken, dropped⟩ := takeWhile_dropWhile_append digits
    fun c first => decide_eq_false (ends c first).1
  have short : (Nat.toDigits 16 g.toNat).length ≤ 4 :=
    (Nat.length_toDigits_le_iff (by decide) (by decide)).2 g.toNat_lt
  simp only [group?, taken, dropped, foldl_toDigits]
  rw [if_pos ⟨Nat.toDigits_ne_nil, short⟩, UInt16.ofNat_toNat]

/-- `Ipv4.take?` takes nothing from the digits of a group `g` before a `rest` that `EndsGroup`. -/
theorem take?_toDigits (g : UInt16) {rest : List Char} (ends : EndsGroup rest) :
    Ipv4.take? (Nat.toDigits 16 g.toNat ++ rest) = none := by
  refine Ipv4.take?_eq_none ?_
  have noPoint (c : Char) (member : c ∈ Nat.toDigits 16 g.toNat) : c ≠ '.' := by
    obtain ⟨digit, small, rfl⟩ := exists_digit_of_mem_toDigits member
    have all : ∀ d : Fin 16, Nat.digitChar d ≠ '.' := by decide
    exact all ⟨digit, small⟩
  generalize Nat.toDigits 16 g.toNat = cs at noPoint
  -- The digits that are dropped may be all of the group, but none behind it.
  induction cs with
  | nil =>
    cases rest with
    | nil => simp
    | cons c rest =>
      obtain ⟨noDigit, notPoint⟩ := ends c rfl
      have decimal : c.isDigit = false := by
        refine Bool.eq_false_iff.2 fun digit => noDigit ?_
        have bounds : '0' ≤ c ∧ c ≤ '9' := by simpa [Char.isDigit, Char.le_def] using digit
        simp [Hex.IsDigit, Hex.value?, bounds]
      simp [decimal, notPoint]
  | cons c cs ih =>
    rw [List.cons_append, List.dropWhile_cons]
    split
    · exact ih fun d member => noPoint d (List.mem_cons_of_mem c member)
    · simpa using noPoint c List.mem_cons_self

/-- What stands behind the first group: each of `groups` after a colon. -/
def further (groups : List UInt16) : List Char :=
  groups.flatMap fun g => ':' :: Nat.toDigits 16 g.toNat

theorem toList_joined (g : UInt16) (groups : List UInt16) :
    (joined (g :: groups)).toList = Nat.toDigits 16 g.toNat ++ further groups := by
  rw [joined, String.toList_ofList]
  induction groups generalizing g with
  | nil => simp [further]
  | cons h groups ih =>
    have rest := ih h
    rw [List.map_cons] at rest
    rw [List.map_cons, List.map_cons, List.intercalate_cons_cons, rest]
    simp [further]

/-- The colon in front of every group but the first. -/
def colon (first : Bool) : List Char := if first then [] else [':']

theorem passColon_colon (first : Bool) (cs : List Char) :
    passColon first (colon first ++ cs) = some cs := by
  cases first with
  | false => rfl
  | true =>
    show passColon true cs = some cs
    unfold passColon
    split <;> rfl

/-- `takeGroups` reads the group `g` and then goes on with `rest`. -/
theorem takeGroups_cons (first : Bool) (g : UInt16) {rest : List Char} (ends : EndsGroup rest)
    (limit : Nat) : takeGroups first (colon first ++ (Nat.toDigits 16 g.toNat ++ rest)) (limit + 1) =
      (g :: (takeGroups false rest limit).1, (takeGroups false rest limit).2) := by
  rw [takeGroups, passColon_colon, Option.bind_some, Option.bind_some, take?_toDigits g ends,
    group?_toDigits g ends, ite_self]

theorem endsGroup_further (groups : List UInt16) {rest : List Char} (ends : EndsGroup rest) :
    EndsGroup (further groups ++ rest) := by
  cases groups with
  | nil => exact ends
  | cons g groups => exact endsGroup_colon _

theorem takeGroups_further (groups : List UInt16) {rest : List Char} (ends : EndsGroup rest)
    {limit : Nat} (room : groups.length ≤ limit) :
    takeGroups false (further groups ++ rest) limit =
      (groups ++ (takeGroups false rest (limit - groups.length)).1,
        (takeGroups false rest (limit - groups.length)).2) := by
  induction groups generalizing limit with
  | nil => rfl
  | cons g groups ih =>
    obtain ⟨limit, rfl⟩ := Nat.exists_eq_add_of_le' (Nat.lt_of_lt_of_le (Nat.succ_pos _) room)
    have written : further (g :: groups) ++ rest =
        colon false ++ (Nat.toDigits 16 g.toNat ++ (further groups ++ rest)) := by
      simp [further, colon]
    rw [written, takeGroups_cons false g (endsGroup_further groups ends),
      ih (Nat.le_of_succ_le_succ room), List.length_cons, Nat.add_sub_add_right]
    rfl

/-- `takeGroups` ends where neither `group?` nor `Ipv4.take?` reads anything. -/
theorem takeGroups_of_none (first : Bool) {cs : List Char} (limit : Nat)
    (noGroup : (passColon first cs).bind group? = none)
    (noAddress : (passColon first cs).bind Ipv4.take? = none) :
    takeGroups first cs limit = ([], false, cs) := by
  cases limit with
  | zero => rfl
  | succ limit => rw [takeGroups, noGroup, noAddress, ite_self]

theorem takeGroups_nil (first : Bool) (limit : Nat) :
    takeGroups first [] limit = ([], false, []) := by
  cases first <;> exact takeGroups_of_none _ limit (by decide) (by decide)

/-- `takeGroups` ends before two colons. -/
theorem takeGroups_gap (first : Bool) (rest : List Char) (limit : Nat) :
    takeGroups first (':' :: ':' :: rest) limit = ([], false, ':' :: ':' :: rest) := by
  cases first <;> exact takeGroups_of_none _ limit rfl rfl

/-- `takeGroups` reads `groups` that are `joined`, up to the end of the text or up to two
colons. -/
theorem takeGroups_joined (groups : List UInt16) (rest : List Char)
    (ends : rest = [] ∨ ∃ more, rest = ':' :: ':' :: more) (limit : Nat)
    (room : groups.length ≤ limit) :
    takeGroups true ((joined groups).toList ++ rest) limit = (groups, false, rest) := by
  have stops (first : Bool) (limit : Nat) : takeGroups first rest limit = ([], false, rest) := by
    rcases ends with rfl | ⟨more, rfl⟩
    · exact takeGroups_nil first limit
    · exact takeGroups_gap first more limit
  have endsGroup : EndsGroup rest := by
    rcases ends with rfl | ⟨more, rfl⟩
    · exact endsGroup_nil
    · exact endsGroup_colon _
  cases groups with
  | nil => exact stops true limit
  | cons g groups =>
    obtain ⟨limit, rfl⟩ := Nat.exists_eq_add_of_le' (Nat.lt_of_lt_of_le (Nat.succ_pos _) room)
    rw [toList_joined, List.append_assoc]
    refine (takeGroups_cons true g (endsGroup_further groups endsGroup) limit).trans ?_
    rw [takeGroups_further groups endsGroup (Nat.le_of_succ_le_succ room), stops, List.append_nil]

/-! ### What is left out -/

/-- The `run` is a stretch of zero groups in `groups`. -/
def IsRun (groups : List UInt16) (run : Run) : Prop :=
  ∃ front back, groups = front ++ List.replicate run.length 0 ++ back ∧ front.length = run.start

/-- The `run` with the group at `i` added to it, or a new run that starts at `i`. -/
def Run.extend (run : Run) (i : Nat) : Run :=
  if run.length = 0 then ⟨i, 1⟩ else ⟨run.start, run.length + 1⟩

/-- The longest run and the current one, when one more `group` has been looked at. -/
def lookAt (runs : Run × Run) (group : UInt16 × Nat) : Run × Run :=
  if group.1 = 0 then
    let current := runs.2.extend group.2
    (if current.length > runs.1.length then current else runs.1, current)
  else (runs.1, ⟨0, 0⟩)

theorem longestRun_eq (groups : List UInt16) :
    longestRun groups = (groups.zipIdx.foldl lookAt (⟨0, 0⟩, ⟨0, 0⟩)).1 := rfl

/-- The `run` ends where `groups` end, or is empty. -/
def IsLast (groups : List UInt16) (run : Run) : Prop :=
  ∃ front, groups = front ++ List.replicate run.length 0 ∧
    (run.length ≠ 0 → front.length = run.start)

theorem IsRun.append {groups : List UInt16} {run : Run} (isRun : IsRun groups run)
    (more : List UInt16) : IsRun (groups ++ more) run := by
  obtain ⟨front, back, same, start⟩ := isRun
  exact ⟨front, back ++ more, by rw [same, List.append_assoc _ back], start⟩

theorem length_extend_ne_zero (run : Run) (i : Nat) : (run.extend i).length ≠ 0 := by
  unfold Run.extend
  split
  · exact Nat.one_ne_zero
  · exact Nat.succ_ne_zero _

theorem IsLast.extend {groups : List UInt16} {run : Run} (isLast : IsLast groups run) :
    IsLast (groups ++ [0]) (run.extend groups.length) := by
  obtain ⟨front, same, start⟩ := isLast
  unfold Run.extend
  split
  · exact ⟨groups, rfl, fun _ => rfl⟩
  · next some =>
    refine ⟨front, ?_, fun _ => start some⟩
    rw [List.replicate_succ', ← List.append_assoc, ← same]

theorem IsLast.isRun {groups : List UInt16} {run : Run} (isLast : IsLast groups run)
    (some : run.length ≠ 0) : IsRun groups run := by
  obtain ⟨front, same, start⟩ := isLast
  exact ⟨front, [], by rw [List.append_nil, same], start some⟩

/-- **What is left out of a text** is a run of zero groups: `longestRun groups` satisfies
`IsRun`. -/
theorem isRun_longestRun (groups : List UInt16) : IsRun groups (longestRun groups) := by
  rw [longestRun_eq]
  suffices both : IsRun groups (groups.zipIdx.foldl lookAt (⟨0, 0⟩, ⟨0, 0⟩)).1 ∧
      IsLast groups (groups.zipIdx.foldl lookAt (⟨0, 0⟩, ⟨0, 0⟩)).2 from both.1
  -- On the groups from the front, as they are looked at: the current run ends where they end.
  induction groups using List.reverseRecOn with
  | nil => exact ⟨⟨[], [], rfl, rfl⟩, [], rfl, fun _ => rfl⟩
  | append_singleton groups g ih =>
    have last : (groups ++ [g]).zipIdx.foldl lookAt (⟨0, 0⟩, ⟨0, 0⟩) =
        lookAt (groups.zipIdx.foldl lookAt (⟨0, 0⟩, ⟨0, 0⟩)) (g, groups.length) := by
      simp [List.zipIdx_append]
    rw [last]
    generalize groups.zipIdx.foldl lookAt (⟨0, 0⟩, ⟨0, 0⟩) = runs at ih
    obtain ⟨longest, current⟩ := ih
    unfold lookAt
    split
    · next zero =>
      obtain rfl : g = 0 := zero
      refine ⟨?_, current.extend⟩
      show IsRun _ (if _ then _ else _)
      split
      · exact current.extend.isRun (length_extend_ne_zero _ _)
      · exact longest.append [0]
    · exact ⟨longest.append [g], groups ++ [g], (List.append_nil _).symm,
        fun some => absurd rfl some⟩

/-! ### Version six -/

/-- The forms that the text of some groups can have: `mapped` with the address of version four that
it stands for, `compressed` around two colons, or `full`. -/
inductive Form : List UInt16 → List Char → Prop
  | mapped (g h : UInt16) : Form [0, 0, 0, 0, 0, 0xffff, g, h]
      (':' :: ':' :: (Nat.toDigits 16 0xffff ++ ':' :: (Ipv4.mk (UInt8.ofNat (g.toNat / 256))
        (UInt8.ofNat g.toNat) (UInt8.ofNat (h.toNat / 256)) (UInt8.ofNat h.toNat)).text.toList))
  | compressed {front back : List UInt16} {count : Nat} (some : 1 < count) :
      Form (front ++ (List.replicate count 0 ++ back))
        ((joined front).toList ++ ':' :: ':' :: (joined back).toList)
  | full (groups : List UInt16) : Form groups (joined groups).toList

theorem form_text (ip : Ipv6) : Form ip.groups ip.text.toList := by
  unfold text
  split
  · next g h same =>
    rw [same, String.toList_append]
    exact .mapped g h
  · dsimp only
    split
    · next some =>
      obtain ⟨front, back, same, start⟩ := isRun_longestRun ip.groups
      generalize longestRun ip.groups = run at some same start
      have before : ip.groups.take run.start = front := by
        rw [same, List.append_assoc, ← start, List.take_left]
      have after : ip.groups.drop (run.start + run.length) = back := by
        rw [same, ← start]
        exact List.drop_left' (by simp)
      rw [before, after, same, String.toList_append, String.toList_append, List.append_assoc,
        List.append_assoc]
      exact .compressed some
    · exact .full ip.groups

/-- The halves of `g` and `h`, as four bytes, give `g` and `h` again. -/
theorem groups_ofHalves (g h : UInt16) : (Ipv4.mk (UInt8.ofNat (g.toNat / 256))
    (UInt8.ofNat g.toNat) (UInt8.ofNat (h.toNat / 256)) (UInt8.ofNat h.toNat)).groups = [g, h] := by
  have joins (n : UInt16) : UInt16.ofNat (256 * (UInt8.ofNat (n.toNat / 256)).toNat +
      (UInt8.ofNat n.toNat).toNat) = n := by
    have bound := n.toNat_lt
    have high : (UInt8.ofNat (n.toNat / 256)).toNat = n.toNat / 256 :=
      UInt8.toNat_ofNat_of_lt' (by simp only [UInt8.size]; omega)
    have low : (UInt8.ofNat n.toNat).toNat = n.toNat % 256 := UInt8.toNat_ofNat'
    rw [high, low, Nat.div_add_mod, UInt16.ofNat_toNat]
  rw [Ipv4.groups, joins, joins]

theorem ofGroups?_groups (ip : Ipv6) : ofGroups? ip.groups = some ip := dif_pos ip.length_eq

/-- `Ipv6.take?` reads `ip.text` as `ip`, to the end. -/
theorem take?_text (ip : Ipv6) : take? ip.text.toList = some (ip, []) := by
  have form := form_text ip
  have whole := ofGroups?_groups ip
  have eight := ip.length_eq
  generalize ip.text.toList = cs, ip.groups = groups at form whole eight
  -- What stands around the colons adds up to eight groups, so the gap is as long as it was.
  cases form with
  | mapped g h =>
    have first (rest : List Char) : takeGroups true (Nat.toDigits 16 0xffff ++ ':' :: rest) 7 =
        (0xffff :: (takeGroups false (':' :: rest) 6).1, (takeGroups false (':' :: rest) 6).2) :=
      takeGroups_cons true 0xffff (endsGroup_colon rest) 6
    have groups := groups_ofHalves g h
    generalize Ipv4.mk (UInt8.ofNat (g.toNat / 256)) (UInt8.ofNat g.toNat)
      (UInt8.ofNat (h.toNat / 256)) (UInt8.ofNat h.toNat) = four at groups
    have last : takeGroups false (':' :: four.text.toList) 6 = ([g, h], true, []) := by
      rw [takeGroups]
      simp [passColon, Ipv4.take?_text, groups]
    rw [take?, takeGroups_gap]
    simp [first, last, whole, List.replicate]
  | @compressed front back count some =>
    simp only [List.length_append, List.length_replicate] at eight
    have before := takeGroups_joined front (':' :: ':' :: (joined back).toList) (.inr ⟨_, rfl⟩) 8
      (by omega)
    have after := takeGroups_joined back [] (.inl rfl) (7 - front.length) (by omega)
    rw [List.append_nil] at after
    have zeros : 8 - front.length - back.length = count := by omega
    have short : front.length ≠ 8 := by omega
    rw [take?, before]
    simp [short, after, zeros, whole]
  | full =>
    have all := takeGroups_joined groups [] (.inl rfl) 8 (by omega)
    rw [List.append_nil] at all
    rw [take?, all]
    simp [eight, whole]

/-- `Ipv4.take?` takes nothing from the text of an `Ipv6`. -/
theorem take?_text_eq_none (ip : Ipv6) : Ipv4.take? ip.text.toList = none := by
  have form := form_text ip
  have eight := ip.length_eq
  generalize ip.text.toList = cs, ip.groups = groups at form eight
  cases form with
  | mapped g h => exact Ipv4.take?_eq_none (by simp)
  | @compressed front back count some =>
    cases front with
    | nil => exact Ipv4.take?_eq_none (by simp [joined])
    | cons g front =>
      rw [toList_joined, List.append_assoc]
      exact take?_toDigits g (endsGroup_further front (endsGroup_colon _))
  | full =>
    cases groups with
    | nil => exact nomatch eight
    | cons g groups =>
      have nothing := endsGroup_further groups endsGroup_nil
      rw [List.append_nil] at nothing
      rw [toList_joined]
      exact take?_toDigits g nothing

end Ipv6

/-- **The text of an address is read as the address**: `parse? ip.text = some ip`. -/
theorem IpAddress.parse?_text (ip : IpAddress) : parse? ip.text = some ip := by
  cases ip with
  | v4 ip => simp [parse?, text, Ipv4.take?_text]
  | v6 ip => simp [parse?, text, Ipv6.take?_text_eq_none, Ipv6.take?_text]

end StateChannel
