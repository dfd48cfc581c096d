import StateChannel.Bytes.Hex

/-!
# Internet addresses

Addresses of both versions with their texts. Version four is four decimal numbers. Version six
is eight groups of hexadecimal digits; the longest run of at least two zero groups, the first
of those equally long, is written as two colons, and an address that stands for one of version
four shows it.

## Main definitions

* `IpAddress`, `IpAddress.parse?`, `IpAddress.text`: addresses, read and written
* `IpAddress.withPort`: an address with a port

## Main results

* `IpAddress.parse?_loopback`: the address of the own host reads as such
-/

namespace StateChannel

/-- An address of version four. -/
structure Ipv4 where
  a : UInt8
  b : UInt8
  c : UInt8
  d : UInt8
  deriving DecidableEq, Repr

/-- An address of version six: eight groups of sixteen bits. -/
structure Ipv6 where
  groups : List UInt16
  length_eq : groups.length = 8
  deriving DecidableEq, Repr

/-- An address. -/
inductive IpAddress
  | v4 (address : Ipv4)
  | v6 (address : Ipv6)
  deriving DecidableEq, Repr

namespace Ipv4

/-- Reads a decimal number of at most 255 in up to three digits, without leading zeros. -/
def number? (cs : List Char) : Option (UInt8 × List Char) :=
  let digits := cs.takeWhile Char.isDigit
  let n := Nat.ofDigitChars 10 digits 0
  if digits ≠ [] ∧ digits.length ≤ 3 ∧ (digits.head? ≠ some '0' ∨ digits.length = 1) ∧ n < 256 then
    some (UInt8.ofNat n, cs.dropWhile Char.isDigit)
  else none

/-- Reads a point and a number. -/
def pointed? : List Char → Option (UInt8 × List Char)
  | '.' :: rest => number? rest
  | _ => none

/-- Reads four numbers. -/
def take? (cs : List Char) : Option (Ipv4 × List Char) := do
  let (a, cs) ← number? cs
  let (b, cs) ← pointed? cs
  let (c, cs) ← pointed? cs
  let (d, cs) ← pointed? cs
  some (⟨a, b, c, d⟩, cs)

/-- The four numbers with points between them. -/
def text (ip : Ipv4) : String :=
  toString ip.a.toNat ++ "." ++ toString ip.b.toNat ++ "." ++ toString ip.c.toNat ++ "." ++
    toString ip.d.toNat

/-- The two groups of an address within one of version six. -/
def groups (ip : Ipv4) : List UInt16 :=
  [UInt16.ofNat (256 * ip.a.toNat + ip.b.toNat), UInt16.ofNat (256 * ip.c.toNat + ip.d.toNat)]

end Ipv4

namespace Ipv6

/-- Reads a group: up to four hexadecimal digits. -/
def group? (cs : List Char) : Option (UInt16 × List Char) :=
  let digits := cs.takeWhile (fun c => decide (Hex.IsDigit c))
  let n := (digits.filterMap Hex.value?).foldl (fun n digit => 16 * n + digit) 0
  if digits ≠ [] ∧ digits.length ≤ 4 then
    some (UInt16.ofNat n, cs.dropWhile (fun c => decide (Hex.IsDigit c)))
  else none

/-- Passes the colon in front of every group but the first. -/
def passColon (first : Bool) : List Char → Option (List Char)
  | ':' :: rest => if first then some (':' :: rest) else some rest
  | cs => if first then some cs else none

/-- Reads up to `limit` groups; in place of two of them an address of version four may stand
at the end, which the last part of the answer tells. -/
def takeGroups (first : Bool) (cs : List Char) : Nat → List UInt16 × Bool × List Char
  | 0 => ([], false, cs)
  | limit + 1 =>
    -- An address of version four fills two groups, so two must be left.
    let embedded := if limit = 0 then none else (passColon first cs).bind Ipv4.take?
    match embedded with
    | some (ip, rest) => (ip.groups, true, rest)
    | none =>
      match (passColon first cs).bind group? with
      | none => ([], false, cs)
      | some (g, rest) =>
        let (more, isEmbedded, rest) := takeGroups false rest limit
        (g :: more, isEmbedded, rest)

/-- The address with the given groups, when there are eight of them. -/
def ofGroups? (groups : List UInt16) : Option Ipv6 :=
  if h : groups.length = 8 then some ⟨groups, h⟩ else none

/-- Reads an address: eight groups, or fewer with two colons that stand for at least one zero
group. No address of version four stands before the two colons. -/
def take? (cs : List Char) : Option (Ipv6 × List Char) :=
  let (front, isEmbedded, rest) := takeGroups true cs 8
  if front.length = 8 then (ofGroups? front).map (·, rest)
  else if isEmbedded then none
  else match rest with
    | ':' :: ':' :: rest =>
      let (back, _, rest) := takeGroups true rest (7 - front.length)
      let zeros := List.replicate (8 - front.length - back.length) 0
      (ofGroups? (front ++ zeros ++ back)).map (·, rest)
    | _ => none

/-- A run of zero groups: where it starts and how long it is. -/
structure Run where
  start : Nat
  length : Nat

/-- The longest run of zero groups, the first of those equally long. -/
def longestRun (groups : List UInt16) : Run :=
  (groups.zipIdx.foldl
    (fun (longest, current) (g, i) =>
      if g = 0 then
        let current : Run :=
          if current.length = 0 then ⟨i, 1⟩ else ⟨current.start, current.length + 1⟩
        (if current.length > longest.length then current else longest, current)
      else (longest, ⟨0, 0⟩))
    ((⟨0, 0⟩, ⟨0, 0⟩) : Run × Run)).1

/-- Groups with colons between them. -/
def joined (groups : List UInt16) : String :=
  String.ofList (List.intercalate [':'] (groups.map fun g => Nat.toDigits 16 g.toNat))

/-- The written form. -/
def text (ip : Ipv6) : String :=
  match ip.groups with
  | [0, 0, 0, 0, 0, 0xffff, g, h] =>
    "::ffff:" ++ Ipv4.text ⟨UInt8.ofNat (g.toNat / 256), UInt8.ofNat g.toNat,
      UInt8.ofNat (h.toNat / 256), UInt8.ofNat h.toNat⟩
  | groups =>
    let run := longestRun groups
    if run.length > 1 then
      joined (groups.take run.start) ++ "::" ++ joined (groups.drop (run.start + run.length))
    else joined groups

end Ipv6

namespace IpAddress

/-- Reads an address, of version four where it starts as one. -/
def parse? (text : String) : Option IpAddress :=
  match Ipv4.take? text.toList with
  | some (ip, rest) => if rest = [] then some (.v4 ip) else none
  | none =>
    match Ipv6.take? text.toList with
    | some (ip, rest) => if rest = [] then some (.v6 ip) else none
    | none => none

/-- The written form. -/
def text : IpAddress → String
  | .v4 ip => ip.text
  | .v6 ip => ip.text

/-- The address of the own host. -/
def loopback : IpAddress := .v4 ⟨127, 0, 0, 1⟩

/-- The address `ip` with `port`; brackets keep the colons of version six apart from the port. -/
def withPort (ip : IpAddress) (port : Nat) : String :=
  match ip with
  | .v4 ip => ip.text ++ ":" ++ toString port
  | .v6 ip => "[" ++ ip.text ++ "]:" ++ toString port

theorem parse?_loopback : parse? "127.0.0.1" = some loopback := by decide

end IpAddress

end StateChannel
