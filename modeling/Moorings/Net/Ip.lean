/-!
# Internet addresses

`Ip` is an address of either version. `Ip.text` writes it in the one form
recommended for each: an address of version 4 as four decimal numbers, one of
version 6 as eight hexadecimal groups, with the longest run of at least two
zero groups (the first, of several) written `::`, and with the last two groups
of an address that stands for one of version 4 written in that version's form.

Reading is wider. `Read` is a reader of the characters in front: it takes a
thing and leaves the rest, or takes nothing. Octets are read without leading
zeros, groups of up to four hexadecimal digits in any case and with any
zeros, and the last two groups may always be written in decimal.
-/

namespace Moorings.Net

/-- An address of version 4, as its four octets. -/
structure Ipv4 where
  a : UInt8
  b : UInt8
  c : UInt8
  d : UInt8
  deriving DecidableEq, Repr

/-- An address of version 6, as its eight groups. -/
structure Ipv6 where
  /-- The groups, from the most significant on. -/
  groups : List UInt16
  /-- There are eight of them. -/
  length_groups : groups.length = 8
  deriving DecidableEq, Repr

/-- An address of either version. -/
inductive Ip where
  | v4 (ip : Ipv4)
  | v6 (ip : Ipv6)
  deriving DecidableEq, Repr

/-- The address that stands for every interface of a host. -/
def Ip.any : Ip := .v4 ⟨0, 0, 0, 0⟩

/-- The address under which a host knows itself. -/
def Ip.loopback : Ip := .v4 ⟨127, 0, 0, 1⟩

/-! ## Writing -/

/-- The decimal form of an address of version 4. -/
def Ipv4.text (ip : Ipv4) : String :=
  s!"{ip.a.toNat}.{ip.b.toNat}.{ip.c.toNat}.{ip.d.toNat}"

/-- The address whose four octets are the last two groups. -/
def Ipv4.ofGroups (high low : UInt16) : Ipv4 where
  a := (high >>> 8).toUInt8
  b := high.toUInt8
  c := (low >>> 8).toUInt8
  d := low.toUInt8

/-- Groups in hexadecimal, without leading zeros and with colons between. -/
def groupsText (groups : List UInt16) : String :=
  ":".intercalate (groups.map fun g => String.ofList (Nat.toDigits 16 g.toNat))

/-- How many groups in a row are zero, from position `i` on. -/
def zerosFrom (groups : List UInt16) (i : Nat) : Nat :=
  ((groups.drop i).takeWhile (· == 0)).length

/-- Where the longest run of zero groups begins; of several, the first. -/
def longestZeros (groups : List UInt16) : Nat :=
  (List.range groups.length).foldl
    (fun best i => if zerosFrom groups best < zerosFrom groups i then i else best) 0

/-- The address of version 4 that an address of version 6 stands for, if its
first five groups are zero and the sixth is all ones. -/
def Ipv6.mapped? (ip : Ipv6) : Option Ipv4 :=
  match ip.groups with
  | [0, 0, 0, 0, 0, 0xFFFF, high, low] => some (.ofGroups high low)
  | _ => none

/-- The recommended form of an address of version 6. -/
def Ipv6.text (ip : Ipv6) : String :=
  match ip.mapped? with
  | some v4 => "::ffff:" ++ v4.text
  | none =>
    let start := longestZeros ip.groups
    let run := zerosFrom ip.groups start
    if 2 ≤ run then
      groupsText (ip.groups.take start) ++ "::" ++ groupsText (ip.groups.drop (start + run))
    else groupsText ip.groups

/-- The form in which an address is shown. -/
def Ip.text : Ip → String
  | .v4 ip => ip.text
  | .v6 ip => ip.text

/-! ## Reading -/

/-- A reader of the characters in front: what it takes and what it leaves. -/
abbrev Read := StateT (List Char) Option

namespace Read

/-- Exactly the character `c`. -/
def char (c : Char) : Read Unit := fun chars =>
  match chars with
  | d :: rest => if d = c then some ((), rest) else none
  | [] => none

/-- The longest run of characters of a class, which may be empty. -/
def run (isIn : Char → Bool) : Read (List Char) := fun chars =>
  some (chars.takeWhile isIn, chars.dropWhile isIn)

/-- What `read` takes, or nothing at all. -/
def attempt {α : Type} (read : Read α) : Read (Option α) := fun chars =>
  match read chars with
  | some (a, rest) => some (some a, rest)
  | none => some (none, chars)

/-- What `read` makes of the whole text, if it takes all of it. -/
def whole? {α : Type} (read : Read α) (text : String) : Option α :=
  match read text.toList with
  | some (a, []) => some a
  | _ => none

/-- A decimal number of at least one digit and at most `max`. -/
def decimal (max : Nat) : Read Nat := do
  let digits ← run Char.isDigit
  let n := Nat.ofDigitChars 10 digits 0
  guard (!digits.isEmpty && decide (n ≤ max))
  pure n

/-- An octet: at most three digits, and no zero before another digit. -/
def octet : Read UInt8 := do
  let digits ← run Char.isDigit
  let n := Nat.ofDigitChars 10 digits 0
  guard (1 ≤ digits.length && digits.length ≤ 3)
  guard (digits.length == 1 || digits.head? != some '0')
  guard (decide (n ≤ 255))
  pure n.toUInt8

/-- Whether a character is a hexadecimal digit. -/
def isHex (c : Char) : Bool :=
  c.isDigit || ('a' ≤ c && c ≤ 'f') || ('A' ≤ c && c ≤ 'F')

/-- What a hexadecimal digit counts. -/
def hexValue (c : Char) : Nat :=
  if c.isDigit then c.toNat - '0'.toNat
  else if c ≤ 'F' then c.toNat - 'A'.toNat + 10
  else c.toNat - 'a'.toNat + 10

/-- A group: one to four hexadecimal digits. -/
def group : Read UInt16 := do
  let digits ← run isHex
  guard (1 ≤ digits.length && digits.length ≤ 4)
  pure (digits.foldl (fun n c => 16 * n + hexValue c) 0).toUInt16

/-- Four octets with points between. -/
def ipv4 : Read Ipv4 := do
  let a ← octet
  char '.'
  let b ← octet
  char '.'
  let c ← octet
  char '.'
  let d ← octet
  pure ⟨a, b, c, d⟩

/-- **Up to `room` groups with colons between**, as many as there are. Where
two more have room, they may be written as an address of version 4, which
ends the groups; whether it did is told. -/
def groups : (room : Nat) → (isFirst : Bool) → Read (List UInt16 × Bool)
  | 0, _ => pure ([], false)
  | room + 1, isFirst => do
    let separator : Read Unit := if isFirst then pure () else char ':'
    let embedded ← if 1 ≤ room then attempt (separator *> ipv4) else pure none
    match embedded with
    | some ip =>
      let pair (x y : UInt8) : UInt16 := x.toUInt16 <<< 8 ||| y.toUInt16
      pure ([pair ip.a ip.b, pair ip.c ip.d], true)
    | none =>
      match ← attempt (separator *> group) with
      | some g =>
        let (rest, dotted) ← groups room false
        pure (g :: rest, dotted)
      | none => pure ([], false)

/-- The address with these eight groups, and nothing for any other number. -/
def ofGroups (gs : List UInt16) : Read Ipv6 :=
  if h : gs.length = 8 then pure ⟨gs, h⟩ else failure

/-- An address of version 6: all eight groups, or fewer around one `::`,
which stands for at least one zero group. -/
def ipv6 : Read Ipv6 := do
  let (front, dotted) ← groups 8 true
  if front.length = 8 then ofGroups front
  else if dotted then failure
  else
    char ':'
    char ':'
    let (back, _) ← groups (7 - front.length) true
    ofGroups (front ++ List.replicate (8 - front.length - back.length) 0 ++ back)

end Read

/-- The address that a text writes, with nothing around it. -/
def Ip.ofText? : String → Option Ip :=
  Read.whole? do
    match ← Read.attempt Read.ipv4 with
    | some ip => pure (.v4 ip)
    | none => .v6 <$> Read.ipv6

end Moorings.Net
