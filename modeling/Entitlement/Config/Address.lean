import Entitlement.Number.Decimal
import Entitlement.Text.Basic

/-!
# Internet addresses

Addresses of version 4 and 6 in their written forms. An address of version 6 is eight groups, of
which a run of zero groups may be left out once, and the last two may be written as an address of
version 4. An address is printed in one form only: the longest run of two or more zero groups is
left out, the first of several equally long ones, and an address that stands for one of version 4
shows it.
-/

namespace Entitlement

/-- An internet address. -/
inductive IpAddress where
  /-- Version 4, by its four bytes. -/
  | v4 (octets : List UInt8) (size : octets.length = 4)
  /-- Version 6, by its eight groups. -/
  | v6 (groups : List UInt16) (size : groups.length = 8)
  deriving DecidableEq

/-- An address with a port. -/
structure SocketAddress where
  ip : IpAddress
  port : UInt16
  deriving DecidableEq

namespace IpAddress

/-- The version 4 address 127.0.0.1. -/
def localhost : IpAddress := .v4 [127, 0, 0, 1] rfl

/-! ### Reading -/

/-- The byte that one to three digits denote. No zero may stand in front. -/
def octetOfText? (cs : List Char) : Option UInt8 :=
  let n := Decimal.natOfDigits cs
  if cs.isEmpty || !cs.all Decimal.isDigit || 3 < cs.length then none
  else if (cs.head? = some '0' && cs.length ≠ 1) || 255 < n then none
  else some (UInt8.ofNat n)

/-- The four bytes of an address of version 4. -/
def octetsOfText? (cs : List Char) : Option (List UInt8) :=
  let texts := Text.parts '.' cs
  if texts.length = 4 then texts.mapM octetOfText? else none

/-- The value of a hexadecimal digit. -/
def hexDigit? (c : Char) : Option Nat :=
  if Decimal.isDigit c then some (Decimal.digitValue c)
  else if 'a' ≤ c.toLower ∧ c.toLower ≤ 'f' then some (c.toLower.toNat - 'a'.toNat + 10)
  else none

/-- The group that one to four hexadecimal digits denote. -/
def groupOfText? (cs : List Char) : Option UInt16 :=
  if cs.isEmpty || 4 < cs.length then none
  else UInt16.ofNat <$> cs.foldlM (fun n c => (hexDigit? c).map (16 * n + ·)) 0

/-- The groups that the parts between colons denote. Where `embedding` is allowed the last part may
be an address of version 4, which gives two groups. -/
def groupsOfParts? (embedding : Bool) : List (List Char) → Option (List UInt16)
  | [] => some []
  | part :: rest =>
    match groupOfText? part with
    | some group => (groupsOfParts? embedding rest).map (group :: ·)
    | none =>
      if embedding && rest.isEmpty then
        match octetsOfText? part with
        | some [a, b, c, d] =>
          some [UInt16.ofNat (256 * a.toNat + b.toNat), UInt16.ofNat (256 * c.toNat + d.toNat)]
        | _ => none
      else none

/-- The groups that a text denotes; the empty text denotes none. -/
def groupsOfText? (embedding : Bool) (cs : List Char) : Option (List UInt16) :=
  if cs.isEmpty then some [] else groupsOfParts? embedding (Text.parts ':' cs)

/-- What stands before and after the first pair of colons. -/
def splitAtGap? : List Char → Option (List Char × List Char)
  | ':' :: ':' :: rest => some ([], rest)
  | c :: rest => (splitAtGap? rest).map fun (before, after) => (c :: before, after)
  | [] => none

/-- The groups of an address of version 6, where a pair of colons stands for one or more zero
groups. -/
def v6GroupsOfText? (cs : List Char) : Option (List UInt16) :=
  match splitAtGap? cs with
  | none => groupsOfText? true cs
  | some (before, after) => do
    let head ← groupsOfText? false before
    let tail ← groupsOfText? true after
    if head.length + tail.length ≤ 7 then
      return head ++ List.replicate (8 - (head.length + tail.length)) 0 ++ tail
    else none

/-- The address that a text denotes. -/
def ofText? (s : String) : Option IpAddress :=
  match octetsOfText? s.toList with
  | some octets => if h : octets.length = 4 then some (.v4 octets h) else none
  | none =>
    (v6GroupsOfText? s.toList).bind fun groups =>
      if h : groups.length = 8 then some (.v6 groups h) else none

/-! ### Printing -/

/-- Bytes with points between them. -/
def octetsText (octets : List UInt8) : String :=
  ".".intercalate (octets.map fun b => toString b.toNat)

/-- Groups in hexadecimal with colons between them. -/
def groupsText (groups : List UInt16) : String :=
  ":".intercalate (groups.map fun g => String.ofList (Nat.toDigits 16 g.toNat))

/-- How many zero groups stand at the front. -/
def zeroRun (groups : List UInt16) : Nat :=
  (groups.takeWhile (· = 0)).length

/-- Where the longest run of zero groups starts and how long it is; the first of equally long
ones. -/
def longestZeroRun (groups : List UInt16) : Nat × Nat :=
  (List.range groups.length).foldl
    (fun best start =>
      let run := zeroRun (groups.drop start)
      if best.2 < run then (start, run) else best)
    (0, 0)

/-- The two bytes of a group. -/
def bytesOfGroup (g : UInt16) : List UInt8 :=
  [UInt8.ofNat (g.toNat / 256), UInt8.ofNat (g.toNat % 256)]

/-- The groups of an address of version 6 as text. -/
def v6Text (groups : List UInt16) : String :=
  if groups.take 6 = [0, 0, 0, 0, 0, 0xffff] then
    "::ffff:" ++ octetsText ((groups.drop 6).flatMap bytesOfGroup)
  else
    let (start, run) := longestZeroRun groups
    if 1 < run then groupsText (groups.take start) ++ "::" ++ groupsText (groups.drop (start + run))
    else groupsText groups

end IpAddress

/-- The address and the port as text; an address of version 6 stands in brackets. -/
def SocketAddress.text (a : SocketAddress) : String :=
  (match a.ip with
    | .v4 octets _ => IpAddress.octetsText octets
    | .v6 groups _ => "[" ++ IpAddress.v6Text groups ++ "]") ++
  ":" ++ toString a.port.toNat

end Entitlement
