import FluxComposer.Domain.Name
import FluxComposer.Text.Percent
/-
The hosts that a request can be sent to: an address of eight groups
between brackets, an address of up to four numbers, or a domain name. A
name may have its characters percent encoded; a name whose last label is
a number is an address or nothing.
-/
namespace FluxComposer.Http

/-- Whether a character is a digit of base sixteen. -/
def isHexDigit (c : Char) : Bool :=
  c.isDigit || ('a' ≤ c.toLower && c.toLower ≤ 'f')

-- ==================================================== addresses of bytes

/-- Whether a part of a host is a number, in base ten, eight or
sixteen. -/
def isNumberPart (s : List Char) : Bool :=
  match s with
  | '0' :: 'x' :: ds | '0' :: 'X' :: ds => ds.all isHexDigit
  | ds => !ds.isEmpty && ds.all Char.isDigit

/-- The value of a part of a host that is a number. -/
def numberPart? (s : List Char) : Option Nat :=
  let digits (base : Nat) (ds : List Char) : Option Nat :=
    ds.foldlM (fun n c =>
      let d := if c.isDigit then c.toNat - 48 else c.toLower.toNat - 87
      if d < base then some (n * base + d) else none) 0
  if !isNumberPart s then none
  else match s with
    | '0' :: 'x' :: ds | '0' :: 'X' :: ds => digits 16 ds
    | '0' :: ds => digits 8 ds
    | ds => digits 10 ds

/-- Whether a host whose last part is a number is an address in one to
four parts: each but the last is a byte, and the last fills the rest. -/
def isNumericAddress (parts : List (List Char)) : Bool :=
  match parts.mapM numberPart? with
  | none => false
  | some ns =>
    ns.length ≤ 4 && ns.dropLast.all (· < 256)
      && ns.getLast?.any (· < Nat.pow 256 (5 - ns.length))

-- =================================================== addresses of groups

/-- Whether a text is a byte in base ten, without a zero before it. -/
def isByte (s : List Char) : Bool :=
  !s.isEmpty && s.length ≤ 3 && s.all Char.isDigit
    && (s.length == 1 || s.head? != some '0')
    && s.foldl (fun n c => n * 10 + (c.toNat - 48)) 0 < 256

/-- Whether a text is an address of four bytes. -/
def isDottedAddress (s : List Char) : Bool :=
  let parts := s.splitOn '.'
  parts.length == 4 && parts.all isByte

/-- Whether a text is a group: up to four digits of base sixteen. -/
def isGroup (s : List Char) : Bool :=
  !s.isEmpty && s.length ≤ 4 && s.all isHexDigit

/-- The number of groups that a text writes. At the end of the address
four bytes may stand for two groups. -/
def groupCount? (isLast : Bool) (s : List Char) : Option Nat :=
  let groups := s.splitOn ':'
  if s.isEmpty then some 0
  else if groups.all isGroup then some groups.length
  else if isLast && groups.dropLast.all isGroup
      && groups.getLast?.any isDottedAddress then
    some (groups.length + 1)
  else none

/-- What stands before and behind the first two colons that follow each
other, if there are two. -/
def splitGap : List Char → List Char × Option (List Char)
  | [] => ([], none)
  | ':' :: ':' :: rest => ([], some rest)
  | c :: rest =>
    let (before, behind) := splitGap rest
    (c :: before, behind)

/-- Whether a text is an address of eight groups. Two colons stand for
all the groups that are missing, and for one at least. -/
def isGroupedAddress (s : List Char) : Bool :=
  match splitGap s with
  | (all, none) => groupCount? true all == some 8
  | (before, some behind) =>
    match groupCount? false before, groupCount? true behind with
    | some m, some n => m + n < 8
    | _, _ => false

-- =============================================================== hosts

/-- The characters that no host of a request holds. -/
def isForbiddenInHost (c : Char) : Bool :=
  c.toNat ≤ 0x20 || c.toNat == 0x7F
    || "\"#%/:<>?@[\\]^\x60\x7b|\x7d".toList.contains c

/-- The labels of a host without the empty one behind a point at its
end. -/
def hostParts (labels : List (List Char)) : List (List Char) :=
  if labels.getLast? = some [] then labels.dropLast else labels

/-- Whether labels are those of a host. -/
def isHostName (labels : List (List Char)) : Bool :=
  let parts := hostParts labels
  labels != [[]] && !labels.any (·.any isForbiddenInHost)
    && (!parts.getLast?.any isNumberPart || isNumericAddress parts)

/-- Whether a request can be sent to a host. -/
def isHost (host : List Char) : Bool :=
  match host with
  | '[' :: rest =>
    rest.getLast? == some ']' && isGroupedAddress rest.dropLast
  | _ =>
    match Text.percentDecode? (String.ofList host) with
    | none => false
    | some name => (Domain.labels? name.toList).any isHostName

end FluxComposer.Http
