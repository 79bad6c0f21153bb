import FluxComposer.Json.Reader
/-
Decoding readings into domain values. A decoder walks a reading in the
order of its text and stops at the first fault it meets, so a fault says
which of the two came first: text that is not JSON, or a value of the
wrong shape.

A record may be written as an object, in which unknown keys are passed
over and no known key may stand twice, or as an array of its fields in
order. In both, fields that have a default may be missing.
-/
namespace FluxComposer.Json

/-- Why a reading has no decoded value. -/
inductive Fault where
  /-- The text is not JSON. -/
  | malformed
  /-- The value has not the expected shape. -/
  | mismatch
  deriving DecidableEq, Repr

/-- Reads a domain value out of a reading. -/
abbrev Decoder (α : Type) := Reading → Except Fault α

namespace Decode

/-- The fault of a reading that is not of the expected kind: its own, if
it has one, and its shape otherwise. -/
def fault : Reading → Fault
  | .broken | .number none | .string none => .malformed
  | _ => .mismatch

-- ============================================================= leaves

def string : Decoder String
  | .string (some s) => .ok s
  | r => .error (fault r)

def bool : Decoder Bool
  | .bool b => .ok b
  | r => .error (fault r)

/-- A natural number below a bound. -/
def natBelow (bound : Nat) : Decoder Nat
  | .number (some (.integer i)) =>
    if 0 ≤ i ∧ i < bound then .ok i.toNat else .error .mismatch
  | r => .error (fault r)

/-- An integer of 64 bits with a sign. -/
def int64 : Decoder Int
  | .number (some (.integer i)) =>
    if i < Nat.pow 2 63 then .ok i else .error .mismatch
  | r => .error (fault r)

/-- A value that is passed over, of which only the text is checked. -/
def ignored : Decoder Unit := fun r =>
  if r.isWhole then .ok () else .error .malformed

/-- A value that may be null. -/
def optional {α : Type} (decode : Decoder α) : Decoder (Option α)
  | .null => .ok none
  | r => some <$> decode r

/-- A list of values. -/
def list {α : Type} (decode : Decoder α) : Decoder (List α)
  | .array items => items.mapM decode
  | r => .error (fault r)

-- ============================================================ records

/-- One field of a record that is decoded into a state. -/
structure Field (σ : Type) where
  key : String
  store : Reading → σ → Except Fault σ
  hasDefault : Bool := false

/-- A field given by its decoder and by how its value is stored. -/
def field {σ α : Type} (key : String) (decode : Decoder α)
    (put : α → σ → σ) (hasDefault : Bool := false) : Field σ where
  key := key
  store := fun r s => do return put (← decode r) s
  hasDefault := hasDefault

/-- Reads one member, given the keys seen so far. -/
def member {σ : Type} (fields : List (Field σ))
    (state : List String × σ) (m : Option String × Reading) :
    Except Fault (List String × σ) :=
  match m.1 with
  | none => .error .malformed
  | some key =>
    match fields.find? (·.key = key) with
    | none => do
      ignored m.2
      return state
    | some f =>
      if state.1.contains key then .error .mismatch
      else do return (key :: state.1, ← f.store m.2 state.2)

/-- Reads the fields of a record written as an array. What stands behind
the last field is a fault of the text. -/
def positional {σ : Type} : List (Field σ) → List Reading → σ →
    Except Fault σ
  | [], [], s => .ok s
  | [], _ :: _, _ => .error .malformed
  | f :: fields, [], s =>
    if f.hasDefault then positional fields [] s else .error .mismatch
  | f :: fields, r :: rs, s => do positional fields rs (← f.store r s)

/-- A record with the given fields. The start holds the defaults. -/
def record {σ : Type} (fields : List (Field σ)) (start : σ) : Decoder σ
  | .object members => do
    let (seen, s) ← members.foldlM (member fields) ([], start)
    if fields.all fun f => f.hasDefault || seen.contains f.key then
      return s
    else .error .mismatch
  | .array items => positional fields items start
  | r => .error (fault r)

-- ========================================================= whole texts

/-- The value that a text begins with. What follows it is not looked
at. -/
def head {α : Type} (decode : Decoder α) (text : List Char) :
    Except Fault α :=
  decode (read text).1

/-- The value that a whole text is. A fault in the value comes before
what is left over behind it. -/
def whole {α : Type} (decode : Decoder α) (text : List Char) :
    Except Fault α := do
  let (r, rest) := read text
  let a ← decode r
  match rest with
  | some rest =>
    if (skipSpace rest).isEmpty then return a else .error .malformed
  | none => .error .malformed

end Decode
end FluxComposer.Json
