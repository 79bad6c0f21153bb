import FluxComposer.Proofs.Json.Printed
import FluxComposer.Query.Encoding
/-
Queries survive their JSON form: the value that a query is written as is
decoded to the query (`Query.decode_toJson`), with all parts, all strings,
single operands apart from lists, and absent ends and texts absent again.

A record is decoded by one law, whatever its fields are: members that give
its fields in order, each for the first time, are stored one after another
(`Decode.Tells`). A part is the same with its tag in front
(`Part.decode_tagged`).
-/
namespace FluxComposer

open Json (Reading Decoder)

-- ============================================================ decoders

namespace Json.Decode

/-- A list of values that are each decoded from what they are written
as. -/
theorem list_map {α : Type} {decode : Decoder α} (encode : α → Json)
    {xs : List α} (h : ∀ x ∈ xs, decode (.ofJson (encode x)) = .ok x) :
    list decode (.array (Reading.ofItems (xs.map encode))) = .ok xs := by
  unfold list
  dsimp only
  induction xs with
  | nil => rfl
  | cons x xs ih =>
      have hrest := ih fun y hy => h y (List.mem_cons_of_mem x hy)
      rw [List.map_cons, Reading.ofItems, List.mapM_cons,
        h x List.mem_cons_self, hrest]
      rfl

section

variable {σ α : Type} {fields : List (Field σ)}

/-- A field stores the value that it is given. -/
theorem field_store {key : String} {decode : Decoder α}
    {put : α → σ → σ} {hasDefault : Bool} {r : Reading} {a : α}
    (h : decode r = .ok a) (s : σ) :
    (field key decode put hasDefault).store r s = .ok (put a s) := by
  unfold field
  dsimp only
  rw [h]
  rfl

/-- Members that give fields of a record, each for the first time: the
keys and the state after them. -/
inductive Tells (fields : List (Field σ)) : List String × σ →
    List (String × Json) → List String × σ → Prop where
  | nil (state : List String × σ) : Tells fields state [] state
  | cons {seen : List String} {s s' : σ} {key : String} {j : Json}
      {ms : List (String × Json)} {state : List String × σ} (f : Field σ)
      (found : fields.find? (·.key = key) = some f)
      (fresh : key ∉ seen) (stored : f.store (.ofJson j) s = .ok s')
      (rest : Tells fields (key :: seen, s') ms state) :
      Tells fields (seen, s) ((key, j) :: ms) state

/-- Members that tell fields are stored one after another. -/
theorem Tells.foldlM {state state' : List String × σ}
    {ms : List (String × Json)} (h : Tells fields state ms state') :
    (Reading.ofMembers ms).foldlM (member fields) state = .ok state' := by
  induction h with
  | nil state => rfl
  | cons f found fresh stored _ ih =>
      rw [Reading.ofMembers, List.foldlM_cons]
      unfold member
      dsimp only
      rw [found]
      dsimp only
      -- a field that comes for the first time is not refused as a repeated
      -- one
      rw [if_neg (by simpa using fresh), stored]
      exact ih

/-- Members that give all fields without a default are decoded to what
they tell. -/
theorem record_of_tells {start s : σ} {seen : List String}
    {ms : List (String × Json)} (h : Tells fields ([], start) ms (seen, s))
    (all : fields.all fun f => f.hasDefault || seen.contains f.key) :
    record fields start (.ofJson (.object ms)) = .ok s := by
  rw [Reading.ofJson]
  unfold record
  dsimp only
  rw [h.foldlM]
  exact if_pos all

end

end Json.Decode

open Json.Decode (Tells field_store record_of_tells)

-- =============================================================== parts

theorem Bucket.decode_toJson (b : Bucket) :
    Bucket.decode (.ofJson b.toJson) = .ok b := rfl

theorem DateRange.decode_toJson (r : DateRange) :
    DateRange.decode (.ofJson r.toJson) = .ok r := by
  obtain ⟨start, stop⟩ := r
  cases stop <;> rfl

theorem Column.decode_label (stage : Stage) (c : Column) :
    Column.decode stage (.ofJson (.string c.label)) = .ok c := by
  cases c <;> rfl

/-- A single value is told apart from a list of one value. -/
theorem Operand.decode_toJson (o : Operand) :
    Operand.decode (.ofJson o.toJson) = .ok o := by
  cases o with
  | single value => rfl
  | anyOf values =>
      have hlist : Json.Decode.list Json.Decode.string
          (.array (Reading.ofItems (values.map .string))) = .ok values :=
        Json.Decode.list_map .string fun _ _ => rfl
      unfold Operand.toJson Json.strings Reading.ofJson Operand.decode
      dsimp only
      rw [hlist]
      rfl

/-- The members of a filter. -/
def Filter.members (f : Filter) : List (String × Json) :=
  [("kind", .string f.column.label), ("value", f.operand.toJson)]

/-- A filter is decoded from its members, also where it was held until the
tag was known. -/
theorem Filter.decode_members (stage : Stage) (f : Filter) :
    Filter.decode stage (.ofJson (.object f.members)) = .ok f :=
  record_of_tells
    (.cons _ rfl (by decide) (field_store (f.column.decode_label stage) _) <|
      .cons _ rfl (by decide) (field_store f.operand.decode_toJson _) <|
      .nil _) rfl

/-- Strings are values wherever they stand. -/
theorem Json.Reading.value?_strings (room : Nat) (values : List String) :
    Reading.value? (room + 1) (.ofJson (.strings values))
      = some (.strings values) := by
  have hvalues : Reading.values? room
      (Reading.ofItems (values.map Json.string))
        = some (values.map Json.string) := by
    induction values with
    | nil => simp [Reading.ofItems, Reading.values?]
    | cons value values ih =>
        simp [Reading.ofItems, Reading.ofJson, Reading.values?,
          Reading.value?, ih]
  unfold Json.strings
  rw [Reading.ofJson, Reading.value?, hvalues]
  rfl

namespace Part

/-- Members that are no tag and can be held until the tag is known. -/
def IsContent (room : Nat) (ms : List (String × Json)) : Prop :=
  ∀ m ∈ ms, m.1 ≠ "type" ∧ ((Reading.ofJson m.2).value? room).isSome

/-- The members of a bucket can be held. -/
theorem isContent_bucket (room : Nat) (b : Bucket) :
    IsContent (room + 1) [("id", .string b.id), ("name", .string b.name)] := by
  simp [IsContent, Reading.ofJson, Reading.value?]

/-- So can those of a range, with a second bound or without. -/
theorem isContent_range (room : Nat) (r : DateRange) :
    IsContent (room + 1) r.members := by
  obtain ⟨start, stop⟩ := r
  cases stop <;>
    simp [IsContent, DateRange.members, Reading.ofJson, Reading.value?]

/-- So can those of a filter, as long as there is room for its list of
values. -/
theorem isContent_filter (room : Nat) (f : Filter) :
    IsContent (room + 1) f.members := by
  have hoperand : ((Reading.ofJson f.operand.toJson).value?
      (room + 1)).isSome := by
    cases f.operand with
    | single value => simp [Operand.toJson, Reading.ofJson, Reading.value?]
    | anyOf values =>
        rw [Operand.toJson, Reading.value?_strings]
        rfl
  simp [IsContent, Filter.members, hoperand, Reading.ofJson,
    Reading.value?]

/-- Content is held in its order, behind what is held already. -/
theorem foldlM_taggedMember {room : Nat} {ms : List (String × Json)}
    (h : IsContent room ms) (tag : Option Tag)
    (content : List (Option String × Reading)) :
    (Reading.ofMembers ms).foldlM (taggedMember room) (tag, content)
      = .ok (tag, content ++ Reading.ofMembers ms) := by
  -- what is held grows with every member
  induction ms generalizing content with
  | nil => simp [Reading.ofMembers, pure, Except.pure]
  | cons m ms ih =>
      obtain ⟨htag, hvalue⟩ := h m List.mem_cons_self
      have hrest := ih fun m' hm => h m' (List.mem_cons_of_mem m hm)
      rw [Reading.ofMembers, List.foldlM_cons]
      unfold taggedMember
      dsimp only
      rw [if_neg htag, if_pos hvalue]
      refine (hrest _).trans ?_
      rw [List.append_assoc, List.singleton_append]

/-- A part is decoded by its tag, which stands in front. -/
theorem decode_tagged {room : Nat} {label : String} {tag : Tag}
    {ms : List (String × Json)}
    (named : Tag.decode (.string (some label)) = .ok tag)
    (h : IsContent room ms) :
    Part.decode room (.ofJson (.object (("type", .string label) :: ms)))
      = ofContent tag (.ofJson (.object ms)) := by
  have hfirst : taggedMember room (none, [])
      (some "type", .string (some label)) = .ok (some tag, []) := by
    unfold taggedMember
    dsimp only
    rw [named]
    rfl
  rw [Reading.ofJson, Reading.ofMembers, Reading.ofJson]
  unfold Part.decode
  dsimp only
  rw [List.foldlM_cons, hfirst]
  exact congrArg (· >>= _) (foldlM_taggedMember h (some tag) [])

/-- Content that is decoded is that of a part. -/
theorem mapError_decoded {α : Type} {make : α → Part}
    {decoded : Except Json.Fault α} {a : α} (h : decoded = .ok a) :
    (make <$> decoded).mapError (fun _ => Json.Fault.mismatch)
      = .ok (make a) := by
  rw [h]
  rfl

/-- A part is decoded from what it is written as, with its tag in front. -/
theorem decode_toJson (room : Nat) (p : Part) :
    Part.decode (room + 1) (.ofJson p.toJson) = .ok p := by
  cases p with
  | bucket b =>
      refine (decode_tagged rfl (isContent_bucket room b)).trans ?_
      exact mapError_decoded b.decode_toJson
  | dateRange r =>
      refine (decode_tagged rfl (isContent_range room r)).trans ?_
      exact mapError_decoded r.decode_toJson
  | filter f =>
      refine (decode_tagged rfl (isContent_filter room f)).trans ?_
      exact mapError_decoded (f.decode_members .held)

/-- A part is written without numbers. -/
theorem numberFree_toJson (p : Part) : Json.NumberFree p.toJson := by
  cases p with
  | bucket b => exact .object (by simp [Json.NumberFree.string])
  | dateRange r =>
      obtain ⟨start, stop⟩ := r
      refine .object ?_
      cases stop <;> simp [DateRange.members, Json.NumberFree.string]
  | filter f =>
      have hoperand : Json.NumberFree f.operand.toJson := by
        cases f.operand with
        | single value => exact .string value
        | anyOf values => exact .array (by simp [Json.NumberFree.string])
      exact .object (by simp [hoperand, Json.NumberFree.string])

end Part

-- ============================================================= queries

namespace Query

/-- A query is decoded from what it is written as, unless it stands too
deep in its text. -/
theorem decode_toJson {depth : Nat} (shallow : depth + 3 < Json.depthLimit)
    (q : Query) : Query.decode depth (.ofJson q.toJson) = .ok q := by
  obtain ⟨parts, rawText⟩ := q
  -- the parts stand three levels below the query
  obtain ⟨room, hroom⟩ : ∃ room, Json.depthLimit - (depth + 3) = room + 1 :=
    ⟨Json.depthLimit - (depth + 3) - 1, by omega⟩
  have hparts : Json.Decode.list
      (Part.decode (Json.depthLimit - (depth + 3)))
        (.ofJson (.array (parts.map Part.toJson))) = .ok parts := by
    rw [hroom]
    exact Json.Decode.list_map Part.toJson fun p _ => p.decode_toJson room
  cases rawText with
  | none =>
      exact record_of_tells
        (.cons _ rfl (by decide) (field_store hparts _) <| .nil _) rfl
  | some text =>
      exact record_of_tells
        (.cons _ rfl (by decide) (field_store hparts _) <|
          .cons _ rfl (by decide) rfl <| .nil _) rfl

/-- A query is written without numbers, so its JSON text is read as any
reader of numbers reads it. -/
theorem numberFree_toJson (q : Query) : Json.NumberFree q.toJson := by
  obtain ⟨parts, rawText⟩ := q
  have hparts : Json.NumberFree (.array (parts.map Part.toJson)) :=
    .array (by simpa using fun p _ => p.numberFree_toJson)
  refine .object ?_
  cases rawText <;> simp [hparts, Json.NumberFree.string]

end Query

end FluxComposer
