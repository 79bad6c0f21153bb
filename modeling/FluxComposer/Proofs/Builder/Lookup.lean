import FluxComposer.Proofs.Builder.Transition
/-
What the listings of a builder are listings of. Measurements are those of
a bucket and fields those of a measurement in a bucket; a `Lookup` names
which. A selection asks for a lookup, and the query that it leaves is one
in which that lookup is selected (`isSelected_transition`).

An operation that is neither a listing nor a text leaves each listing as
it is, with every lookup selected that was selected before, or empties it
(`listing_transition`). A text leaves the listings whatever it selects.

What a test finds first among the parts of a query is followed through the
ways in which parts are filtered, added, taken out and replaced (the
`findSome?` lemmas). Each way is harmless if the test finds nothing in the
parts it concerns, and for buckets and measurements that is settled by the
kind of the part.
-/
namespace FluxComposer.Builder

/-- What a listing is a listing of. -/
inductive Lookup where
  /-- The measurements of the bucket with a name. -/
  | measurements (bucket : String)
  | fields (lookup : FieldLookup)
  deriving DecidableEq, Repr

namespace Lookup

/-- The column whose values are listed. -/
def column : Lookup → Column
  | .measurements _ => .measurement
  | .fields _ => .field

/-- Whether a builder has selected what is listed. -/
def IsSelected (b : Builder) : Lookup → Prop
  | .measurements name => b.bucket?.map (·.name) = some name
  | .fields lookup => b.bucket?.map (·.name) = some lookup.bucket
      ∧ b.measurement? = some lookup.measurement

/-- Both columns are listed for something, so a fact about the listing of
every lookup is one about both listings. -/
theorem exists_column (column : Column) :
    ∃ lookup : Lookup, lookup.column = column := by
  cases column with
  | measurement => exact ⟨.measurements "", rfl⟩
  | field => exact ⟨.fields ⟨"", ""⟩, rfl⟩

end Lookup

/-- The lookup that an outcome asks for. -/
def Outcome.lookup? : Outcome → Option Lookup
  | .selected bucket => some (.measurements bucket.name)
  | .lookup fields => some (.fields fields)
  | _ => none

/-- The operation that takes over a listing of a column. -/
def Edit.takeOver (revision : UInt64) (names : List String) : Column → Edit
  | .measurement => .applyMeasurements revision names
  | .field => .applyFields revision names

/-- The column whose listing an operation takes over. -/
def Edit.column? : Edit → Option Column
  | .applyMeasurements .. => some .measurement
  | .applyFields .. => some .field
  | _ => none

/-- The values of a column that are listed. -/
def listing (b : Builder) : Column → List String
  | .measurement => b.measurements
  | .field => b.fields

variable {b b' : Builder} {e : Edit} {o : Outcome} {lookup : Lookup}

-- =========================================================== selection

instance (b : Builder) : DecidablePred (Lookup.IsSelected b)
  | .measurements name =>
    inferInstanceAs (Decidable (b.bucket?.map (·.name) = some name))
  | .fields lookup =>
    inferInstanceAs (Decidable (b.bucket?.map (·.name) = some lookup.bucket
      ∧ b.measurement? = some lookup.measurement))

/-- What is selected is a matter of the first bucket and the first
measurement filter. -/
theorem isSelected_congr (bucket : b'.query.bucket? = b.query.bucket?)
    (filter : lookup.column = .field → b'.query.filterOn? .measurement
      = b.query.filterOn? .measurement)
    (h : lookup.IsSelected b) : lookup.IsSelected b' := by
  have hbucket : b'.bucket? = b.bucket? := bucket
  cases lookup with
  | measurements name =>
      show b'.bucket?.map _ = _
      rw [hbucket]
      exact h
  | fields lookup =>
      have hmeasurement : b'.measurement? = b.measurement? := by
        unfold measurement?
        rw [filter rfl]
      refine ⟨?_, ?_⟩
      · rw [hbucket]
        exact h.1
      · rw [hmeasurement]
        exact h.2

/-- A lookup that is selected stays selected with the query. -/
theorem isSelected_of_query (query : b'.query = b.query)
    (h : lookup.IsSelected b) : lookup.IsSelected b' :=
  isSelected_congr (by rw [query]) (fun _ => by rw [query]) h

/-- Of each column, one lookup is selected at most. -/
theorem eq_of_isSelected {lookup' : Lookup}
    (column : lookup'.column = lookup.column) (h : lookup.IsSelected b)
    (h' : lookup'.IsSelected b) : lookup' = lookup := by
  -- both lookups are of the same kind, for their columns are the same
  cases lookup with
  | measurements name =>
      cases lookup' with
      | measurements name' =>
          have hname : some name' = some name := h'.symm.trans h
          rw [Option.some.inj hname]
      | fields => cases column
  | fields l =>
      cases lookup' with
      | measurements => cases column
      | fields l' =>
          have hbucket : some l'.bucket = some l.bucket := h'.1.symm.trans h.1
          have hmeasurement : some l'.measurement = some l.measurement :=
            h'.2.symm.trans h.2
          cases l
          cases l'
          cases hbucket
          cases hmeasurement
          rfl

-- ============================================ first parts under an edit

/-- Parts that a test finds nothing in can be left out. -/
theorem findSome?_filter {α : Type} {f : Part → Option α}
    {keeps : Part → Bool} (h : ∀ p, (f p).isSome → keeps p = true)
    (parts : List Part) :
    (parts.filter keeps).findSome? f = parts.findSome? f := by
  -- part by part: one that is dropped would not have been found anyway
  induction parts with
  | nil => rfl
  | cons p parts ih =>
      rw [List.filter_cons, List.findSome?_cons]
      split
      case isTrue => rw [List.findSome?_cons, ih]
      case isFalse hdrop =>
        have hnone : f p = none := by
          rw [← Option.not_isSome_iff_eq_none]
          exact fun hsome => hdrop (h p hsome)
        rw [ih, hnone]

/-- A part that a test finds nothing in can be added. -/
theorem findSome?_append_none {α : Type} {f : Part → Option α} {p : Part}
    (h : f p = none) (parts : List Part) :
    (parts ++ [p]).findSome? f = parts.findSome? f := by
  rw [List.findSome?_append]
  simp [h]

/-- A part that a test finds nothing in can be taken out. -/
theorem findSome?_eraseIdx {α : Type} {f : Part → Option α} {index : Nat}
    {parts : List Part} (h : ∀ p, parts[index]? = some p → f p = none) :
    (parts.eraseIdx index).findSome? f = parts.findSome? f := by
  -- on the parts, with the index counted down towards the part that goes
  induction parts generalizing index with
  | nil => rfl
  | cons p parts ih =>
      cases index with
      | zero =>
          have hp : f p = none := h p rfl
          rw [List.findSome?_cons, hp]
          rfl
      | succ index =>
          rw [List.eraseIdx_cons_succ, List.findSome?_cons,
            List.findSome?_cons, ih h]

/-- A part that a test finds nothing in can be replaced by another. -/
theorem findSome?_set {α : Type} {f : Part → Option α} {index : Nat}
    {parts : List Part} {p' : Part}
    (h : ∀ p, parts[index]? = some p → f p = none) (h' : f p' = none) :
    (parts.set index p').findSome? f = parts.findSome? f := by
  induction parts generalizing index with
  | nil => rfl
  | cons p parts ih =>
      cases index with
      | zero =>
          have hp : f p = none := h p rfl
          rw [List.set_cons_zero, List.findSome?_cons, List.findSome?_cons,
            hp, h']
      | succ index =>
          rw [List.set_cons_succ, List.findSome?_cons,
            List.findSome?_cons, ih h]

/-- Filters that spare all buckets spare the first one. -/
theorem bucket?_keep {keeps : Part → Bool}
    (h : ∀ bucket, keeps (.bucket bucket) = true) (q : Query) :
    (q.keep keeps).bucket? = q.bucket? := by
  refine findSome?_filter (fun p hp => ?_) q.parts
  rcases p with bucket | _ | _
  · exact h bucket
  · cases hp
  · cases hp

/-- Filters that spare all measurements spare the first one. -/
theorem measurement_keep {keeps : Part → Bool}
    (h : ∀ operand, keeps (.comparing .measurement operand) = true)
    (q : Query) :
    (q.keep keeps).filterOn? .measurement = q.filterOn? .measurement := by
  refine findSome?_filter (fun p hp => ?_) q.parts
  rcases p with _ | _ | ⟨_ | _, operand⟩
  · cases hp
  · cases hp
  · exact h operand
  · cases hp

-- ============================================================ selecting

/-- A new measurement is the only one. -/
theorem measurement_withMeasurement (q : Query) (measurement : String) :
    (withMeasurement q measurement).filterOn? .measurement
      = some ⟨.measurement, .single measurement⟩ := by
  unfold withMeasurement Query.append Query.filterOn? Query.ofParts
  -- no measurement filter is left in front of the new one
  rw [List.findSome?_append, List.findSome?_eq_none_iff.2]
  · rfl
  · intro p hp
    have hkept := (List.mem_filter.1 hp).2
    rcases p with _ | _ | ⟨_ | _, _⟩
    · rfl
    · rfl
    · simp [Part.isFilterOn] at hkept
    · rfl

/-- Selecting a measurement leaves the bucket. -/
theorem bucket?_withMeasurement (q : Query) (measurement : String) :
    (withMeasurement q measurement).bucket? = q.bucket? := by
  refine (findSome?_append_none rfl _).trans (bucket?_keep ?_ q)
  exact fun _ => rfl

/-- A selection leads to a query in which it is selected. -/
theorem isSelected_transition (h : Transition b e o b')
    (asked : o.lookup? = some lookup) : lookup.IsSelected b' := by
  cases h with
  | selectBucket =>
      -- only the two selections ask for a lookup
      cases asked
      rfl
  | selectMeasurement _ selected =>
      cases asked
      refine ⟨?_, ?_⟩
      · show ((withMeasurement b.query _).bucket?).map _ = _
        rw [bucket?_withMeasurement]
        exact congrArg (Option.map _) selected
      · show ((withMeasurement b.query _).filterOn? .measurement).bind _ = _
        rw [measurement_withMeasurement]
        rfl
  | refused | setBuckets | dropFields | selectFields | replaceRange
  | appendRange | updateText | removePart | reset | applyMeasurements
  | applyFields => cases asked

-- ============================================================= listings

/-- Listings are no part of the query. -/
theorem listing_withQuery (q : Query) (column : Column) :
    (b.withQuery q).listing column = b.listing column := by
  cases column <;> rfl

/-- Both listings are emptied together. -/
theorem listing_forgetListings (column : Column) :
    b.forgetListings.listing column = [] := by
  cases column <;> rfl

/-- A part that a test finds nothing in can be removed. -/
theorem findSome?_removeAt {α : Type} {f : Part → Option α} {q : Query}
    {index : Nat} {part : Part} (found : q.parts[index]? = some part)
    (h : f part = none) :
    (q.removeAt index).parts.findSome? f = q.parts.findSome? f := by
  rw [parts_removeAt]
  refine findSome?_eraseIdx fun p hp => ?_
  obtain rfl : part = p := Option.some.inj (found.symm.trans hp)
  exact h

/-- A range in the place of a range changes neither the bucket nor the
measurement. -/
theorem findSome?_replaceAt {α : Type} {f : Part → Option α}
    (h : ∀ r, f (.dateRange r) = none) {q : Query} {index : Nat}
    (found : q.position? Part.isDateRange = some index) (r : DateRange) :
    (q.replaceAt index (.dateRange r)).parts.findSome? f
      = q.parts.findSome? f := by
  obtain ⟨hlt, hrange, -⟩ := List.findIdx?_eq_some_iff_getElem.1 found
  refine findSome?_set (fun p hp => ?_) (h r)
  -- the part that goes is a range, as the search has found it to be one
  obtain rfl : q.parts[index] = p := List.getElem_eq_iff hlt |>.2 hp
  cases hpart : q.parts[index] with
  | dateRange r => exact h r
  | bucket | filter =>
      rw [hpart] at hrange
      cases hrange

/-- An operation that does not read a text either empties a listing or
leaves it, and then what was selected still is. -/
theorem listing_transition (h : Transition b e o b')
    (text : ∀ text, e ≠ .updateText text) (column : e.column? = none)
    (lookup : Lookup) :
    b'.listing lookup.column = []
      ∨ (b'.listing lookup.column = b.listing lookup.column
        ∧ (lookup.IsSelected b → lookup.IsSelected b')) := by
  -- one case for each way to end; what a removed part empties depends on
  -- its kind
  cases h with
  | refused => exact .inr ⟨rfl, id⟩
  | setBuckets buckets =>
      exact .inr ⟨by cases lookup <;> rfl,
        isSelected_congr rfl fun _ => rfl⟩
  | selectBucket => exact .inl (listing_forgetListings _)
  | selectMeasurement =>
      cases lookup with
      | measurements =>
          refine .inr ⟨rfl, isSelected_congr ?_ nofun⟩
          exact bucket?_withMeasurement _ _
      | fields => exact .inl rfl
  | dropFields =>
      refine .inr ⟨listing_withQuery _ _, isSelected_congr ?_ fun _ => ?_⟩
      · exact bucket?_keep (fun _ => rfl) _
      · exact measurement_keep (fun _ => rfl) _
  | selectFields =>
      refine .inr ⟨listing_withQuery _ _, isSelected_congr ?_ fun _ => ?_⟩
      · exact (findSome?_append_none rfl _).trans
          (bucket?_keep (fun _ => rfl) _)
      · exact (findSome?_append_none rfl _).trans
          (measurement_keep (fun _ => rfl) _)
  | replaceRange start stop found =>
      refine .inr ⟨listing_withQuery _ _, isSelected_congr ?_ fun _ => ?_⟩
      · exact findSome?_replaceAt (fun _ => rfl) found _
      · exact findSome?_replaceAt (fun _ => rfl) found _
  | appendRange =>
      refine .inr ⟨listing_withQuery _ _, isSelected_congr ?_ fun _ => ?_⟩
      · exact findSome?_append_none rfl _
      · exact findSome?_append_none rfl _
  | updateText t => exact absurd rfl (text t)
  | @removePart index part found =>
      have hlisting := listing_withQuery (b := b) (b.query.removeAt index)
        lookup.column
      rcases part with _ | _ | ⟨_ | _, _⟩
      · exact .inl (listing_forgetListings _)
      · refine .inr ⟨hlisting, isSelected_congr ?_ fun _ => ?_⟩
        · exact findSome?_removeAt found rfl
        · exact findSome?_removeAt found rfl
      · cases lookup with
        | measurements =>
            refine .inr ⟨rfl, isSelected_congr ?_ nofun⟩
            exact findSome?_removeAt found rfl
        | fields => exact .inl rfl
      · refine .inr ⟨hlisting, isSelected_congr ?_ fun _ => ?_⟩
        · exact findSome?_removeAt found rfl
        · exact findSome?_removeAt found rfl
  | reset => exact .inl (listing_forgetListings _)
  | applyMeasurements | applyFields => cases column

/-- A listing is taken over at the revision of the builder only, in the
place of the one of its column, and the query stays. -/
theorem takeOver_transition {revision : UInt64} {names : List String}
    {column : Column}
    (h : Transition b (.takeOver revision names column) .done b') :
    revision = b.revision ∧ b'.query = b.query
      ∧ b'.listing column = names
      ∧ ∀ other, other ≠ column → b'.listing other = b.listing other := by
  cases column with
  | measurement =>
      cases h
      refine ⟨rfl, rfl, rfl, fun other hne => ?_⟩
      cases other with
      | measurement => exact absurd rfl hne
      | field => rfl
  | field =>
      cases h
      refine ⟨rfl, rfl, rfl, fun other hne => ?_⟩
      cases other with
      | measurement => rfl
      | field => exact absurd rfl hne

/-- A listing that is not taken over changes nothing. -/
theorem takeOver_dropped {revision : UInt64} {names : List String}
    {column : Column}
    (h : Transition b (.takeOver revision names column) o b')
    (dropped : o ≠ .done) : b' = b := by
  cases column with
  | measurement =>
      cases h with
      | refused => rfl
      | applyMeasurements => exact absurd rfl dropped
  | field =>
      cases h with
      | refused => rfl
      | applyFields => exact absurd rfl dropped

end FluxComposer.Builder
