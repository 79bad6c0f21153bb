import FluxComposer.Proofs.Builder.Lookup
import FluxComposer.Proofs.Builder.Pipeline
/-
What is selected after a selection. A getter shows the first part of its
kind, while a selection puts its part at the end or in the place of an
older one. So that what was selected is what is shown, the older parts of
the kind have to go (measurements and fields), or the first of them has to
be the one that is replaced (ranges, `withRange_of_split`).

All that is shown is collected in `Selection`, and what a selection does is
said as an update of it: the one thing is what was selected, and the others
are as they were. Nothing is asked of the parts, which may be repeated and
in any order.
-/
namespace FluxComposer

namespace Query

variable {q : Query}

-- ============================================================= ranges

/-- The query with a range in the place of its first one, or behind all
parts. -/
def withRange (q : Query) (range : DateRange) : Query :=
  match q.position? Part.isDateRange with
  | some index => q.replaceAt index (.dateRange range)
  | none => q.append (.dateRange range)

/-- A query with a range has parts before the first one, and parts
behind. -/
theorem exists_split_of_dateRange (h : q.dateRange?.isSome) :
    ∃ before range behind, q.parts = before ++ .dateRange range :: behind
      ∧ ∀ p ∈ before, p.isDateRange = false := by
  obtain ⟨range, hrange⟩ := Option.isSome_iff_exists.1 h
  -- the search stops at the first part that is a range
  obtain ⟨before, p, behind, hparts, hp, hbefore⟩ :=
    List.findSome?_eq_some_iff.1 hrange
  refine ⟨before, range, behind, ?_, fun p' hp' => ?_⟩
  · cases p with
    | dateRange range' =>
        cases hp
        exact hparts
    | bucket | filter => cases hp
  · have hnone := hbefore p' hp'
    cases p' with
    | dateRange => cases hnone
    | bucket | filter => rfl

/-- It is the first range that makes room for another one. -/
theorem withRange_of_split {before behind : List Part} {range : DateRange}
    (hparts : q.parts = before ++ .dateRange range :: behind)
    (hbefore : ∀ p ∈ before, p.isDateRange = false)
    (range' : DateRange) : q.withRange range'
      = { q with parts := before ++ .dateRange range' :: behind } := by
  have hnone : before.findIdx? Part.isDateRange = none :=
    List.findIdx?_eq_none_iff.2 hbefore
  have hposition : q.position? Part.isDateRange = some before.length := by
    unfold position?
    rw [hparts, List.findIdx?_append, hnone, List.findIdx?_cons]
    simp [Part.isDateRange]
  have hset : q.parts.set before.length (.dateRange range')
      = before ++ .dateRange range' :: behind := by
    rw [hparts, List.set_append_right _ _ (Nat.le_refl _), Nat.sub_self]
    rfl
  unfold withRange
  rw [hposition, ← hset]
  rfl

/-- A query without a range gets one behind all parts. -/
theorem withRange_of_isNone (h : q.dateRange? = none)
    (range : DateRange) :
    q.withRange range = q.append (.dateRange range) := by
  have hposition : q.position? Part.isDateRange = none :=
    (one_not_mem_places_iff q).1 ((dateRange?_eq_none_iff q).1 h)
  unfold withRange
  rw [hposition]

/-- A new range is the first one. -/
theorem dateRange?_withRange (q : Query) (range : DateRange) :
    (q.withRange range).dateRange? = some range := by
  -- behind all parts it is the only range
  cases h : q.dateRange? with
  | none =>
      rw [withRange_of_isNone h]
      show (q.parts ++ [Part.dateRange range]).findSome? _ = _
      have hparts : q.parts.findSome? Part.dateRange? = none := h
      rw [List.findSome?_append, hparts]
      rfl
  | some first =>
      obtain ⟨before, _, behind, hparts, hbefore⟩ :=
        exists_split_of_dateRange (Option.isSome_iff_exists.2 ⟨first, h⟩)
      have hnone : before.findSome? Part.dateRange? = none := by
        refine List.findSome?_eq_none_iff.2 fun p hp => ?_
        have hp' := hbefore p hp
        cases p with
        | dateRange => cases hp'
        | bucket | filter => rfl
      rw [withRange_of_split hparts hbefore]
      show (before ++ _ :: behind).findSome? Part.dateRange? = _
      rw [List.findSome?_append, hnone]
      rfl

/-- A new range changes nothing that is found in other parts. -/
theorem findSome?_withRange {α : Type} {f : Part → Option α}
    (h : ∀ r, f (.dateRange r) = none) (q : Query) (range : DateRange) :
    (q.withRange range).parts.findSome? f = q.parts.findSome? f := by
  unfold withRange
  split
  next index found => exact Builder.findSome?_replaceAt h found range
  next => exact Builder.findSome?_append_none (h range) q.parts

-- ============================================================= filters

/-- A query without the filters on a column has none to find. -/
theorem filterOn?_keep_eq_none {keeps : Part → Bool} {column : Column}
    (h : ∀ p, keeps p = true → p.isFilterOn column = false) (q : Query) :
    (q.keep keeps).filterOn? column = none := by
  refine List.findSome?_eq_none_iff.2 fun p hp => ?_
  have hother := h p (List.mem_filter.1 hp).2
  rcases p with _ | _ | f
  · rfl
  · rfl
  · exact if_neg (by simpa [Part.isFilterOn] using hother)

/-- A filter behind parts among which there is none is found. -/
theorem filterOn?_append {column : Column} (h : q.filterOn? column = none)
    (operand : Operand) :
    (q.append (.comparing column operand)).filterOn? column
      = some ⟨column, operand⟩ := by
  have hparts : q.parts.findSome? (Part.filterOn? column) = none := h
  show (q.parts ++ [_]).findSome? _ = _
  rw [List.findSome?_append, hparts]
  simp [Part.comparing, Part.filterOn?]

end Query

namespace Builder

variable {b b' : Builder}

-- ========================================================== selections

/-- All that is selected in a builder. -/
structure Selection where
  bucket : Option Bucket := none
  dateRange : Option DateRange := none
  measurement : Option String := none
  fields : List String := []
  deriving DecidableEq, Repr

/-- What the getters of a builder show. -/
def selection (b : Builder) : Selection where
  bucket := b.bucket?
  dateRange := b.dateRange?
  measurement := b.measurement?
  fields := b.selectedFields

/-- All getters look for the first part of a kind in the query. -/
theorem selection_eq (b : Builder) : b.selection
    = { bucket := b.query.bucket?
        dateRange := b.query.dateRange?
        measurement :=
          (b.query.filterOn? .measurement).bind (·.operand.first?)
        fields :=
          ((b.query.filterOn? .field).map (·.operand.values)).getD [] } := by
  have hfields : b.selectedFields
      = ((b.query.filterOn? .field).map (·.operand.values)).getD [] := by
    unfold selectedFields
    cases b.query.filterOn? .field <;> rfl
  unfold selection
  rw [hfields]
  rfl

/-- Selecting a range is a change of the query alone. -/
theorem selectDateRange_eq (b : Builder) (start : String)
    (stop : Option String) : b.selectDateRange start stop
      = b.withQuery (b.query.withRange ⟨start, stop⟩) := by
  unfold selectDateRange Query.withRange
  cases b.query.position? Part.isDateRange <;> rfl

-- ===================================================== other queries

/-- Filters that spare all ranges spare the first one. -/
theorem dateRange?_keep {keeps : Part → Bool}
    (h : ∀ range, keeps (.dateRange range) = true) (q : Query) :
    (q.keep keeps).dateRange? = q.dateRange? := by
  refine findSome?_filter (fun p hp => ?_) q.parts
  cases p with
  | dateRange range => exact h range
  | bucket | filter => cases hp

/-- Selecting a measurement leaves the range. -/
theorem dateRange?_withMeasurement (q : Query) (measurement : String) :
    (withMeasurement q measurement).dateRange? = q.dateRange? :=
  (findSome?_append_none rfl _).trans (dateRange?_keep (fun _ => rfl) q)

/-- The fields of another measurement are not selected any more. -/
theorem field_withMeasurement (q : Query) (measurement : String) :
    (withMeasurement q measurement).filterOn? .field = none := by
  refine (findSome?_append_none rfl _).trans
    (Query.filterOn?_keep_eq_none (fun p hp => ?_) q)
  simpa using (Bool.and_eq_true_iff.1 hp).2

/-- Without field filters no field is selected. -/
theorem field_withoutFieldFilters (q : Query) :
    (withoutFieldFilters q).filterOn? .field = none :=
  Query.filterOn?_keep_eq_none (fun _ hp => by simpa using hp) q

/-- Taking the field filters out takes nothing else out. -/
theorem selection_withoutFieldFilters (b : Builder) :
    (b.withQuery (withoutFieldFilters b.query)).selection
      = { b.selection with fields := [] } := by
  have hbucket : (withoutFieldFilters b.query).bucket? = b.query.bucket? :=
    bucket?_keep (fun _ => rfl) b.query
  have hrange : (withoutFieldFilters b.query).dateRange?
      = b.query.dateRange? := dateRange?_keep (fun _ => rfl) b.query
  have hmeasurement : (withoutFieldFilters b.query).filterOn? .measurement
      = b.query.filterOn? .measurement :=
    measurement_keep (fun _ => rfl) b.query
  rw [selection_eq, selection_eq b, query_withQuery, hbucket, hrange,
    hmeasurement, field_withoutFieldFilters]
  rfl

/-- A filter on fields behind a query without one selects its fields. -/
theorem selection_append_field {q : Query}
    (h : q.filterOn? .field = none) (names : List String) :
    (b.withQuery (q.append (.comparing .field (.anyOf names)))).selection
      = { (b.withQuery q).selection with fields := names } := by
  -- no other getter looks at filters on fields
  have hfound : ∀ {α : Type} {f : Part → Option α},
      f (.comparing .field (.anyOf names)) = none →
      (q.append (.comparing .field (.anyOf names))).parts.findSome? f
        = q.parts.findSome? f := fun hf => findSome?_append_none hf q.parts
  have hbucket : (q.append (.comparing .field (.anyOf names))).bucket?
      = q.bucket? := hfound rfl
  have hrange : (q.append (.comparing .field (.anyOf names))).dateRange?
      = q.dateRange? := hfound rfl
  have hmeasurement :
      (q.append (.comparing .field (.anyOf names))).filterOn? .measurement
        = q.filterOn? .measurement := hfound rfl
  rw [selection_eq, selection_eq (b.withQuery q), query_withQuery,
    query_withQuery, hbucket, hrange, hmeasurement,
    Query.filterOn?_append h]
  rfl

-- ============================================================== counts

/-- A place that is filtered out and put at the end is there once. -/
theorem count_filter_concat {places : List Nat} {keeps : Nat → Bool}
    {place : Nat} (h : keeps place = false) :
    (places.filter keeps ++ [place]).count place = 1 := by
  have hnone : place ∉ places.filter keeps := fun hmem => by
    rw [(List.mem_filter.1 hmem).2] at h
    cases h
  rw [List.count_append, List.count_eq_zero_of_not_mem hnone,
    List.count_singleton_self]

/-- A measurement is selected once, and no field is. -/
theorem countP_withMeasurement (q : Query) (measurement : String) :
    (withMeasurement q measurement).parts.countP
        (Part.isFilterOn .measurement) = 1
      ∧ (withMeasurement q measurement).parts.countP
        (Part.isFilterOn .field) = 0 := by
  rw [Query.countP_eq_count_places Query.isFilterOn_measurement_iff,
    Query.countP_eq_count_places Query.isFilterOn_field_iff,
    places_withMeasurement]
  exact ⟨count_filter_concat rfl,
    List.count_eq_zero_of_not_mem (by simp)⟩

/-- The older filters on fields have gone. -/
theorem countP_withFields (q : Query) (names : List String) :
    (withFields q names).parts.countP (Part.isFilterOn .field) = 1 := by
  rw [Query.countP_eq_count_places Query.isFilterOn_field_iff,
    places_withFields]
  exact count_filter_concat rfl

/-- None of them is left where fields are cleared. -/
theorem countP_withoutFieldFilters (q : Query) :
    (withoutFieldFilters q).parts.countP (Part.isFilterOn .field) = 0 := by
  rw [Query.countP_eq_count_places Query.isFilterOn_field_iff,
    places_withoutFieldFilters]
  exact List.count_eq_zero_of_not_mem (by simp)

-- ========================================================== operations

/-- A bucket is selected alone, over the default range. -/
theorem selection_selectBucket {position : Nat} {bucket : Bucket}
    (h : b.selectBucket position = some (bucket, b')) :
    b.buckets[position]? = some bucket
      ∧ b'.selection = { bucket, dateRange := some defaultRange }
      ∧ b'.measurements = [] ∧ b'.fields = [] := by
  have htransition : Transition b (.selectBucket position)
      (.selected bucket) b' := transition_of_apply (by rw [apply, h]; rfl)
  cases htransition with
  | selectBucket listed => exact ⟨listed, rfl, rfl, rfl⟩

/-- A measurement is selected without fields, and leaves the bucket and
the range as they are. -/
theorem selection_selectMeasurement {position : Nat} {lookup : FieldLookup}
    (h : b.selectMeasurement position = some (lookup, b')) :
    b.measurements[position]? = some lookup.measurement
      ∧ b'.selection = { b.selection with
          measurement := some lookup.measurement, fields := [] }
      ∧ b'.query.parts.countP (Part.isFilterOn .measurement) = 1
      ∧ b'.query.parts.countP (Part.isFilterOn .field) = 0 := by
  have htransition : Transition b (.selectMeasurement position)
      (.lookup lookup) b' := transition_of_apply (by rw [apply, h]; rfl)
  cases htransition with
  | @selectMeasurement _ measurement _ listed =>
      refine ⟨listed, ?_, countP_withMeasurement b.query measurement⟩
      -- getter by getter, for the query with the measurement
      rw [selection_eq, selection_eq b, query_forgetFields,
        query_withQuery, bucket?_withMeasurement,
        dateRange?_withMeasurement, measurement_withMeasurement,
        field_withMeasurement]
      rfl

/-- Fields are selected as they are listed, and leave everything else as
it is. -/
theorem selection_selectFields {positions : List Nat}
    (nonempty : positions ≠ []) (h : b.selectFields positions = some b') :
    b'.selection = { b.selection with
        fields := positions.filterMap (b.fields[·]?) }
      ∧ b'.query.parts.countP (Part.isFilterOn .field) = 1 := by
  have htransition : Transition b (.selectFields positions) .done b' :=
    transition_of_apply (by rw [apply, h]; rfl)
  cases htransition with
  | dropFields => exact absurd rfl nonempty
  | @selectFields _ names listed =>
      refine ⟨?_, countP_withFields b.query names⟩
      rw [withFields, selection_append_field
        (field_withoutFieldFilters b.query), selection_withoutFieldFilters,
        listed]

/-- A range is selected in the place of the first one, and leaves everything
else as it is. -/
theorem selection_selectDateRange (b : Builder) (start : String)
    (stop : Option String) : (b.selectDateRange start stop).selection
      = { b.selection with dateRange := some ⟨start, stop⟩ } := by
  rw [selectDateRange_eq, selection_eq, selection_eq b, query_withQuery,
    Query.dateRange?_withRange]
  have hbucket : (b.query.withRange ⟨start, stop⟩).bucket?
      = b.query.bucket? := Query.findSome?_withRange (fun _ => rfl) _ _
  have hfilter : ∀ column,
      (b.query.withRange ⟨start, stop⟩).filterOn? column
        = b.query.filterOn? column := fun _ =>
    Query.findSome?_withRange (fun _ => rfl) _ _
  rw [hbucket, hfilter, hfilter]

/-- What was selected is what is shown, and the other selections are as
they were, whatever the parts of the query: a bucket is selected over the
default range and with nothing else, a measurement without fields, fields
as they are listed, no fields, or a range. -/
theorem selection_updates (b : Builder) :
    (∀ position bucket b', b.selectBucket position = some (bucket, b') →
        b.buckets[position]? = some bucket
          ∧ b'.selection
            = { bucket, dateRange := some { start := "-1h" } }
          ∧ b'.measurements = [] ∧ b'.fields = [])
      ∧ (∀ position lookup b',
        b.selectMeasurement position = some (lookup, b') →
          b.measurements[position]? = some lookup.measurement
            ∧ b'.selection = { b.selection with
                measurement := some lookup.measurement, fields := [] }
            ∧ b'.query.parts.countP (Part.isFilterOn .measurement) = 1
            ∧ b'.query.parts.countP (Part.isFilterOn .field) = 0)
      ∧ (∀ positions b', positions ≠ [] →
        b.selectFields positions = some b' →
          b'.selection = { b.selection with
              fields := positions.filterMap (b.fields[·]?) }
            ∧ b'.query.parts.countP (Part.isFilterOn .field) = 1)
      ∧ (∃ b', b.selectFields [] = some b'
        ∧ b'.selection = { b.selection with fields := [] }
        ∧ b'.query.parts.countP (Part.isFilterOn .field) = 0)
      ∧ ∀ start stop, (b.selectDateRange start stop).selection
        = { b.selection with dateRange := some ⟨start, stop⟩ } :=
  ⟨fun _ _ _ => selection_selectBucket,
    fun _ _ _ => selection_selectMeasurement,
    fun _ _ => selection_selectFields,
    ⟨_, rfl, selection_withoutFieldFilters b,
      countP_withoutFieldFilters b.query⟩,
    selection_selectDateRange b⟩

/-- A builder with parts that are repeated and out of order. -/
def repeated : Builder where
  buckets := [⟨"7f", "air"⟩]
  measurements := ["disk", "net"]
  fields := ["in", "out"]
  query := .ofParts
    [.filter ⟨.field, .single "idle"⟩, .bucket (.named "first"),
      .bucket (.named "second"), .filter ⟨.measurement, .single "cpu"⟩,
      .dateRange ⟨"-3h", none⟩, .dateRange ⟨"-4h", none⟩,
      .filter ⟨.measurement, .single "mem"⟩]

/-- The first parts of a kind are what is shown of it, and a new range or
filter is shown at once. -/
theorem selection_updates_repeated :
    (∃ b', repeated.selectBucket 0 = some (⟨"7f", "air"⟩, b')
        ∧ b'.selection
          = { bucket := some ⟨"7f", "air"⟩, dateRange := some ⟨"-1h", none⟩ })
      ∧ (∃ b', repeated.selectMeasurement 1 = some (⟨"first", "net"⟩, b')
        ∧ b'.selection = { repeated.selection with
            measurement := some "net", fields := [] })
      ∧ (∃ b', repeated.selectFields [1, 7, 1] = some b'
        ∧ b'.selection
          = { repeated.selection with fields := ["out", "out"] })
      ∧ repeated.selection = { bucket := some (.named "first")
                               dateRange := some ⟨"-3h", none⟩
                               measurement := some "cpu"
                               fields := ["idle"] } := by
  obtain ⟨hbucket, hmeasurement, hfields, -, -⟩ := selection_updates repeated
  refine ⟨⟨_, rfl, ?_⟩, ⟨_, rfl, ?_⟩, ⟨_, rfl, ?_⟩, by decide⟩
  · exact (hbucket 0 _ _ rfl).2.1
  · exact (hmeasurement 1 _ _ rfl).2.1
  · exact (hfields [1, 7, 1] _ (by decide) rfl).1

end Builder
end FluxComposer
