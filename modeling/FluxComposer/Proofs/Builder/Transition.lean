import FluxComposer.Builder.Edit
import Mathlib.Data.List.Basic
import Mathlib.Tactic.Common
/-
What an operation on a builder can do. `Transition` lists the ways in
which an operation ends, each with the condition under which it ends so
and the builder that it leaves, and `transition_apply` says that there is
no other way. A fact about all operations is a case analysis of
`Transition`, and a fact about all states of a run is such a fact lifted
by `applyAll_induction`; no other file opens an operation.

Operations are opened one by one, in a lemma for each of those that can be
refused. Where an operation looks something up, a lemma says what it comes
to if the lookup succeeds and another if it fails (`selectFields_eq_some`,
`selectFields_eq_none`), so that the case analysis is one on the lookup.
-/
namespace FluxComposer.Builder

/-- The query of a measurement in the place of all filters. -/
def withMeasurement (q : Query) (measurement : String) : Query :=
  (q.keep fun part => !part.isFilterOn .measurement
    && !part.isFilterOn .field).append
      (.comparing .measurement (.single measurement))

/-- The query of fields in the place of all field filters. -/
def withFields (q : Query) (names : List String) : Query :=
  (withoutFieldFilters q).append (.comparing .field (.anyOf names))

/-- How an operation ends: its outcome and the builder that it leaves. -/
inductive Transition (b : Builder) : Edit → Outcome → Builder → Prop where
  | refused (e : Edit) : Transition b e .refused b
  | setBuckets (buckets : List Bucket) :
      Transition b (.setBuckets buckets) .done (b.setBuckets buckets)
  | selectBucket {position : Nat} {bucket : Bucket}
      (listed : b.buckets[position]? = some bucket) :
      Transition b (.selectBucket position) (.selected bucket)
        (b.withQuery (.ofParts [.bucket bucket,
          .dateRange defaultRange])).forgetListings
  | selectMeasurement {position : Nat} {measurement : String}
      {bucket : Bucket}
      (listed : b.measurements[position]? = some measurement)
      (selected : b.bucket? = some bucket) :
      Transition b (.selectMeasurement position)
        (.lookup ⟨bucket.name, measurement⟩)
        (b.withQuery (withMeasurement b.query measurement)).forgetFields
  | dropFields :
      Transition b (.selectFields []) .done
        (b.withQuery (withoutFieldFilters b.query))
  | selectFields {positions : List Nat} {names : List String}
      (listed : positions.filterMap (b.fields[·]?) = names)
      (nonempty : names ≠ []) :
      Transition b (.selectFields positions) .done
        (b.withQuery (withFields b.query names))
  | replaceRange {index : Nat} (start : String) (stop : Option String)
      (found : b.query.position? Part.isDateRange = some index) :
      Transition b (.selectDateRange start stop) .done
        (b.withQuery (b.query.replaceAt index (.dateRange ⟨start, stop⟩)))
  | appendRange (start : String) (stop : Option String)
      (missing : b.query.position? Part.isDateRange = none) :
      Transition b (.selectDateRange start stop) .done
        (b.withQuery (b.query.append (.dateRange ⟨start, stop⟩)))
  | updateText (text : String) :
      Transition b (.updateText text) .done (b.updateText text)
  | removePart {index : Nat} {part : Part}
      (found : b.query.parts[index]? = some part) :
      Transition b (.removePart index) (.removed part)
        ((b.withQuery (b.query.removeAt index)).forgetFor part)
  | reset : Transition b .reset .done b.reset
  | applyMeasurements (names : List String) :
      Transition b (.applyMeasurements b.revision names) .done
        { b with measurements := names }
  | applyFields (names : List String) :
      Transition b (.applyFields b.revision names) .done
        { b with fields := names }

/-- Taking out what is not there takes nothing out. -/
theorem parts_removeAt (q : Query) (index : Nat) :
    (q.removeAt index).parts = q.parts.eraseIdx index := by
  unfold Query.removeAt
  split
  case isTrue => rfl
  case isFalse h => rw [List.eraseIdx_of_length_le (Nat.le_of_not_lt h)]

-- ================================================= fields of a builder

section Projections

variable (b : Builder) (q : Query)

/-- A builder is given a query by bumping its revision; the query is then
the one given. -/
@[simp]
theorem query_withQuery : (b.withQuery q).query = q := rfl

/-- What is listed and what is queried are kept apart. -/
@[simp]
theorem query_forgetListings : b.forgetListings.query = b.query := rfl

@[simp]
theorem query_forgetFields : b.forgetFields.query = b.query := rfl

/-- Whatever the part is, forgetting what was listed for it leaves the
query. -/
@[simp]
theorem query_forgetFor (part : Part) :
    (b.forgetFor part).query = b.query := by
  rcases part with _ | _ | ⟨_ | _, _⟩ <;> rfl

/-- It leaves the revision, too, which was raised with the query. -/
@[simp]
theorem revision_forgetFor (part : Part) :
    (b.forgetFor part).revision = b.revision := by
  rcases part with _ | _ | ⟨_ | _, _⟩ <;> rfl

end Projections

-- ============================================================ outcomes

/-- A bucket is selected by its position among those listed, or there is
none at that position. -/
theorem transition_selectBucket (b : Builder) (position : Nat) :
    Transition b (.selectBucket position)
      (b.apply (.selectBucket position)).1
      (b.apply (.selectBucket position)).2 := by
  cases hlisted : b.buckets[position]? with
  | none =>
      have hnone : b.selectBucket position = none := by
        simp [selectBucket, hlisted]
      rw [apply, hnone]
      exact .refused _
  | some bucket =>
      have hsome : b.selectBucket position
          = some (bucket, (b.withQuery (.ofParts [.bucket bucket,
            .dateRange defaultRange])).forgetListings) := by
        simp [selectBucket, hlisted]
      rw [apply, hsome]
      exact .selectBucket hlisted

/-- A measurement needs a bucket to be selected in. -/
theorem selectMeasurement_eq_some {b : Builder} {position : Nat}
    {measurement : String} {bucket : Bucket}
    (listed : b.measurements[position]? = some measurement)
    (selected : b.bucket? = some bucket) :
    b.selectMeasurement position = some (⟨bucket.name, measurement⟩,
      (b.withQuery (withMeasurement b.query measurement)).forgetFields) := by
  simp [selectMeasurement, listed, selected, withMeasurement]

/-- Without one of the two, selecting a measurement is refused. -/
theorem selectMeasurement_eq_none {b : Builder} {position : Nat}
    (h : b.measurements[position]? = none ∨ b.bucket? = none) :
    b.selectMeasurement position = none := by
  rcases h with hlisted | hbucket
  · simp [selectMeasurement, hlisted]
  · cases hlisted : b.measurements[position]? with
    | none => simp [selectMeasurement, hlisted]
    | some measurement => simp [selectMeasurement, hlisted, hbucket]

theorem transition_selectMeasurement (b : Builder) (position : Nat) :
    Transition b (.selectMeasurement position)
      (b.apply (.selectMeasurement position)).1
      (b.apply (.selectMeasurement position)).2 := by
  cases hlisted : b.measurements[position]? with
  | none =>
      rw [apply, selectMeasurement_eq_none (.inl hlisted)]
      exact .refused _
  | some measurement =>
      cases hbucket : b.bucket? with
      | none =>
          rw [apply, selectMeasurement_eq_none (.inr hbucket)]
          exact .refused _
      | some bucket =>
          rw [apply, selectMeasurement_eq_some hlisted hbucket]
          exact .selectMeasurement hlisted hbucket

/-- Positions at which no field is listed are passed over. -/
theorem selectFields_eq_some {b : Builder} {positions : List Nat}
    {names : List String}
    (listed : positions.filterMap (b.fields[·]?) = names)
    (nonempty : names ≠ []) :
    b.selectFields positions
      = some (b.withQuery (withFields b.query names)) := by
  cases positions with
  | nil => exact absurd listed.symm nonempty
  | cons first others =>
      cases names with
      | nil => exact absurd rfl nonempty
      | cons name names =>
          unfold selectFields
          simp only [listed]
          rfl

/-- If no position is left, the selection is refused, for it was not meant
to clear the fields. -/
theorem selectFields_eq_none {b : Builder} {positions : List Nat}
    (nonempty : positions ≠ [])
    (listed : positions.filterMap (b.fields[·]?) = []) :
    b.selectFields positions = none := by
  cases positions with
  | nil => exact absurd rfl nonempty
  | cons first others =>
      unfold selectFields
      simp only [listed]

/-- Selecting no position at all clears the fields. -/
theorem transition_selectFields (b : Builder) (positions : List Nat) :
    Transition b (.selectFields positions)
      (b.apply (.selectFields positions)).1
      (b.apply (.selectFields positions)).2 := by
  cases positions with
  | nil => exact .dropFields
  | cons first others =>
      -- the positions are not empty, but the names at them may be
      by_cases hnames : (first :: others).filterMap (b.fields[·]?) = []
      · rw [apply, selectFields_eq_none (List.cons_ne_nil _ _) hnames]
        exact .refused _
      · rw [apply, selectFields_eq_some rfl hnames]
        exact .selectFields rfl hnames

/-- A range takes the place of the one there is, or comes last. -/
theorem transition_selectDateRange (b : Builder) (start : String)
    (stop : Option String) :
    Transition b (.selectDateRange start stop) .done
      (b.selectDateRange start stop) := by
  unfold selectDateRange
  cases hfound : b.query.position? Part.isDateRange with
  | none => exact .appendRange start stop hfound
  | some index => exact .replaceRange start stop hfound

/-- A part is removed by its position, and with it what was listed for
it. -/
theorem transition_removePart (b : Builder) (index : Nat) :
    Transition b (.removePart index) (b.apply (.removePart index)).1
      (b.apply (.removePart index)).2 := by
  cases hfound : b.query.parts[index]? with
  | none =>
      have hnone : b.removePart index = none := by
        simp [removePart, hfound]
      rw [apply, hnone]
      exact .refused _
  | some part =>
      have hsome : b.removePart index = some (part,
          (b.withQuery (b.query.removeAt index)).forgetFor part) := by
        simp [removePart, hfound]
      rw [apply, hsome]
      exact .removePart hfound

/-- A listing is taken over if the builder has not changed since it was
asked for. -/
theorem transition_applyMeasurements (b : Builder) (revision : UInt64)
    (names : List String) :
    Transition b (.applyMeasurements revision names)
      (b.apply (.applyMeasurements revision names)).1
      (b.apply (.applyMeasurements revision names)).2 := by
  -- the listing may come too late
  by_cases h : revision = b.revision
  · subst h
    have hsome : b.applyMeasurements b.revision names
        = some { b with measurements := names } := if_pos rfl
    rw [apply, hsome]
    exact .applyMeasurements names
  · have hnone : b.applyMeasurements revision names = none := if_neg h
    rw [apply, hnone]
    exact .refused _

theorem transition_applyFields (b : Builder) (revision : UInt64)
    (names : List String) :
    Transition b (.applyFields revision names)
      (b.apply (.applyFields revision names)).1
      (b.apply (.applyFields revision names)).2 := by
  by_cases h : revision = b.revision
  · subst h
    have hsome : b.applyFields b.revision names
        = some { b with fields := names } := if_pos rfl
    rw [apply, hsome]
    exact .applyFields names
  · have hnone : b.applyFields revision names = none := if_neg h
    rw [apply, hnone]
    exact .refused _

/-- There is no way to end but the ones listed. -/
theorem transition_apply (b : Builder) (e : Edit) :
    Transition b e (b.apply e).1 (b.apply e).2 := by
  cases e with
  | setBuckets buckets => exact .setBuckets buckets
  | selectBucket position => exact transition_selectBucket b position
  | selectMeasurement position =>
      exact transition_selectMeasurement b position
  | selectFields positions => exact transition_selectFields b positions
  | selectDateRange start stop =>
      exact transition_selectDateRange b start stop
  | updateText text => exact .updateText text
  | removePart index => exact transition_removePart b index
  | reset => exact .reset
  | applyMeasurements revision names =>
      exact transition_applyMeasurements b revision names
  | applyFields revision names => exact transition_applyFields b revision names

/-- The same for an operation whose end is known. -/
theorem transition_of_apply {b b' : Builder} {e : Edit} {o : Outcome}
    (h : b.apply e = (o, b')) : Transition b e o b' := by
  have htransition := transition_apply b e
  rwa [h] at htransition

-- =============================================================== runs

/-- The state after one more operation. -/
theorem applyAll_take_succ {edits : List Edit} {n : Nat} {e : Edit}
    (b : Builder) (h : edits[n]? = some e) :
    b.applyAll (edits.take (n + 1))
      = ((b.applyAll (edits.take n)).apply e).2 := by
  rw [List.take_add_one, h]
  unfold applyAll
  rw [List.foldl_append]
  rfl

/-- What holds at first and is kept by each operation of a run holds in
the end. -/
theorem applyAll_induction {P : Builder → Prop} {edits : List Edit}
    {b : Builder} (init : P b)
    (step : ∀ b e, e ∈ edits → P b → P (b.apply e).2) :
    P (b.applyAll edits) := by
  -- from the front of the run, so the state that it starts in varies
  induction edits generalizing b with
  | nil => exact init
  | cons e edits ih =>
      refine ih (step b e List.mem_cons_self init) ?_
      exact fun b e' he' => step b e' (List.mem_cons_of_mem e he')

end FluxComposer.Builder
