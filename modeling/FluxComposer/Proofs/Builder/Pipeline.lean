import FluxComposer.Proofs.Builder.Transition
import Mathlib.Data.List.InsertIdx
import Mathlib.Data.List.Nodup
/-
The parts of a query that is composed by operations: which there can be,
and in what order they stand.

Every part has a place in the pipeline (`Part.place`), and what an
operation does to the parts it does to the list of their places: nothing,
one place more at the end, all of some places out, or one position out.
That parts are not repeated is then that places are not
(`isUnrepeated_iff_nodup`), and that they are in order is that places
ascend (`inOrder_iff_places`).

No operation sorts. A new filter goes behind everything, which is its
place, and so does a new range, which is not its place where a filter
stands already (`not_inOrder_selectDateRange`). That is the only way out
of the order (`inOrder_apply`).
-/
namespace FluxComposer

/-- The place of a part in the pipeline. -/
def Part.place : Part → Nat
  | .bucket _ => 0
  | .dateRange _ => 1
  | .filter ⟨.measurement, _⟩ => 2
  | .filter ⟨.field, _⟩ => 3

namespace Query

/-- The places of the parts of a query, in their order. -/
def places (q : Query) : List Nat := q.parts.map Part.place

/-- No two parts of a query are of one kind. -/
@[mk_iff]
structure IsUnrepeated (q : Query) : Prop where
  bucket : q.parts.countP Part.isBucket ≤ 1
  dateRange : q.parts.countP Part.isDateRange ≤ 1
  measurement : q.parts.countP (Part.isFilterOn .measurement) ≤ 1
  field : q.parts.countP (Part.isFilterOn .field) ≤ 1

/-- A query is not raw and structured at once. -/
def IsExclusive (q : Query) : Prop := q.rawText.isSome → q.parts = []

/-- Parts that stand in the order of their places, each place taken at
most once. -/
def InOrder (parts : List Part) : Prop :=
  parts.Pairwise fun p p' => p.place < p'.place

/-- A query has filters and no range that they could stand behind. -/
def FiltersUnranged (q : Query) : Prop :=
  q.dateRange? = none ∧ ∃ filter, Part.filter filter ∈ q.parts

instance : DecidablePred IsUnrepeated :=
  fun q => decidable_of_iff' _ (isUnrepeated_iff q)

instance : DecidablePred IsExclusive :=
  fun q => inferInstanceAs (Decidable (q.rawText.isSome → q.parts = []))

instance : DecidablePred InOrder :=
  fun parts => inferInstanceAs
    (Decidable (parts.Pairwise fun p p' => p.place < p'.place))

-- ============================================================== places

/-- Buckets have the first place. -/
theorem isBucket_iff (p : Part) : p.isBucket = true ↔ p.place = 0 := by
  rcases p with _ | _ | ⟨_ | _, _⟩ <;> simp [Part.isBucket, Part.place]

/-- Ranges have the second place. -/
theorem isDateRange_iff (p : Part) :
    p.isDateRange = true ↔ p.place = 1 := by
  rcases p with _ | _ | ⟨_ | _, _⟩ <;> simp [Part.isDateRange, Part.place]

/-- Filters on the measurement have the third place. -/
theorem isFilterOn_measurement_iff (p : Part) :
    p.isFilterOn .measurement = true ↔ p.place = 2 := by
  rcases p with _ | _ | ⟨_ | _, _⟩ <;> simp [Part.isFilterOn, Part.place]

/-- Filters on fields have the last place. -/
theorem isFilterOn_field_iff (p : Part) :
    p.isFilterOn .field = true ↔ p.place = 3 := by
  rcases p with _ | _ | ⟨_ | _, _⟩ <;> simp [Part.isFilterOn, Part.place]

/-- There are four places. -/
theorem place_le (p : Part) : p.place ≤ 3 := by
  rcases p with _ | _ | ⟨_ | _, _⟩ <;> simp [Part.place]

/-- The parts of one kind are counted by their place. -/
theorem countP_eq_count_places {test : Part → Bool} {place : Nat}
    (h : ∀ p, test p = true ↔ p.place = place) (q : Query) :
    q.parts.countP test = q.places.count place := by
  unfold places
  rw [List.count_eq_countP, List.countP_map]
  exact List.countP_congr fun p _ => by simp [h]

/-- Parts are repeated where places are. -/
theorem isUnrepeated_iff_nodup (q : Query) :
    q.IsUnrepeated ↔ q.places.Nodup := by
  rw [isUnrepeated_iff, countP_eq_count_places isBucket_iff,
    countP_eq_count_places isDateRange_iff,
    countP_eq_count_places isFilterOn_measurement_iff,
    countP_eq_count_places isFilterOn_field_iff,
    List.nodup_iff_count_le_one]
  constructor
  · rintro ⟨h0, h1, h2, h3⟩ place
    -- a place that is taken is one of the four
    by_cases hmem : place ∈ q.places
    · obtain ⟨p, -, rfl⟩ := List.mem_map.1 hmem
      have hp : p.place = 0 ∨ p.place = 1 ∨ p.place = 2 ∨ p.place = 3 := by
        have hle := place_le p
        omega
      rcases hp with hp | hp | hp | hp <;> rw [hp] <;> assumption
    · simp [List.count_eq_zero_of_not_mem hmem]
  · intro h
    exact ⟨h 0, h 1, h 2, h 3⟩

/-- Parts are in order where their places ascend. -/
theorem inOrder_iff_places (q : Query) :
    InOrder q.parts ↔ q.places.Pairwise (· < ·) := by
  unfold places
  rw [List.pairwise_map]
  rfl

/-- The same for the places of a query. -/
theorem places_le {q : Query} {place : Nat} (h : place ∈ q.places) :
    place ≤ 3 := by
  obtain ⟨p, -, rfl⟩ := List.mem_map.1 h
  exact place_le p

-- =============================================== places under an edit

/-- A new part brings its place behind all others. -/
@[simp]
theorem places_append (q : Query) (p : Part) :
    (q.append p).places = q.places ++ [p.place] := by
  simp [places, append, ofParts]

/-- A test that only looks at places keeps places. -/
theorem places_keep {test : Part → Bool} (keeps : Nat → Bool)
    (h : ∀ p, test p = keeps p.place) (q : Query) :
    (q.keep test).places = q.places.filter keeps := by
  unfold places keep ofParts
  rw [List.filter_map]
  exact congrArg _ (List.filter_congr fun p _ => h p)

/-- A part is taken out with its place. -/
@[simp]
theorem places_removeAt (q : Query) (index : Nat) :
    (q.removeAt index).places = q.places.eraseIdx index := by
  unfold places
  rw [Builder.parts_removeAt, List.eraseIdx_map]

/-- A range in the place of a range changes no place. -/
theorem places_replaceAt {q : Query} {index : Nat}
    (h : q.position? Part.isDateRange = some index) (r : DateRange) :
    (q.replaceAt index (.dateRange r)).places = q.places := by
  obtain ⟨hlt, hrange, -⟩ := List.findIdx?_eq_some_iff_getElem.1 h
  have hlt' : index < q.places.length := by simpa [places] using hlt
  have hplace : q.places[index] = 1 := by
    simpa [places] using (isDateRange_iff _).1 hrange
  -- a range is found at the index, so its place is put where it was
  calc (q.parts.set index (.dateRange r)).map Part.place
      = q.places.set index 1 := List.map_set
    _ = q.places.set index q.places[index] := by rw [hplace]
    _ = q.places := List.set_getElem_self hlt'

/-- A range is looked for by its place. -/
theorem one_not_mem_places_iff (q : Query) :
    1 ∉ q.places ↔ q.position? Part.isDateRange = none := by
  unfold position? places
  simp [List.findIdx?_eq_none_iff, ← isDateRange_iff]

/-- The range of a query is missing where its place is. -/
theorem dateRange?_eq_none_iff (q : Query) :
    q.dateRange? = none ↔ 1 ∉ q.places := by
  unfold dateRange? places
  rw [List.findSome?_eq_none_iff, List.mem_map]
  constructor
  · rintro h ⟨p, hp, hplace⟩
    have hnone := h p hp
    rcases p with _ | _ | ⟨_ | _, _⟩ <;> simp_all [Part.place, Part.dateRange?]
  · intro h p hp
    rcases p with _ | r | _
    · rfl
    · exact absurd ⟨_, hp, rfl⟩ h
    · rfl

/-- Filters are the parts behind the place of a range. -/
theorem filter_mem_iff (q : Query) :
    (∃ filter, Part.filter filter ∈ q.parts)
      ↔ ∃ place ∈ q.places, 1 < place := by
  constructor
  · rintro ⟨⟨column, operand⟩, h⟩
    refine ⟨_, List.mem_map.2 ⟨_, h, rfl⟩, ?_⟩
    cases column <;> simp [Part.place]
  · rintro ⟨place, hplace, hlt⟩
    obtain ⟨p, hp, rfl⟩ := List.mem_map.1 hplace
    rcases p with _ | _ | filter
    · simp [Part.place] at hlt
    · simp [Part.place] at hlt
    · exact ⟨filter, hp⟩

end Query

namespace Builder

open Query

variable {b b' : Builder} {e : Edit} {o : Outcome}

/-- Without field filters the last place is free. -/
theorem places_withoutFieldFilters (q : Query) :
    (withoutFieldFilters q).places = q.places.filter (· ≠ 3) := by
  refine places_keep (· ≠ 3) (fun p => ?_) q
  rw [Bool.eq_iff_iff]
  simp [← isFilterOn_field_iff]

/-- Fields that are selected take the last place. -/
theorem places_withFields (q : Query) (names : List String) :
    (withFields q names).places = q.places.filter (· ≠ 3) ++ [3] := by
  unfold withFields
  rw [places_append, places_withoutFieldFilters]
  rfl

/-- A new measurement leaves the places before the filters, and comes
next. -/
theorem places_withMeasurement (q : Query) (measurement : String) :
    (withMeasurement q measurement).places
      = q.places.filter (· < 2) ++ [2] := by
  unfold withMeasurement
  rw [places_append, places_keep (· < 2) fun p => ?_]
  · rfl
  · have hle := place_le p
    rw [Bool.eq_iff_iff]
    simp [← Bool.not_eq_true, isFilterOn_field_iff,
      isFilterOn_measurement_iff]
    omega

-- ============================================== parts are not repeated

/-- A place that is filtered out can be put at the end. -/
theorem nodup_filter_concat {places : List Nat} {keeps : Nat → Bool}
    {place : Nat} (nodup : places.Nodup) (h : keeps place = false) :
    (places.filter keeps ++ [place]).Nodup := by
  rw [← List.concat_eq_append]
  refine (nodup.filter _).concat fun hmem => ?_
  have hkept := (List.mem_filter.1 hmem).2
  rw [h] at hkept
  cases hkept

/-- An operation repeats no part unless it reads a text that does. -/
theorem nodup_places_transition (h : Transition b e o b')
    (text : ∀ text, e = .updateText text → (Query.parse text).IsUnrepeated)
    (nodup : b.query.places.Nodup) : b'.query.places.Nodup := by
  -- what comes was taken out before, or was not there
  cases h with
  | refused | setBuckets | applyMeasurements | applyFields => exact nodup
  | selectBucket => simp [places, ofParts, Part.place]
  | selectMeasurement =>
      rw [query_forgetFields, query_withQuery, places_withMeasurement]
      exact nodup_filter_concat nodup (by decide)
  | dropFields =>
      rw [query_withQuery, places_withoutFieldFilters]
      exact nodup.filter _
  | selectFields =>
      rw [query_withQuery, places_withFields]
      exact nodup_filter_concat nodup (by decide)
  | replaceRange start stop found =>
      rw [query_withQuery, places_replaceAt found]
      exact nodup
  | appendRange start stop missing =>
      have hmissing := (one_not_mem_places_iff b.query).2 missing
      rw [query_withQuery, places_append, ← List.concat_eq_append]
      exact nodup.concat hmissing
  | updateText t => exact (isUnrepeated_iff_nodup _).1 (text t rfl)
  | removePart => simpa using nodup.eraseIdx _
  | reset => exact List.nodup_nil

/-- Parts without a raw text are not raw. -/
theorem isExclusive_ofParts (parts : List Part) :
    (ofParts parts).IsExclusive := by
  intro h
  cases h

/-- A text is read as parts or is kept raw. -/
theorem isExclusive_parse (text : String) :
    (Query.parse text).IsExclusive := by
  unfold Query.parse
  simp only
  split
  · intro
    rfl
  · exact isExclusive_ofParts _

/-- A raw text is kept by removing a part only if no part is left. -/
theorem isExclusive_removeAt {q : Query} (index : Nat)
    (h : q.IsExclusive) : (q.removeAt index).IsExclusive := by
  unfold removeAt
  split
  · intro hraw
    by_cases hempty : (q.parts.eraseIdx index).isEmpty
    · simpa using hempty
    · simp [hempty] at hraw
  · exact h

/-- The only operation that keeps a raw text with parts in hand replaces
one of them, so there was no raw text. -/
theorem isExclusive_transition (h : Transition b e o b')
    (exclusive : b.query.IsExclusive) : b'.query.IsExclusive := by
  cases h with
  | refused | setBuckets | applyMeasurements | applyFields =>
      exact exclusive
  | selectBucket => exact isExclusive_ofParts _
  | selectMeasurement => exact isExclusive_ofParts _
  | dropFields => exact isExclusive_ofParts _
  | selectFields => exact isExclusive_ofParts _
  | replaceRange start stop found =>
      intro hraw
      have hnil : b.query.parts = [] := exclusive hraw
      simp [position?, hnil] at found
  | appendRange => exact isExclusive_ofParts _
  | updateText text => exact isExclusive_parse text
  | removePart =>
      simpa using isExclusive_removeAt _ exclusive
  | reset => exact isExclusive_ofParts []

/-- After any operations a query is not raw and structured at once, and
it repeats no part unless a text did. -/
theorem query_applyAll_wellFormed (edits : List Edit) :
    let q := (applyAll {} edits).query
    q.IsExclusive
      ∧ ((∀ text, .updateText text ∈ edits →
          (Query.parse text).IsUnrepeated) → q.IsUnrepeated) := by
  constructor
  · refine applyAll_induction (P := fun b => b.query.IsExclusive)
      (fun h => nomatch h) fun b e _ hb => ?_
    exact isExclusive_transition (transition_apply b e) hb
  · intro htexts
    rw [isUnrepeated_iff_nodup]
    refine applyAll_induction (P := fun b => b.query.places.Nodup)
      List.nodup_nil fun b e he hb => ?_
    refine nodup_places_transition (transition_apply b e) ?_ hb
    rintro text rfl
    exact htexts text he

/-- A run that goes on after a text without parts. -/
def rawRun : List Edit :=
  [.setBuckets [.named "metrics"], .selectBucket 0,
    .updateText "buckets()\n|> last()", .selectDateRange "-2h" none]

/-- The text in the run has no parts to repeat. -/
theorem isUnrepeated_rawRun :
    (applyAll {} rawRun).query.IsExclusive
      ∧ (applyAll {} rawRun).query.IsUnrepeated := by
  obtain ⟨hexclusive, hunrepeated⟩ := query_applyAll_wellFormed rawRun
  refine ⟨hexclusive, hunrepeated fun text htext => ?_⟩
  obtain rfl : text = "buckets()\n|> last()" := by
    simpa [rawRun] using htext
  decide

-- =============================================== parts are in order

/-- The places that are looked at ascend also with a new one at the end,
if it is greater than all of them or is not looked at. -/
theorem ascend_concat {places : List Nat} {keeps : Nat → Bool}
    {place : Nat} (order : (places.filter keeps).Pairwise (· < ·))
    (h : keeps place → ∀ p ∈ places, keeps p → p < place) :
    ((places ++ [place]).filter keeps).Pairwise (· < ·) := by
  rw [List.filter_append, List.filter_singleton]
  cases hkeeps : keeps place with
  | false =>
      rw [cond_false, List.append_nil]
      exact order
  | true =>
      rw [cond_true]
      refine List.pairwise_append.2
        ⟨order, List.pairwise_singleton _ _, ?_⟩
      intro p hp p' hp'
      obtain rfl := List.mem_singleton.1 hp'
      obtain ⟨hp, hkept⟩ := List.mem_filter.1 hp
      exact h hkeeps p hp hkept

/-- Of any places that are looked at, an operation that reads no text
keeps the order, if a new range is greater than those that are looked
at. -/
theorem ascend_transition {keeps : Nat → Bool} (h : Transition b e o b')
    (text : ∀ text, e ≠ .updateText text)
    (range : ∀ start stop, e = .selectDateRange start stop →
      1 ∉ b.query.places → keeps 1 →
      ∀ place ∈ b.query.places, keeps place → place < 1)
    (order : (b.query.places.filter keeps).Pairwise (· < ·)) :
    (b'.query.places.filter keeps).Pairwise (· < ·) := by
  -- taking places out keeps the others in order, looked at or not
  have hfilter : ∀ test : Nat → Bool,
      ((b.query.places.filter test).filter keeps).Pairwise (· < ·) := by
    intro test
    rw [List.filter_comm]
    exact order.filter _
  cases h with
  | refused | setBuckets | applyMeasurements | applyFields => exact order
  | selectBucket =>
      have hstart : ([0, 1] : List Nat).Pairwise (· < ·) := by decide
      exact hstart.filter _
  | selectMeasurement =>
      rw [query_forgetFields, query_withQuery, places_withMeasurement]
      refine ascend_concat (hfilter _) fun _ p hp _ => ?_
      exact of_decide_eq_true (List.mem_filter.1 hp).2
  | dropFields =>
      rw [query_withQuery, places_withoutFieldFilters]
      exact hfilter _
  | selectFields =>
      rw [query_withQuery, places_withFields]
      refine ascend_concat (hfilter _) fun _ p hp _ => ?_
      obtain ⟨hp, hfield⟩ := List.mem_filter.1 hp
      have hle := places_le hp
      have hne : p ≠ 3 := of_decide_eq_true hfield
      omega
  | replaceRange start stop found =>
      rw [query_withQuery, places_replaceAt found]
      exact order
  | appendRange start stop missing =>
      have hmissing := (one_not_mem_places_iff b.query).2 missing
      rw [query_withQuery, places_append]
      exact ascend_concat order (range start stop rfl hmissing)
  | updateText t => exact absurd rfl (text t)
  | removePart =>
      rw [query_forgetFor, query_withQuery, places_removeAt]
      exact order.sublist ((List.eraseIdx_sublist _ _).filter _)
  | reset => exact List.Pairwise.nil

/-- Some of the parts are in order if their places are. -/
theorem inOrder_filter_iff {test : Part → Bool} (keeps : Nat → Bool)
    (h : ∀ p, test p = keeps p.place) (q : Query) :
    InOrder (q.parts.filter test)
      ↔ (q.places.filter keeps).Pairwise (· < ·) := by
  rw [← places_keep keeps h q, ← inOrder_iff_places]
  rfl

/-- Filters without a range, by their places. -/
theorem filtersUnranged_iff (q : Query) :
    q.FiltersUnranged ↔ 1 ∉ q.places ∧ ∃ place ∈ q.places, 1 < place := by
  unfold FiltersUnranged
  rw [dateRange?_eq_none_iff, filter_mem_iff]

/-- An operation that reads no text keeps all parts in order, unless it
is a range that comes behind filters. -/
theorem inOrder_apply (order : InOrder b.query.parts)
    (text : ∀ text, e ≠ .updateText text)
    (range : ∀ start stop, e = .selectDateRange start stop →
      ¬ b.query.FiltersUnranged) :
    InOrder (b.apply e).2.query.parts := by
  have hall : ∀ places : List Nat,
      places.filter (fun _ => true) = places := List.filter_true
  rw [inOrder_iff_places, ← hall (Query.places _)] at order ⊢
  -- all places are looked at, so a new range has to be the greatest
  refine ascend_transition (transition_apply b e) text ?_ order
  intro start stop he hmissing _ place hplace _
  have hle : ¬ 1 < place := fun hless => range start stop he
    ((filtersUnranged_iff _).2 ⟨hmissing, place, hplace, hless⟩)
  have hne : place ≠ 1 := fun heq => hmissing (heq ▸ hplace)
  omega

/-- A range that comes behind filters is out of order. -/
theorem not_inOrder_selectDateRange (h : b.query.FiltersUnranged)
    (start : String) (stop : Option String) :
    ¬ InOrder (b.selectDateRange start stop).query.parts := by
  obtain ⟨hmissing, place, hplace, hless⟩ := (filtersUnranged_iff _).1 h
  have hnone := (one_not_mem_places_iff b.query).1 hmissing
  have hquery : (b.selectDateRange start stop).query
      = b.query.append (.dateRange ⟨start, stop⟩) := by
    unfold selectDateRange
    rw [hnone]
    rfl
  rw [hquery, inOrder_iff_places, places_append]
  intro horder
  have hbefore : place < 1 := (List.pairwise_append.1 horder).2.2 place
    hplace 1 (List.mem_singleton.2 rfl)
  omega

/-- The parts that are in order whatever the operations: all but the
range, and the range behind the bucket. -/
theorem inOrder_apart (edits : List Edit)
    (text : ∀ text, .updateText text ∉ edits) :
    InOrder ((applyAll {} edits).query.parts.filter (!·.isDateRange))
      ∧ InOrder ((applyAll {} edits).query.parts.filter
        fun p => p.isBucket || p.isDateRange) := by
  have hkept : ∀ keeps : Nat → Bool, (keeps 1 → ∀ place, keeps place →
      place ≠ 1 → place < 1) →
      ((applyAll {} edits).query.places.filter keeps).Pairwise
        (· < ·) := by
    intro keeps hless
    refine applyAll_induction
      (P := fun b => (b.query.places.filter keeps).Pairwise (· < ·))
      List.Pairwise.nil fun b e he hb => ?_
    refine ascend_transition (transition_apply b e)
      (fun t heq => text t (heq ▸ he)) ?_ hb
    intro _ _ _ hmissing hone place hplace hkeeps
    exact hless hone place hkeeps fun heq => hmissing (heq ▸ hplace)
  -- first all places but that of the range, then those up to it
  constructor
  · refine (inOrder_filter_iff (· ≠ 1) (fun p => ?_) _).2
      (hkept _ (by simp))
    rw [Bool.eq_iff_iff]
    simp [← isDateRange_iff]
  · refine (inOrder_filter_iff (· ≤ 1) (fun p => ?_) _).2
      (hkept _ (by simp; omega))
    rw [Bool.eq_iff_iff]
    simp [isBucket_iff, isDateRange_iff]
    omega

/-- In a run that reads no text, all parts but the range are always in
order, and so is the range with the bucket. All parts are always in order
exactly if no range is selected where filters stand without one. -/
theorem inOrder_applyAll_iff {edits : List Edit}
    (text : ∀ text, .updateText text ∉ edits) :
    let state n := (applyAll {} (edits.take n)).query
    (∀ n, InOrder ((state n).parts.filter (!·.isDateRange))
        ∧ InOrder ((state n).parts.filter
          fun p => p.isBucket || p.isDateRange))
      ∧ ((∀ n, InOrder (state n).parts)
        ↔ ∀ n start stop, edits[n]? = some (.selectDateRange start stop) →
          ¬ (state n).FiltersUnranged) := by
  intro state
  refine ⟨fun n => ?_, ?_, ?_⟩
  · exact inOrder_apart _ fun t ht => text t (List.mem_of_mem_take ht)
  · -- if a range came behind filters, the next state would not be in
    -- order
    intro horder n start stop he hunranged
    refine not_inOrder_selectDateRange hunranged start stop ?_
    have hnext := horder (n + 1)
    simp only [state] at hnext
    rwa [applyAll_take_succ _ he] at hnext
  · intro hrange n
    -- state by state, and none is new behind the end of the run
    induction n with
    | zero => exact List.Pairwise.nil
    | succ n ih =>
        cases he : edits[n]? with
        | none =>
            have hend : edits.length ≤ n := List.getElem?_eq_none_iff.1 he
            have hsame : edits.take (n + 1) = edits.take n := by
              rw [List.take_of_length_le hend,
                List.take_of_length_le (Nat.le_succ_of_le hend)]
            simp only [state]
            rw [hsame]
            exact ih
        | some e =>
            simp only [state]
            rw [applyAll_take_succ _ he]
            refine inOrder_apply ih ?_ ?_
            · rintro t rfl
              exact text t (List.mem_of_getElem? he)
            · rintro start stop rfl
              exact hrange n start stop he

/-- A run that selects a range before a filter. -/
def timelyRun : List Edit :=
  [.setBuckets [.named "metrics"], .selectBucket 0,
    .selectDateRange "-2h" none, .applyMeasurements 2 ["cpu"],
    .selectMeasurement 0]

/-- The range is selected while there is no filter yet. -/
theorem inOrder_timelyRun : (∀ text, .updateText text ∉ timelyRun)
    ∧ ∀ n, InOrder (applyAll {} (timelyRun.take n)).query.parts := by
  have htext : ∀ text, .updateText text ∉ timelyRun := by
    simp [timelyRun]
  refine ⟨htext, (inOrder_applyAll_iff htext).2.2 ?_⟩
  intro n start stop he hunranged
  have hn : n = 2 := by
    rcases n with _ | _ | _ | _ | _ | n <;> simp [timelyRun] at he ⊢
  subst hn
  exact absurd hunranged.1 (by decide)

/-- A run that takes the range out and selects another one. -/
def lateRun : List Edit :=
  [.setBuckets [.named "metrics"], .selectBucket 0,
    .applyMeasurements 1 ["cpu"], .selectMeasurement 0, .removePart 1,
    .selectDateRange "-2h" none]

/-- The filter stays when the range is taken out, and the new range comes
behind it. -/
theorem not_inOrder_lateRun :
    ¬ ∀ edits : List Edit, (∀ text, .updateText text ∉ edits) →
      InOrder (applyAll {} edits).query.parts := by
  intro h
  have horder := h lateRun (by simp [lateRun])
  revert horder
  decide

end Builder
end FluxComposer
