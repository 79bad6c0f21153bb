import FluxComposer.CommandLine.Job
import FluxComposer.Proofs.Builder.Selection
import FluxComposer.Proofs.Query.Canonical
/-
The order in which a query is picked together. A range has its place among
the parts, and what selects measurements or fields keeps all ranges, so the
two do not get into each other's way: with a range to replace, it does not
matter which comes first (`pick_selectDateRange`, from the three equations
of `withRange` with what the others do to the parts).

So a range that is picked anywhere behind the bucket is as good as one that
is picked at the end (`pickAll_dateRange`), and the end of such a run is
known part by part. It has the text of the query that is made of the same
choices all at once.
-/
namespace FluxComposer

namespace Query

variable {q : Query}

-- ================================================== ranges among parts

/-- What keeps all ranges can come before or after a new range. -/
theorem withRange_keep {keeps : Part → Bool}
    (h : ∀ r, keeps (.dateRange r) = true) (ranged : q.dateRange?.isSome)
    (range : DateRange) :
    (q.keep keeps).withRange range = (q.withRange range).keep keeps := by
  obtain ⟨before, first, behind, hparts, hbefore⟩ :=
    exists_split_of_dateRange ranged
  have hkept : (q.keep keeps).parts = before.filter keeps
      ++ .dateRange first :: behind.filter keeps := by
    show q.parts.filter keeps = _
    rw [hparts, List.filter_append, List.filter_cons_of_pos (h first)]
  have hkeptBefore : ∀ p ∈ before.filter keeps, p.isDateRange = false :=
    fun p hp => hbefore p (List.mem_filter.1 hp).1
  -- both sides put the new range where the first one stands
  rw [withRange_of_split hkept hkeptBefore,
    withRange_of_split hparts hbefore]
  unfold keep
  rw [List.filter_append, List.filter_cons_of_pos (h range)]
  rfl

/-- A part behind all others can come before or after a new range. -/
theorem withRange_append (ranged : q.dateRange?.isSome) (part : Part)
    (range : DateRange) :
    (q.append part).withRange range = (q.withRange range).append part := by
  obtain ⟨before, first, behind, hparts, hbefore⟩ :=
    exists_split_of_dateRange ranged
  have happended : (q.append part).parts
      = before ++ .dateRange first :: (behind ++ [part]) := by
    show q.parts ++ [part] = _
    rw [hparts, List.append_assoc, List.cons_append]
  rw [withRange_of_split happended hbefore,
    withRange_of_split hparts hbefore]
  unfold append ofParts
  rw [List.append_assoc, List.cons_append]

end Query

namespace Builder

variable {b : Builder}

/-- One step of picking a query together. A listing is taken over at the
revision that the builder has. -/
inductive Pick where
  | bucket (position : Nat)
  | listMeasurements (names : List String)
  | measurement (position : Nat)
  | listFields (names : List String)
  | fields (positions : List Nat)
  | dateRange (start : String) (stop : Option String)
  deriving DecidableEq, Repr

/-- The operation of a step. -/
def Pick.edit (b : Builder) : Pick → Edit
  | .bucket position => .selectBucket position
  | .listMeasurements names => .applyMeasurements b.revision names
  | .measurement position => .selectMeasurement position
  | .listFields names => .applyFields b.revision names
  | .fields positions => .selectFields positions
  | .dateRange start stop => .selectDateRange start stop

/-- Whether a step has nothing to do with ranges. -/
def Pick.isRangeless : Pick → Bool
  | .bucket _ | .dateRange .. => false
  | _ => true

/-- The builder after a step. -/
def pick (b : Builder) (p : Pick) : Builder := (b.apply (p.edit b)).2

/-- The builder after a list of steps. -/
def pickAll (b : Builder) (picks : List Pick) : Builder :=
  picks.foldl pick b

-- ========================================================= commutation

/-- Selecting a measurement can come before or after a new range: the
filters that go are no ranges, and the one that comes goes behind. -/
theorem withRange_withMeasurement {q : Query}
    (ranged : q.dateRange?.isSome) (measurement : String)
    (range : DateRange) : (withMeasurement q measurement).withRange range
      = withMeasurement (q.withRange range) measurement := by
  unfold withMeasurement
  rw [Query.withRange_append, Query.withRange_keep (fun _ => rfl) ranged]
  rwa [dateRange?_keep fun _ => rfl]

/-- Taking the field filters out can come before or after a new range. -/
theorem withRange_withoutFieldFilters {q : Query}
    (ranged : q.dateRange?.isSome) (range : DateRange) :
    (withoutFieldFilters q).withRange range
      = withoutFieldFilters (q.withRange range) :=
  Query.withRange_keep (fun _ => rfl) ranged range

/-- Selecting fields can come before or after a new range. -/
theorem withRange_withFields {q : Query} (ranged : q.dateRange?.isSome)
    (names : List String) (range : DateRange) :
    (withFields q names).withRange range
      = withFields (q.withRange range) names := by
  unfold withFields
  rw [Query.withRange_append, withRange_withoutFieldFilters ranged]
  unfold withoutFieldFilters
  rwa [dateRange?_keep fun _ => rfl]

/-- A range is a change of the query alone. -/
theorem listing_selectDateRange (b : Builder) (start : String)
    (stop : Option String) (column : Column) :
    (b.selectDateRange start stop).listing column = b.listing column := by
  rw [selectDateRange_eq, listing_withQuery]

/-- The bucket does not see a range selected. -/
theorem bucket?_selectDateRange (b : Builder) (start : String)
    (stop : Option String) :
    (b.selectDateRange start stop).bucket? = b.bucket? :=
  congrArg Selection.bucket (selection_selectDateRange b start stop)

/-- A measurement is selected with the same answer and to the same effect
before a range and after it. -/
theorem apply_selectMeasurement_selectDateRange
    (ranged : b.dateRange?.isSome) (start : String) (stop : Option String)
    (position : Nat) :
    (b.selectDateRange start stop).apply (.selectMeasurement position)
      = ((b.apply (.selectMeasurement position)).1,
        (b.apply (.selectMeasurement position)).2.selectDateRange
          start stop) := by
  have hlisting := listing_selectDateRange b start stop .measurement
  have hlisted : (b.selectDateRange start stop).measurements[position]?
      = b.measurements[position]? := congrArg (·[position]?) hlisting
  have hbucket := bucket?_selectDateRange b start stop
  rw [apply, apply]
  -- it is refused for the same reasons on both sides
  cases hname : b.measurements[position]? with
  | none =>
      rw [selectMeasurement_eq_none (.inl hname),
        selectMeasurement_eq_none (.inl (hlisted.trans hname))]
      rfl
  | some measurement =>
      cases hselected : b.bucket? with
      | none =>
          rw [selectMeasurement_eq_none (.inr hselected),
            selectMeasurement_eq_none (.inr (hbucket.trans hselected))]
          rfl
      | some bucket =>
          rw [selectMeasurement_eq_some hname hselected,
            selectMeasurement_eq_some (hlisted.trans hname)
              (hbucket.trans hselected)]
          simp only [orRefused, selectDateRange_eq, query_forgetFields,
            query_withQuery, withRange_withMeasurement ranged]
          rfl

/-- Fields are selected with the same answer and to the same effect before
a range and after it. -/
theorem apply_selectFields_selectDateRange
    (ranged : b.dateRange?.isSome) (start : String) (stop : Option String)
    (positions : List Nat) :
    (b.selectDateRange start stop).apply (.selectFields positions)
      = ((b.apply (.selectFields positions)).1,
        (b.apply (.selectFields positions)).2.selectDateRange
          start stop) := by
  have hlisting : (b.selectDateRange start stop).fields = b.fields :=
    listing_selectDateRange b start stop .field
  rw [apply, apply]
  -- no positions clear the fields, and positions without fields are refused
  by_cases hnil : positions = []
  · subst hnil
    simp only [selectFields, doneOrRefused, selectDateRange_eq,
      query_withQuery, withRange_withoutFieldFilters ranged]
    rfl
  · by_cases hnames : positions.filterMap (b.fields[·]?) = []
    · rw [selectFields_eq_none hnil hnames,
        selectFields_eq_none hnil (by rwa [hlisting])]
      rfl
    · rw [selectFields_eq_some rfl hnames,
        selectFields_eq_some rfl (by rwa [hlisting]), hlisting]
      simp only [doneOrRefused, selectDateRange_eq, query_withQuery,
        withRange_withFields ranged]
      rfl

-- =============================================================== steps

/-- A listing that is taken over at the revision of the builder is not
refused. -/
theorem pick_listMeasurements (b : Builder) (names : List String) :
    b.pick (.listMeasurements names) = { b with measurements := names } := by
  simp [pick, Pick.edit, apply, applyMeasurements, doneOrRefused]

/-- The same for fields. -/
theorem pick_listFields (b : Builder) (names : List String) :
    b.pick (.listFields names) = { b with fields := names } := by
  simp [pick, Pick.edit, apply, applyFields, doneOrRefused]

/-- A bucket that is listed is selected with a range of its own. -/
theorem pick_bucket {position : Nat} {bucket : Bucket}
    (listed : b.buckets[position]? = some bucket) :
    b.pick (.bucket position) = (b.withQuery (.ofParts
      [.bucket bucket, .dateRange defaultRange])).forgetListings := by
  simp [pick, Pick.edit, apply, selectBucket, listed, orRefused]

/-- A measurement that is listed is selected for the bucket. -/
theorem pick_measurement {position : Nat} {measurement : String}
    {bucket : Bucket}
    (listed : b.measurements[position]? = some measurement)
    (selected : b.bucket? = some bucket) : b.pick (.measurement position)
      = (b.withQuery (withMeasurement b.query measurement)).forgetFields := by
  show (b.orRefused .lookup (b.selectMeasurement position)).2 = _
  rw [selectMeasurement_eq_some listed selected]
  rfl

/-- Fields are selected if a position has one. -/
theorem pick_fields {positions : List Nat} {names : List String}
    (listed : positions.filterMap (b.fields[·]?) = names)
    (nonempty : names ≠ []) : b.pick (.fields positions)
      = b.withQuery (withFields b.query names) := by
  show (b.doneOrRefused (b.selectFields positions)).2 = _
  rw [selectFields_eq_some listed nonempty]
  rfl

/-- A step that has nothing to do with ranges leaves the range. -/
theorem dateRange?_transition {p : Pick} {o : Outcome} {b' : Builder}
    (rangeless : p.isRangeless = true)
    (h : Transition b (p.edit b) o b') : b'.dateRange? = b.dateRange? := by
  cases p with
  | bucket | dateRange => cases rangeless
  | listMeasurements | listFields => cases h <;> rfl
  | measurement =>
      cases h with
      | refused => rfl
      | selectMeasurement => exact dateRange?_withMeasurement b.query _
  | fields =>
      cases h with
      | refused => rfl
      | dropFields => exact dateRange?_keep (fun _ => rfl) b.query
      | selectFields =>
          exact (findSome?_append_none rfl _).trans
            (dateRange?_keep (fun _ => rfl) b.query)

/-- The same for the step that is taken. -/
theorem dateRange?_pick {p : Pick} (rangeless : p.isRangeless = true) :
    (b.pick p).dateRange? = b.dateRange? :=
  dateRange?_transition rangeless (transition_apply b (p.edit b))

/-- It leads to the same builder before a range and after it. -/
theorem pick_selectDateRange (ranged : b.dateRange?.isSome)
    (start : String) (stop : Option String) {p : Pick}
    (rangeless : p.isRangeless = true) :
    (b.selectDateRange start stop).pick p
      = (b.pick p).selectDateRange start stop := by
  cases p with
  | bucket | dateRange => cases rangeless
  | measurement position =>
      exact congrArg Prod.snd (apply_selectMeasurement_selectDateRange
        ranged start stop position)
  | fields positions =>
      exact congrArg Prod.snd (apply_selectFields_selectDateRange
        ranged start stop positions)
  | listMeasurements names =>
      rw [pick_listMeasurements, pick_listMeasurements,
        selectDateRange_eq, selectDateRange_eq]
      rfl
  | listFields names =>
      rw [pick_listFields, pick_listFields, selectDateRange_eq,
        selectDateRange_eq]
      rfl

-- ================================================================ runs

/-- Steps that have nothing to do with ranges leave the range. -/
theorem dateRange?_pickAll {picks : List Pick}
    (rangeless : ∀ p ∈ picks, p.isRangeless = true) :
    (b.pickAll picks).dateRange? = b.dateRange? := by
  induction picks generalizing b with
  | nil => rfl
  | cons p picks ih =>
      have hfirst := rangeless p List.mem_cons_self
      have hothers := fun p hp => rangeless p (List.mem_cons_of_mem _ hp)
      exact (ih hothers).trans (dateRange?_pick hfirst)

/-- They lead to the same builder before a range and after it. -/
theorem pickAll_selectDateRange (ranged : b.dateRange?.isSome)
    (start : String) (stop : Option String) {picks : List Pick}
    (rangeless : ∀ p ∈ picks, p.isRangeless = true) :
    (b.selectDateRange start stop).pickAll picks
      = (b.pickAll picks).selectDateRange start stop := by
  -- the range moves behind one step after the other
  induction picks generalizing b with
  | nil => rfl
  | cons p picks ih =>
      have hfirst := rangeless p List.mem_cons_self
      have hothers := fun p hp => rangeless p (List.mem_cons_of_mem _ hp)
      have hranged : (b.pick p).dateRange?.isSome := by
        rwa [dateRange?_pick hfirst]
      calc (b.selectDateRange start stop).pickAll (p :: picks)
          = ((b.selectDateRange start stop).pick p).pickAll picks := rfl
        _ = ((b.pick p).selectDateRange start stop).pickAll picks := by
            rw [pick_selectDateRange ranged start stop hfirst]
        _ = (b.pickAll (p :: picks)).selectDateRange start stop :=
            ih hranged hothers

/-- So a range among them is as good as one behind them. -/
theorem pickAll_dateRange (ranged : b.dateRange?.isSome)
    (start : String) (stop : Option String) {before behind : List Pick}
    (rangeless : ∀ p ∈ before ++ behind, p.isRangeless = true) :
    b.pickAll (before ++ .dateRange start stop :: behind)
      = (b.pickAll (before ++ behind)).selectDateRange start stop := by
  have hbefore := fun p hp => rangeless p (List.mem_append_left _ hp)
  have hbehind := fun p hp => rangeless p (List.mem_append_right _ hp)
  have hranged : (b.pickAll before).dateRange?.isSome := by
    rwa [dateRange?_pickAll hbefore]
  -- the steps before the range are taken first, and then it moves behind
  -- the others
  unfold pickAll at hranged ⊢
  rw [List.foldl_append, List.foldl_append]
  exact pickAll_selectDateRange hranged start stop hbehind

-- ============================================================= choices

/-- The parts of a query that was picked are read back from a text as those
of the query that is made of the choices. -/
theorem canonical_of_choices (bucket : Bucket) (range : DateRange)
    (measurement : String) {names : List String} (nonempty : names ≠ []) :
    (Query.ofParts [.bucket bucket, .dateRange range,
        .comparing .measurement (.single measurement),
        .comparing .field (.anyOf names)]).canonical
      = Choices.query { bucket := bucket.name, start := range.start
                        stop := range.stop, measurement := measurement
                        fields := names } := by
  cases names with
  | nil => exact absurd rfl nonempty
  | cons name names => rfl

/-- Where every position has a name, these are the names that are found. -/
theorem filterMap_of_map {α β : Type} {f : α → Option β} {xs : List α}
    {ys : List β} (h : xs.map f = ys.map some) : xs.filterMap f = ys := by
  calc xs.filterMap f
      = (xs.map f).filterMap id := by rw [List.filterMap_map]; rfl
    _ = (ys.map some).filterMap id := by rw [h]
    _ = ys := by rw [List.filterMap_map]; exact List.filterMap_some

section

variable {buckets : List Bucket} {measurements fields names : List String}
  {i j : Nat} {positions : List Nat} {bucket : Bucket}
  {measurement : String}

/-- What is picked without a range, part by part. -/
theorem query_pickAll (hbucket : buckets[i]? = some bucket)
    (hmeasurement : measurements[j]? = some measurement)
    (hnames : positions.filterMap (fields[·]?) = names)
    (nonempty : names ≠ []) :
    ((b.setBuckets buckets).pickAll [.bucket i,
        .listMeasurements measurements, .measurement j, .listFields fields,
        .fields positions]).query
      = .ofParts [.bucket bucket, .dateRange defaultRange,
        .comparing .measurement (.single measurement),
        .comparing .field (.anyOf names)] := by
  simp only [pickAll, List.foldl_cons, List.foldl_nil]
  rw [pick_bucket hbucket, pick_listMeasurements,
    pick_measurement hmeasurement rfl, pick_listFields,
    pick_fields hnames nonempty]
  rfl

/-- What is picked with a range at any point behind the bucket. It takes
the place of the range that the bucket came with. -/
theorem query_pickAll_dateRange {before behind : List Pick}
    (hbucket : buckets[i]? = some bucket)
    (hmeasurement : measurements[j]? = some measurement)
    (hnames : positions.filterMap (fields[·]?) = names)
    (nonempty : names ≠ [])
    (hpicks : before ++ behind = [.listMeasurements measurements,
      .measurement j, .listFields fields, .fields positions])
    (start : String) (stop : Option String) :
    ((b.setBuckets buckets).pickAll (.bucket i
        :: (before ++ .dateRange start stop :: behind))).query
      = .ofParts [.bucket bucket, .dateRange ⟨start, stop⟩,
        .comparing .measurement (.single measurement),
        .comparing .field (.anyOf names)] := by
  have hranged :
      ((b.setBuckets buckets).pick (.bucket i)).dateRange?.isSome := by
    rw [pick_bucket hbucket]
    rfl
  -- first move the range to the end, where the rest of the query is known
  have hlate : (b.setBuckets buckets).pickAll (.bucket i
        :: (before ++ .dateRange start stop :: behind))
      = ((b.setBuckets buckets).pickAll (.bucket i
        :: (before ++ behind))).selectDateRange start stop := by
    refine pickAll_dateRange hranged start stop ?_
    rw [hpicks]
    simp [Pick.isRangeless]
  rw [hlate, hpicks, selectDateRange_eq, query_withQuery,
    query_pickAll hbucket hmeasurement hnames nonempty]
  rfl

end

/-- A range that can be replaced can be selected before or after a
measurement, and before or after fields, with the same answers and to the
same builder. So a query that is picked together with a range at any point
behind the bucket has the text that is shown for the same choices. -/
theorem selections_commute_and_agree :
    (∀ (b : Builder) (start : String) (stop : Option String),
        b.dateRange?.isSome →
        ∀ e, (∃ position, e = .selectMeasurement position)
            ∨ (∃ positions, e = .selectFields positions) →
          (b.selectDateRange start stop).apply e
            = ((b.apply e).1, (b.apply e).2.selectDateRange start stop))
      ∧ ∀ (b : Builder) (buckets : List Bucket)
          (measurements fields : List String) (i j : Nat)
          (positions : List Nat) (bucket : Bucket) (measurement : String)
          (names : List String) (start : String) (stop : Option String)
          (before behind : List Pick),
        buckets[i]? = some bucket →
        measurements[j]? = some measurement →
        positions ≠ [] → positions.map (fields[·]?) = names.map some →
        before ++ behind = [.listMeasurements measurements,
          .measurement j, .listFields fields, .fields positions] →
        let picked := (b.setBuckets buckets).pickAll
          (.bucket i :: (before ++ .dateRange start stop :: behind))
        let choices : Choices := { bucket := bucket.name, start, stop,
                                   measurement, fields := names }
        picked.text = choices.query.text
          ∧ ∀ invocation : CommandLine.Invocation,
            invocation.command = .build choices →
            invocation.format ≠ "json" →
              invocation.job = .done (.line picked.text) := by
  constructor
  · rintro b start stop ranged e (⟨position, rfl⟩ | ⟨positions, rfl⟩)
    · exact apply_selectMeasurement_selectDateRange ranged start stop
        position
    · exact apply_selectFields_selectDateRange ranged start stop positions
  · intro b buckets measurements fields i j positions bucket measurement
      names start stop before behind hbucket hmeasurement hpositions hnames
      hpicks picked choices
    have hfound : positions.filterMap (fields[·]?) = names :=
      filterMap_of_map hnames
    have hnonempty : names ≠ [] := by
      rintro rfl
      exact hpositions (List.map_eq_nil_iff.1 hnames)
    -- the query part by part, and then its text
    have hquery : picked.query = .ofParts [.bucket bucket,
        .dateRange ⟨start, stop⟩,
        .comparing .measurement (.single measurement),
        .comparing .field (.anyOf names)] :=
      query_pickAll_dateRange hbucket hmeasurement hfound hnonempty hpicks
        start stop
    have htext : picked.text = choices.query.text := by
      show picked.query.text = _
      rw [hquery, ← text_canonical rfl,
        canonical_of_choices bucket ⟨start, stop⟩ measurement hnonempty]
    refine ⟨htext, fun invocation hcommand hformat => ?_⟩
    unfold CommandLine.Invocation.job
    rw [hcommand, htext]
    simp [CommandLine.built, choices, hformat]

/-- A range that is picked between a measurement and the listing of its
fields, and one that is replaced before a measurement of another query. -/
theorem selections_agree_late :
    (∀ start stop, (repeated.selectDateRange start stop).apply
        (.selectMeasurement 1)
      = ((repeated.apply (.selectMeasurement 1)).1,
        (repeated.apply (.selectMeasurement 1)).2.selectDateRange
          start stop))
      ∧ CommandLine.Invocation.job { command := (.build
          { bucket := "air", start := "-2h", stop := some "now()",
            measurement := "disk", fields := ["used", "free"] }) }
        = .done (.line (Builder.text ((repeated.setBuckets
          [⟨"7f", "air"⟩]).pickAll [.bucket 0,
            .listMeasurements ["cpu", "disk"], .measurement 1,
            .dateRange "-2h" "now()", .listFields ["free", "used"],
            .fields [1, 0]]))) := by
  obtain ⟨hcommute, hagree⟩ := selections_commute_and_agree
  refine ⟨fun start stop => hcommute repeated start stop (by decide) _
    (.inl ⟨1, rfl⟩), ?_⟩
  exact (hagree repeated [⟨"7f", "air"⟩] ["cpu", "disk"] ["free", "used"]
    0 1 [1, 0] ⟨"7f", "air"⟩ "disk" ["used", "free"] "-2h" (some "now()")
    [.listMeasurements ["cpu", "disk"], .measurement 1]
    [.listFields ["free", "used"], .fields [1, 0]] rfl rfl (by decide) rfl
    rfl).2 _ rfl (by decide)

end Builder
end FluxComposer
