import FluxComposer.Builder.View
import FluxComposer.Proofs.Builder.Transition
import FluxComposer.Proofs.Query.Canonical
import FluxComposer.Proofs.Query.Stability
import Mathlib.Data.List.Induction
import Mathlib.Data.List.Infix
/-
Saving the shown text as it is. A query that is composed holds parts of
two origins: those that were read from a text, which may be any text, and
those that were selected, whose names and bounds are plain. Both are read
back from their lines as what a text keeps of them (`Part.IsReadable`),
the former because reading is stable under rendering, the latter because
nothing in them is taken for something else.

Every operation keeps it so (`isSavable_transition`): it puts parts in,
takes parts out or replaces one, and no part depends on another. So the
text of a query leads back to the query with every part replaced by what
a text keeps of it (`parse_text_of_isSavable`), and that shows the same
(`showsSame_of_saved`).

A savable query is not one whose text is its canonical text: odd names
that came from a text, such as one with a pipe in it, stay as they were
read. It only has to come back from its own text, and the run at the end
has such names on purpose.
-/
namespace FluxComposer

open Text Recognizer

-- ====================================================== readable parts

/-- A part that has a line and is read back from it as what a text keeps
of it. -/
def Part.IsReadable (p : Part) : Prop :=
  ∃ line, p.line? = some line ∧ '\n' ∉ line.toList
    ∧ recognize (trim line.toList) = .part p.canonical

/-- Plain parts with something to show are readable. -/
theorem isReadable_of_isPlain {p : Part} (plain : p.IsPlain)
    (shown : p.isShown = true) : p.IsReadable := by
  rw [← isSome_line?] at shown
  obtain ⟨line, hline⟩ := Option.isSome_iff_exists.1 shown
  exact ⟨line, hline, read_line plain hline⟩

/-- A text keeps all of what it is read as. -/
theorem canonical_of_recognize {line : List Char} {p : Part}
    (h : recognize line = .part p) : p.canonical = p := by
  -- a bucket is read without an id, and values are read as many or as one
  cases p with
  | bucket b =>
      obtain ⟨-, hcall⟩ := recognize_bucket_iff.1 h
      obtain ⟨_, _, _, -, hread⟩ := exists_read_of_call? hcall
      obtain ⟨_, ⟨_, _⟩, -⟩ := bucketCall?_eq_some_iff.1 hread
      rfl
  | dateRange r => rfl
  | filter f =>
      obtain ⟨-, -, -, hcall⟩ := recognize_filter_iff.1 h
      obtain ⟨_, _, _, -, hread⟩ := exists_read_of_call? hcall
      obtain ⟨_, ht, -⟩ := filterCall?_eq_some_iff.1 hread
      obtain ⟨v, vs, hvalues⟩ := values_of_filterText ht
      show Part.filter ⟨f.column, .ofValues f.operand.values⟩ = .filter f
      rw [hvalues.operand, values_ofValues, ← hvalues.operand]

/-- What was read from a line is readable, whatever names are in it: a text
that was written from it is read the same. -/
theorem isReadable_of_recognize {line : List Char} {p : Part}
    (hfeed : '\n' ∉ line) (h : recognize line = .part p) :
    p.IsReadable := by
  obtain ⟨line', hline, hfeed', hread⟩ := isStable_of_recognize hfeed h
  exact ⟨line', hline, hfeed', hread.trans
    (congrArg Reading.part (canonical_of_recognize h).symm)⟩

-- ===================================================== savable queries

namespace Query

/-- The query with all parts replaced by what a text keeps of them. -/
def saved (q : Query) : Query :=
  { q with parts := q.parts.map Part.canonical }

/-- A query that its text leads back to: a raw text is read as such, and
parts are readable. -/
structure IsSavable (q : Query) : Prop where
  raw : ∀ text ∈ q.rawText, q.parts = [] ∧ Query.parse text = .raw text
  parts : ∀ p ∈ q.parts, p.IsReadable

/-- A structured query can be saved part by part. -/
theorem isSavable_ofParts {parts : List Part}
    (h : ∀ p ∈ parts, p.IsReadable) : (ofParts parts).IsSavable :=
  ⟨nofun, h⟩

/-- A readable part can be added, for no part is read with another one. -/
theorem isSavable_append {q : Query} {p : Part} (h : q.IsSavable)
    (hp : p.IsReadable) : (q.append p).IsSavable := by
  refine isSavable_ofParts fun p' hp' => ?_
  rcases List.mem_append.1 hp' with hold | hnew
  · exact h.parts p' hold
  · obtain rfl := List.mem_singleton.1 hnew
    exact hp

/-- Parts can be left out. -/
theorem isSavable_keep {q : Query} (test : Part → Bool)
    (h : q.IsSavable) : (q.keep test).IsSavable :=
  isSavable_ofParts fun p hp => h.parts p (List.mem_filter.1 hp).1

/-- A query that has a part to replace is not raw. -/
theorem isSavable_replaceAt {q : Query} {index : Nat} {p : Part}
    (h : q.IsSavable) (found : index < q.parts.length)
    (hp : p.IsReadable) : (q.replaceAt index p).IsSavable := by
  refine ⟨fun text htext => ?_, fun p' hp' => ?_⟩
  · have hnil := (h.raw text htext).1
    rw [hnil] at found
    cases found
  · rcases List.mem_or_eq_of_mem_set hp' with hold | rfl
    · exact h.parts p' hold
    · exact hp

/-- A query that has a part to remove is not raw. -/
theorem isSavable_removeAt {q : Query} {index : Nat} (h : q.IsSavable)
    (found : index < q.parts.length) : (q.removeAt index).IsSavable := by
  have hraw : q.rawText = none := by
    refine Option.eq_none_iff_forall_not_mem.2 fun text htext => ?_
    have hnil := (h.raw text htext).1
    rw [hnil] at found
    cases found
  have hquery : q.removeAt index = ofParts (q.parts.eraseIdx index) := by
    unfold removeAt
    rw [if_pos found, hraw]
    simp [ofParts]
  rw [hquery]
  exact isSavable_ofParts fun p hp => h.parts p (List.mem_of_mem_eraseIdx hp)

/-- Whatever a text is read as can be saved. -/
theorem isSavable_parse (t : String) : (Query.parse t).IsSavable := by
  cases hforeign : (statements t.toList).any Query.isForeignStage with
  | true =>
      have hraw := parse_of_foreign hforeign
      rw [hraw]
      refine ⟨fun text htext => ?_, nofun⟩
      obtain rfl := Option.some.inj htext
      exact ⟨rfl, hraw⟩
  | false =>
      -- each part was read from a line of its own
      rw [parse_of_lines hforeign]
      refine isSavable_ofParts fun p hp => ?_
      obtain ⟨line, hfeed, hread⟩ := exists_line_of_mem_parts hp
      exact isReadable_of_recognize hfeed hread

/-- The text of a query leads back to what a text keeps of it. -/
theorem parse_text_of_isSavable {q : Query} (h : q.IsSavable) :
    Query.parse q.text = q.saved ∧ q.saved.text = q.text := by
  cases hraw : q.rawText with
  | some text =>
      obtain ⟨hnil, hparse⟩ := h.raw text hraw
      obtain rfl : q = .raw text := by
        cases q
        cases hraw
        cases hnil
        rfl
      exact ⟨hparse, rfl⟩
  | none =>
      -- every part has a line, so no part is left out of the text
      have hshown : ∀ p ∈ q.parts, p.line?.isSome = true := by
        intro p hp
        obtain ⟨line, hline, -⟩ := h.parts p hp
        rw [hline]
        rfl
      have hsaved : q.saved = q.canonical := by
        unfold saved canonical ofParts
        rw [List.filter_eq_self.2 fun p hp => isSome_line? p ▸ hshown p hp,
          hraw]
      rw [hsaved]
      refine ⟨?_, text_canonical hraw⟩
      have hread := parse_text hraw fun p hp line hline => by
        obtain ⟨line', hline', hreadable⟩ := h.parts p hp
        obtain rfl := Option.some.inj (hline.symm.trans hline')
        exact hreadable
      rw [hread]
      simp only [isSome_line?]
      rfl

end Query

namespace Builder

variable {b b' : Builder} {e : Edit} {o : Outcome}

-- =============================================================== runs

/-- All names that are listed can be written into a text. -/
@[mk_iff]
structure ListsPlain (b : Builder) : Prop where
  buckets : ∀ bucket ∈ b.buckets, bucket.IsPlain
  measurements : ∀ name ∈ b.measurements, Filter.IsPlainValue name
  fields : ∀ name ∈ b.fields, Filter.IsPlainValue name

instance : DecidablePred ListsPlain :=
  fun b => decidable_of_iff' _ (listsPlain_iff b)

/-- A filter of listed names is readable. -/
theorem isReadable_comparing (column : Column) {operand : Operand}
    (plain : ∀ name ∈ operand.values, Filter.IsPlainValue name)
    (nonempty : operand.values ≠ []) :
    (Part.comparing column operand).IsReadable := by
  refine isReadable_of_isPlain plain ?_
  show (!operand.values.isEmpty) = true
  rw [Bool.not_eq_true', List.isEmpty_eq_false_iff]
  exact nonempty

/-- The range that comes with a bucket is readable. -/
theorem isReadable_defaultRange :
    (Part.dateRange defaultRange).IsReadable := by
  have hplain : defaultRange.IsPlain := by decide
  exact isReadable_of_isPlain hplain rfl

/-- An operation that selects plain names and bounds leads from a query
that can be saved to one. -/
theorem isSavable_transition (h : Transition b e o b')
    (listed : b.ListsPlain)
    (range : ∀ start stop, e = .selectDateRange start stop →
      DateRange.IsPlain ⟨start, stop⟩)
    (savable : b.query.IsSavable) : b'.query.IsSavable := by
  -- each operation puts in what was listed or typed, and what is listed is
  -- plain
  cases h with
  | refused | setBuckets | applyMeasurements | applyFields => exact savable
  | @selectBucket position bucket found =>
      refine Query.isSavable_ofParts fun p hp => ?_
      rcases List.mem_cons.1 hp with rfl | hp
      · have hplain := listed.buckets bucket (List.mem_of_getElem? found)
        exact isReadable_of_isPlain hplain rfl
      · obtain rfl := List.mem_singleton.1 hp
        exact isReadable_defaultRange
  | @selectMeasurement position measurement bucket found =>
      refine Query.isSavable_append (Query.isSavable_keep _ savable)
        (isReadable_comparing .measurement (fun name hname => ?_)
          (List.cons_ne_nil _ _))
      obtain rfl := List.mem_singleton.1 hname
      exact listed.measurements _ (List.mem_of_getElem? found)
  | dropFields => exact Query.isSavable_keep _ savable
  | @selectFields positions names found nonempty =>
      refine Query.isSavable_append (Query.isSavable_keep _ savable)
        (isReadable_comparing .field (fun name hname => ?_) nonempty)
      have hmem : name ∈ names := hname
      rw [← found, List.mem_filterMap] at hmem
      obtain ⟨position, -, hname⟩ := hmem
      exact listed.fields name (List.mem_of_getElem? hname)
  | replaceRange start stop found =>
      have hlt := (List.findIdx?_eq_some_iff_getElem.1 found).1
      exact Query.isSavable_replaceAt savable hlt
        (isReadable_of_isPlain (range start stop rfl) rfl)
  | appendRange start stop =>
      exact Query.isSavable_append savable
        (isReadable_of_isPlain (range start stop rfl) rfl)
  | updateText text => exact Query.isSavable_parse text
  | removePart found =>
      rw [query_forgetFor]
      exact Query.isSavable_removeAt savable
        (List.getElem?_eq_some_iff.1 found).1
  | reset => exact Query.isSavable_ofParts nofun

/-- After operations that select plain names and bounds, and read any
texts, the query can be saved. -/
theorem isSavable_applyAll {edits : List Edit}
    (listed : ∀ early, early <+: edits → (applyAll {} early).ListsPlain)
    (ranges : ∀ start stop, .selectDateRange start stop ∈ edits →
      DateRange.IsPlain ⟨start, stop⟩) :
    (applyAll {} edits).query.IsSavable := by
  -- from the end of the run, so that all states before were plain, too
  induction edits using List.reverseRecOn with
  | nil => exact Query.isSavable_ofParts nofun
  | append_singleton edits e ih =>
      have hearlier := List.prefix_append edits [e]
      have hstep : applyAll {} (edits ++ [e])
          = ((applyAll {} edits).apply e).2 := List.foldl_append
      rw [hstep]
      refine isSavable_transition (transition_apply _ e)
        (listed edits hearlier) ?_ (ih ?_ ?_)
      · rintro start stop rfl
        exact ranges start stop (by simp)
      · exact fun early hearly => listed early (hearly.trans hearlier)
      · exact fun start stop h => ranges start stop (hearlier.subset h)

-- ======================================================= what is shown

/-- Two builders that show the same, but for the revision, the ids of
buckets and whether one value is a list of one value. -/
structure ShowsSame (b b' : Builder) : Prop where
  text : b'.text = b.text
  rawMode : b'.query.isRaw = b.query.isRaw
  bucket : b'.bucket?.map (·.name) = b.bucket?.map (·.name)
  measurement : b'.measurement? = b.measurement?
  selectedFields : b'.selectedFields = b.selectedFields
  dateRange : b'.dateRange? = b.dateRange?
  titles : b'.titles = b.titles
  buckets : b'.buckets = b.buckets
  measurements : b'.measurements = b.measurements
  fields : b'.fields = b.fields

/-- What is found in the parts that a text keeps is what a text keeps of
what is found. -/
theorem findSome?_saved {α : Type} {f : Part → Option α} {keep : α → α}
    (h : ∀ p, f p.canonical = (f p).map keep) (q : Query) :
    q.saved.parts.findSome? f = (q.parts.findSome? f).map keep := by
  show (q.parts.map Part.canonical).findSome? f = _
  induction q.parts with
  | nil => rfl
  | cons p parts ih =>
      rw [List.map_cons, List.findSome?_cons, List.findSome?_cons, h, ih]
      cases f p <;> rfl

/-- A text keeps the name of a bucket and not its id. -/
theorem bucket?_saved (q : Query) :
    q.saved.bucket? = q.bucket?.map fun bucket => .named bucket.name := by
  refine findSome?_saved (fun p => ?_) q
  cases p <;> rfl

/-- A text keeps ranges as they are. -/
theorem dateRange?_saved (q : Query) :
    q.saved.dateRange? = q.dateRange? := by
  refine (findSome?_saved (fun p => ?_) q).trans Option.map_id'
  cases p <;> rfl

/-- A text keeps the values of a filter, of which a single one is not told
from a list of one. -/
theorem filterOn?_saved (q : Query) (column : Column) :
    q.saved.filterOn? column = (q.filterOn? column).map
      fun f => ⟨f.column, .ofValues f.operand.values⟩ := by
  refine findSome?_saved (fun p => ?_) q
  rcases p with _ | _ | f
  · rfl
  · rfl
  · show (if f.column = column then _ else none)
      = Option.map _ (if f.column = column then some f else none)
    split <;> rfl

/-- The title of the buckets shows a name only. -/
theorem bucketsTitle_eq (b : Builder) : b.bucketsTitle
    = if b.buckets.isEmpty then "No buckets found"
      else (b.bucket?.map (·.name)).getD "Select a bucket" := by
  unfold bucketsTitle
  cases b.bucket? <;> rfl

/-- The titles say what is selected and whether something is listed. -/
theorem titles_congr (buckets : b'.buckets = b.buckets)
    (measurements : b'.measurements = b.measurements)
    (fields : b'.fields = b.fields)
    (bucket : b'.bucket?.map (·.name) = b.bucket?.map (·.name))
    (measurement : b'.measurement? = b.measurement?)
    (selectedFields : b'.selectedFields = b.selectedFields)
    (dateRange : b'.dateRange? = b.dateRange?) : b'.titles = b.titles := by
  have hnone : b'.bucket?.isNone = b.bucket?.isNone := by
    have hmap := congrArg Option.isNone bucket
    rwa [Option.isNone_map, Option.isNone_map] at hmap
  -- all that the titles look at is the same
  unfold titles
  rw [bucketsTitle_eq, bucketsTitle_eq]
  unfold measurementsTitle fieldsTitle dateRangeTitle
  rw [buckets, measurements, fields, bucket, hnone, measurement,
    selectedFields, dateRange]

/-- What a text keeps of a query shows the same as the query. -/
theorem showsSame_of_saved (query : b'.query = b.query.saved)
    (text : b'.text = b.text) (buckets : b'.buckets = b.buckets)
    (measurements : b'.measurements = b.measurements)
    (fields : b'.fields = b.fields) : ShowsSame b b' := by
  have hbucket : b'.bucket?.map (·.name) = b.bucket?.map (·.name) := by
    unfold bucket?
    rw [query, bucket?_saved, Option.map_map]
    rfl
  -- a single value and a list of one have the same first value
  have hmeasurement : b'.measurement? = b.measurement? := by
    unfold measurement?
    rw [query, filterOn?_saved]
    cases b.query.filterOn? .measurement with
    | none => rfl
    | some f =>
        show (Operand.ofValues f.operand.values).values.head? = _
        rw [values_ofValues]
        rfl
  have hfields : b'.selectedFields = b.selectedFields := by
    unfold selectedFields
    rw [query, filterOn?_saved]
    cases b.query.filterOn? .field with
    | none => rfl
    | some f => exact values_ofValues _
  have hrange : b'.dateRange? = b.dateRange? := by
    unfold dateRange?
    rw [query, dateRange?_saved]
  have hraw : b'.query.isRaw = b.query.isRaw := by
    rw [query]
    rfl
  exact ⟨text, hraw, hbucket, hmeasurement, hfields, hrange,
    titles_congr buckets measurements fields hbucket hmeasurement hfields
      hrange, buckets, measurements, fields⟩

/-- Saving the text of a builder as it is shown changes nothing that is
shown. The query is then what a text keeps of it, one revision later. -/
theorem showsSame_updateText_text {edits : List Edit}
    (listed : ∀ early, early <+: edits → (applyAll {} early).ListsPlain)
    (ranges : ∀ start stop, .selectDateRange start stop ∈ edits →
      DateRange.IsPlain ⟨start, stop⟩) :
    let b := applyAll {} edits
    let saved := b.updateText b.text
    ShowsSame b saved ∧ saved.revision = b.revision + 1
      ∧ saved.query
        = { b.query with parts := b.query.parts.map Part.canonical } := by
  intro b saved
  have hsavable : b.query.IsSavable := isSavable_applyAll listed ranges
  obtain ⟨hparse, htext⟩ := Query.parse_text_of_isSavable hsavable
  have hquery : saved.query = b.query.saved := hparse
  refine ⟨showsSame_of_saved hquery ?_ rfl rfl rfl, rfl, hquery⟩
  show saved.query.text = b.query.text
  rw [hquery, htext]

/-- A run that reads a text with odd names and goes on with selections. -/
def editedRun : List Edit :=
  [.setBuckets [⟨"7f", "metrics"⟩], .selectBucket 0,
    .applyMeasurements 1 ["cpu"], .selectMeasurement 0,
    .updateText ("from(bucket: \"from(bucket: \") // |> last()\n"
      ++ "|>filter(fn: (r) => r._measurement == \"range(start:)\")"),
    .applyFields 3 ["idle", "user"], .selectFields [1],
    .selectDateRange "-2h" (some "now(")]

/-- The text in the run has names that look like calls, and the bound that
is selected is half of one. -/
theorem showsSame_editedRun :
    let b := applyAll {} editedRun
    ShowsSame b (b.updateText b.text)
      ∧ (b.updateText b.text).revision = 6
      ∧ (b.updateText b.text).query.parts
        = [.bucket (.named "from(bucket: "),
          .filter ⟨.measurement, .single "range(start:)"⟩,
          .filter ⟨.field, .single "user"⟩,
          .dateRange ⟨"-2h", some "now("⟩] := by
  intro b
  have hlisted : ∀ early, early <+: editedRun →
      (applyAll {} early).ListsPlain := by
    have hinits : ∀ early ∈ editedRun.inits,
        (applyAll {} early).ListsPlain := by decide +kernel
    exact fun early hearly => hinits early ((List.mem_inits _ _).2 hearly)
  have hranges : ∀ start stop, .selectDateRange start stop ∈ editedRun →
      DateRange.IsPlain ⟨start, stop⟩ := by
    intro start stop h
    obtain ⟨rfl, rfl⟩ : start = "-2h" ∧ stop = some "now(" := by
      simpa [editedRun] using h
    decide
  obtain ⟨hshows, hrevision, hquery⟩ :=
    showsSame_updateText_text hlisted hranges
  refine ⟨hshows, hrevision.trans (by decide +kernel), ?_⟩
  rw [hquery]
  decide +kernel

end Builder
end FluxComposer
