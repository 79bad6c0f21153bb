import FluxComposer.Proofs.Query.Rendered
/-
Reading a rendered query back. A text does not keep everything of a
query: a bucket comes back with its name as its id, a list of one value
as that value, and a filter without values does not come back at all.
`Query.canonical` is what is left, and it has the same text.

What was written into a line must not be taken for something else.
`Part.IsPlain` says so of one part, in terms of what stands in it, and
the parts of a query are independent of each other. Every line of a
plain query is read as its part because no anchor of a call that comes
before stands anywhere in it.
-/
namespace FluxComposer

open Text Recognizer

-- ======================================================= plain parts

/-- A bucket whose name can be written between quotes on one line. -/
@[mk_iff]
structure Bucket.IsPlain (b : Bucket) : Prop where
  nonempty : b.name ≠ ""
  quote : '"' ∉ b.name.toList
  lineFeed : '\n' ∉ b.name.toList
  yields : mentions "yield" b.name = false

/-- A first bound that ends where the reader takes it to end. -/
@[mk_iff]
structure DateRange.IsPlainStart (start : String) : Prop where
  nonempty : start ≠ ""
  comma : ',' ∉ start.toList
  close : ')' ∉ start.toList
  blank : start.toList.any isBlank = false
  yields : mentions "yield" start = false
  bucket : mentions "from(bucket:" start = false

/-- A second bound that begins and ends where the reader takes it to. -/
@[mk_iff]
structure DateRange.IsPlainStop (stop : String) : Prop where
  nonempty : stop ≠ ""
  gap : stop.toList.head?.any isGap = false
  close : ')' ∉ stop.toList
  lineFeed : '\n' ∉ stop.toList
  yields : mentions "yield" stop = false
  bucket : mentions "from(bucket:" stop = false

/-- A range whose bounds are plain. -/
@[mk_iff]
structure DateRange.IsPlain (r : DateRange) : Prop where
  start : IsPlainStart r.start
  stop : ∀ stop ∈ r.stop, IsPlainStop stop

/-- A value that can be written between quotes behind the words of a
filter. -/
@[mk_iff]
structure Filter.IsPlainValue (value : String) : Prop where
  nonempty : value ≠ ""
  quote : '"' ∉ value.toList
  lineFeed : '\n' ∉ value.toList
  yields : mentions "yield" value = false
  bucket : mentions "from(bucket:" value = false
  range : mentions "range(start:" value = false

/-- A part whose line says nothing but the part. -/
def Part.IsPlain : Part → Prop
  | .bucket b => b.IsPlain
  | .dateRange r => r.IsPlain
  | .filter f => ∀ value ∈ f.operand.values, Filter.IsPlainValue value

instance : DecidablePred Bucket.IsPlain :=
  fun b => decidable_of_iff' _ (Bucket.isPlain_iff b)

instance : DecidablePred DateRange.IsPlainStart :=
  fun start => decidable_of_iff' _ (DateRange.isPlainStart_iff start)

instance : DecidablePred DateRange.IsPlainStop :=
  fun stop => decidable_of_iff' _ (DateRange.isPlainStop_iff stop)

instance : DecidablePred DateRange.IsPlain :=
  fun r => decidable_of_iff' _ (DateRange.isPlain_iff r)

instance : DecidablePred Filter.IsPlainValue :=
  fun value => decidable_of_iff' _ (Filter.isPlainValue_iff value)

instance : DecidablePred Part.IsPlain
  | .bucket b => inferInstanceAs (Decidable b.IsPlain)
  | .dateRange r => inferInstanceAs (Decidable r.IsPlain)
  | .filter f => inferInstanceAs (Decidable (∀ value ∈ f.operand.values,
      Filter.IsPlainValue value))

-- =================================================== canonical queries

/-- Whether a part has a line: a filter needs a value. -/
def Part.isShown : Part → Bool
  | .filter f => !f.operand.values.isEmpty
  | _ => true

/-- What a text keeps of a part. -/
def Part.canonical : Part → Part
  | .bucket b => .bucket (.named b.name)
  | .dateRange r => .dateRange r
  | .filter f => .filter ⟨f.column, .ofValues f.operand.values⟩

/-- What a text keeps of a structured query. -/
def Query.canonical (q : Query) : Query :=
  .ofParts ((q.parts.filter Part.isShown).map Part.canonical)

/-- A part has a line exactly if it is shown. -/
theorem isSome_line? (p : Part) : p.line?.isSome = p.isShown := by
  cases p with
  | bucket b => rfl
  | dateRange r => rfl
  | filter f =>
      show f.line?.isSome = !f.operand.values.isEmpty
      cases hvs : f.operand.values with
      | nil =>
          rw [filter_line?_eq_none hvs]
          rfl
      | cons v vs =>
          rw [filter_line?_eq_some hvs]
          rfl

/-- What a text keeps of a part has the line of the part. -/
theorem line?_canonical (p : Part) : p.canonical.line? = p.line? := by
  cases p with
  | bucket b => rfl
  | dateRange r => rfl
  | filter f =>
      show Filter.line? ⟨f.column, .ofValues f.operand.values⟩ = f.line?
      cases hvs : f.operand.values with
      | nil =>
          rw [filter_line?_eq_none hvs]
          exact filter_line?_eq_none (values_ofValues [])
      | cons v vs =>
          rw [filter_line?_eq_some hvs]
          exact filter_line?_eq_some (values_ofValues (v :: vs))

/-- What a text keeps of parts has the lines of the parts. -/
theorem lines_canonical (parts : List Part) :
    ((parts.filter Part.isShown).map Part.canonical).filterMap Part.line?
      = parts.filterMap Part.line? := by
  induction parts with
  | nil => rfl
  | cons p parts ih =>
      cases hline : p.line? with
      | none =>
          have hshown : p.isShown = false := by
            rw [← isSome_line?, hline]
            rfl
          rw [List.filter_cons_of_neg (by simp [hshown]),
            List.filterMap_cons_none hline, ih]
      | some line =>
          have hshown : p.isShown = true := by
            rw [← isSome_line?, hline]
            rfl
          have hcanonical := (line?_canonical p).trans hline
          rw [List.filter_cons_of_pos hshown, List.map_cons,
            List.filterMap_cons_some hcanonical,
            List.filterMap_cons_some hline, ih]

/-- The lines of a query are made of the lines of its parts. -/
theorem lines_congr {q r : Query}
    (h : q.parts.filterMap Part.line? = r.parts.filterMap Part.line?) :
    q.lines = r.lines := by
  unfold Query.lines
  rw [h]

/-- What a text keeps of a query has the text of the query. -/
theorem text_canonical {q : Query} (hraw : q.rawText = none) :
    q.canonical.text = q.text := by
  have hlines : q.canonical.lines = q.lines :=
    lines_congr (lines_canonical q.parts)
  unfold Query.text
  rw [hlines, hraw]
  rfl

-- ======================================================= plain lines

/-- A string that is not empty has a character. -/
theorem toList_ne_nil {s : String} (h : s ≠ "") : s.toList ≠ [] := by
  intro hnil
  exact h (String.toList_inj.1 hnil)

/-- The line of a plain bucket is read as the bucket. -/
theorem read_bucket_line {b : Bucket} (h : b.IsPlain) :
    '\n' ∉ b.line.toList
      ∧ recognize (trim b.line.toList) = .part (.bucket (.named b.name)) :=
  ⟨lineFeed_not_mem_bucket_line h.lineFeed,
    recognize_bucket_line ⟨toList_ne_nil h.nonempty, h.quote⟩ h.yields⟩

/-- No character is blank in a text without blank characters. -/
theorem isBlank_of_mem {s : List Char} {c : Char}
    (h : s.any isBlank = false) (hc : c ∈ s) : isBlank c = false := by
  rw [List.any_eq_false] at h
  exact Bool.eq_false_iff.2 (h c hc)

/-- A text without blank characters stands on one line. -/
theorem lineFeed_not_mem {s : List Char} (h : s.any isBlank = false) :
    '\n' ∉ s := by
  intro hm
  have hblank := isBlank_of_mem h hm
  revert hblank
  decide

/-- A plain first bound can be read as one. -/
theorem isStart_of_isPlainStart {start : String}
    (h : DateRange.IsPlainStart start) : IsStart start.toList := by
  refine ⟨toList_ne_nil h.nonempty, fun c hc => ?_⟩
  have hcomma : c ≠ ',' := fun e => h.comma (e ▸ hc)
  have hclose : c ≠ ')' := fun e => h.close (e ▸ hc)
  simp [isStartChar, hcomma, hclose, isBlank_of_mem h.blank hc]

/-- A plain second bound can be read as one. -/
theorem isStop_of_isPlainStop {stop : String}
    (h : DateRange.IsPlainStop stop) : IsStop stop.toList := by
  obtain ⟨c, tail, hstop⟩ :=
    List.exists_cons_of_ne_nil (toList_ne_nil h.nonempty)
  have hgap := h.gap
  rw [hstop] at hgap
  exact ⟨h.close, c, tail, hstop, hgap⟩

/-- The line of a plain range is read as the range. -/
theorem read_range_line {r : DateRange} (h : r.IsPlain) :
    '\n' ∉ r.line.toList
      ∧ recognize (trim r.line.toList) = .part (.dateRange r) := by
  -- no anchor stands in the call, because none stands in a bound
  have hyield : occursIn "yield".toList r.chars = false :=
    not_occursIn_range_chars isAnchor_yield (by decide) h.start.yields
      fun stop hr => (h.stop stop hr).yields
  have hbucket : occursIn "from(bucket:".toList r.chars = false :=
    not_occursIn_range_chars isAnchor_bucket (by decide) h.start.bucket
      fun stop hr => (h.stop stop hr).bucket
  constructor
  · exact lineFeed_not_mem_range_line (lineFeed_not_mem h.start.blank)
      fun stop hr => (h.stop stop hr).lineFeed
  · exact recognize_range_line (isStart_of_isPlainStart h.start)
      (fun stop hr => isStop_of_isPlainStop (h.stop stop hr)) hyield
      (call?_eq_none_of_not_occursIn bucketCall?_beginsWith hbucket)

/-- The line of a plain filter is read as the filter. -/
theorem read_filter_line {f : Filter} {line : String}
    (h : ∀ value ∈ f.operand.values, Filter.IsPlainValue value)
    (hline : f.line? = some line) :
    '\n' ∉ line.toList ∧ recognize (trim line.toList)
      = .part (.filter ⟨f.column, .ofValues f.operand.values⟩) := by
  refine ⟨lineFeed_not_mem_filter_line (fun v hv => (h v hv).lineFeed) hline,
    ?_⟩
  obtain ⟨v, vs, hvs, hchars⟩ := toList_filter_line hline
  -- a filter that has a line has a first value
  rw [hvs] at h ⊢
  have hyield := not_occursIn_filterChars isAnchor_yield f.column
    fun w hw => (h w hw).yields
  have hbucket := not_occursIn_filterChars isAnchor_bucket f.column
    fun w hw => (h w hw).bucket
  have hrange := not_occursIn_filterChars isAnchor_range f.column
    fun w hw => (h w hw).range
  rw [hchars, trim_filter_line]
  exact recognize_filter_line f.column
    (fun w hw => ⟨toList_ne_nil (h w hw).nonempty, (h w hw).quote⟩) hyield
    (call?_eq_none_of_not_occursIn bucketCall?_beginsWith hbucket)
    (call?_eq_none_of_not_occursIn rangeCall?_beginsWith hrange)

/-- The line of a plain part is read as what a text keeps of the
part. -/
theorem read_line {p : Part} {line : String} (h : p.IsPlain)
    (hline : p.line? = some line) : '\n' ∉ line.toList
      ∧ recognize (trim line.toList) = .part p.canonical := by
  cases p with
  | bucket b =>
      obtain rfl : b.line = line := Option.some.inj hline
      exact read_bucket_line h
  | dateRange r =>
      obtain rfl : r.line = line := Option.some.inj hline
      exact read_range_line h
  | filter f => exact read_filter_line h hline

-- ======================================================= round trips

/-- A plain query is read back as what a text keeps of it, and that has
the same text again. -/
theorem parse_text_eq_canonical {q : Query} (hraw : q.rawText = none)
    (hplain : ∀ p ∈ q.parts, p.IsPlain) :
    Query.parse q.text = q.canonical ∧ q.canonical.text = q.text := by
  refine ⟨?_, text_canonical hraw⟩
  have hread := parse_text hraw fun p hp _ hline =>
    read_line (hplain p hp) hline
  rw [hread]
  -- the parts that have a line are those that are shown
  simp only [isSome_line?]
  rfl

/-- A plain query with parts that do not come back as they were. -/
def mixedQuery : Query := .ofParts [.bucket ⟨"7f", "metrics"⟩,
  .dateRange ⟨"-1h", some "2024-01-01T00:00:00Z"⟩,
  .filter ⟨.measurement, .anyOf ["cpu"]⟩, .filter ⟨.field, .anyOf []⟩,
  .filter ⟨.field, .anyOf ["idle", "user)"]⟩]

/-- A closing parenthesis in a value does no harm. -/
theorem isPlain_mixedQuery : ∀ p ∈ mixedQuery.parts, p.IsPlain := by
  decide

/-- The id of the bucket, a list of one value and a filter without values
are not kept. -/
theorem parse_text_mixedQuery :
    Query.parse mixedQuery.text = .ofParts [.bucket (.named "metrics"),
        .dateRange ⟨"-1h", some "2024-01-01T00:00:00Z"⟩,
        .filter ⟨.measurement, .single "cpu"⟩,
        .filter ⟨.field, .anyOf ["idle", "user)"]⟩] :=
  (parse_text_eq_canonical rfl isPlain_mixedQuery).1

end FluxComposer
