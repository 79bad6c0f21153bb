import FluxComposer.Proofs.Query.Canonical
import FluxComposer.Builder.Basic
/-
Selecting a range and going through the text of the query. A bound is
written into the text as it is, and read back up to the first closing
parenthesis, whether that closes the range or a call inside the bound.
So a bound that calls a function does not come back: `DateRange.cut` is
what comes back of a range, and only a range without any closing
parenthesis comes back whole.

Parentheses of a bound are balanced, so the first one that closes is not
the first character, and what is left of a bound is not empty.

The theorem on builders says both what comes back
(`updateText_selectDateRange_iff`, always the cut range) and when that is
the range that was selected. A call such as `now()` as a bound is the
smallest that does not come back (`updateText_selectDateRange_now`).
-/
namespace FluxComposer

open Text Recognizer

-- ============================================================ literals

/-- Whether the parentheses of a text are balanced, given how many are
open before it. -/
def isBalanced (opened : Nat) : List Char → Bool
  | [] => opened = 0
  | '(' :: s => isBalanced (opened + 1) s
  | ')' :: s =>
    match opened with
    | 0 => false
    | opened + 1 => isBalanced opened s
  | _ :: s => isBalanced opened s

/-- A bound of a range: a literal or a call, on one line, without what
would end it or be taken for another call. -/
@[mk_iff]
structure IsLiteral (bound : String) : Prop where
  nonempty : bound ≠ ""
  blank : bound.toList.any isBlank = false
  comma : ',' ∉ bound.toList
  quote : '"' ∉ bound.toList
  balanced : isBalanced 0 bound.toList = true
  yields : mentions "yield" bound = false
  source : mentions "from(" bound = false
  range : mentions "range(" bound = false

instance : DecidablePred IsLiteral :=
  fun bound => decidable_of_iff' _ (isLiteral_iff bound)

/-- A bound up to the first parenthesis that closes. -/
def upToClose (bound : String) : String :=
  String.ofList (bound.toList.takeWhile (· != ')'))

/-- What is read back of a range. -/
def DateRange.cut (r : DateRange) : DateRange :=
  if ')' ∈ r.start.toList then ⟨upToClose r.start, none⟩
  else ⟨r.start, r.stop.map upToClose⟩

variable {bound : String}

/-- The characters that are left are those in front of the parenthesis. -/
theorem toList_upToClose (bound : String) :
    (upToClose bound).toList = bound.toList.takeWhile (· != ')') := by
  unfold upToClose
  rw [String.toList_ofList]

/-- No parenthesis that closes is left. -/
theorem close_not_mem_upToClose (bound : String) :
    ')' ∉ (upToClose bound).toList := by
  rw [toList_upToClose]
  intro hm
  have hc := List.all_eq_true.1 List.all_takeWhile _ hm
  revert hc
  decide

/-- What stands in the front of a bound stands in the bound. -/
theorem subset_upToClose (bound : String) :
    (upToClose bound).toList ⊆ bound.toList := by
  rw [toList_upToClose]
  exact (List.takeWhile_prefix _).subset

/-- A bound comes back whole if nothing in it closes. -/
theorem upToClose_eq_self_iff : upToClose bound = bound ↔
    ')' ∉ bound.toList := by
  constructor
  · intro h
    rw [← h]
    exact close_not_mem_upToClose bound
  · intro h
    have hwhole := takeWhile_append_of_stopsAt (s := [])
      (forall_ne_of_not_mem h) (fun _ hc => nomatch hc)
    rw [List.append_nil] at hwhole
    rw [← String.toList_inj, toList_upToClose]
    exact hwhole

/-- Where a bound has a closing parenthesis, it is cut there. -/
theorem exists_of_close_mem (h : ')' ∈ bound.toList) :
    ∃ rest, bound.toList = (upToClose bound).toList ++ ')' :: rest := by
  obtain ⟨front, rest, hbound, hfront⟩ := List.eq_append_cons_of_mem h
  refine ⟨rest, ?_⟩
  rw [toList_upToClose, hbound, takeWhile_append_of_stopsAt
    (forall_ne_of_not_mem hfront) stopsAt_cons]

/-- Where the call ends behind a bound, it is cut there at the latest. -/
theorem exists_close (bound : String) : ∃ rest,
    bound.toList ++ [')'] = (upToClose bound).toList ++ ')' :: rest := by
  by_cases h : ')' ∈ bound.toList
  · obtain ⟨rest, hrest⟩ := exists_of_close_mem h
    exact ⟨rest ++ [')'], by rw [hrest]; simp⟩
  · exact ⟨[], by rw [upToClose_eq_self_iff.2 h]⟩

/-- A bound does not begin with a closing parenthesis, so something is
left of it. -/
theorem upToClose_ne_nil (h : IsLiteral bound) :
    (upToClose bound).toList ≠ [] := by
  have hbalanced := h.balanced
  obtain ⟨c, s, hbound⟩ :=
    List.exists_cons_of_ne_nil (toList_ne_nil h.nonempty)
  rw [hbound] at hbalanced
  -- balanced parentheses do not begin with one that closes
  have hc : c ≠ ')' := by
    rintro rfl
    cases hbalanced
  rw [toList_upToClose, hbound, List.takeWhile_cons_of_pos (by simp [hc])]
  exact List.cons_ne_nil _ _

/-- A bound without sources has no bucket call. -/
theorem bucket_not_mentioned (h : IsLiteral bound) :
    occursIn "from(bucket:".toList bound.toList = false := by
  have hsource : occursIn "from(".toList bound.toList = false := h.source
  rw [Bool.eq_false_iff] at hsource ⊢
  intro hm
  refine hsource (occursIn_iff.2 (List.IsInfix.trans ?_ (occursIn_iff.1 hm)))
  exact ⟨[], "bucket:".toList, by decide⟩

/-- What is left of a first bound is read as one: it has no comma, no blank
and nothing that closes. -/
theorem isStart_upToClose (h : IsLiteral bound) :
    IsStart (upToClose bound).toList := by
  refine ⟨upToClose_ne_nil h, fun c hc => ?_⟩
  have hm := subset_upToClose bound hc
  have hcomma : c ≠ ',' := fun e => h.comma (e ▸ hm)
  have hclose : c ≠ ')' := fun e => close_not_mem_upToClose bound (e ▸ hc)
  simp [isStartChar, hcomma, hclose, isBlank_of_mem h.blank hm]

/-- What is left of a second bound is read up to where it was cut. -/
theorem isStop_upToClose (h : IsLiteral bound) :
    IsStop (upToClose bound).toList := by
  obtain ⟨c, tail, hcons⟩ := List.exists_cons_of_ne_nil (upToClose_ne_nil h)
  refine ⟨close_not_mem_upToClose bound, c, tail, hcons, ?_⟩
  have hm : c ∈ bound.toList := subset_upToClose bound (by simp [hcons])
  have hblank := isBlank_of_mem h.blank hm
  rw [Bool.eq_false_iff] at hblank ⊢
  exact fun hgap => hblank (isBlank_of_isGap hgap)

-- ============================================================== ranges

/-- A range whose bounds are literals. -/
@[mk_iff]
structure AreLiterals (r : DateRange) : Prop where
  start : IsLiteral r.start
  stop : ∀ stop ∈ r.stop, IsLiteral stop

instance : DecidablePred AreLiterals :=
  fun r => decidable_of_iff' _ (areLiterals_iff r)

/-- A range comes back whole if nothing in its bounds closes. If the first
bound is cut, the second one is lost with what follows. -/
theorem cut_eq_self_iff {r : DateRange} : r.cut = r ↔
    ')' ∉ r.start.toList ∧ ∀ stop ∈ r.stop, ')' ∉ stop.toList := by
  obtain ⟨start, stop⟩ := r
  unfold DateRange.cut
  by_cases hstart : ')' ∈ start.toList
  · simp only [if_pos hstart]
    constructor
    · intro h
      have heq : upToClose start = start := congrArg DateRange.start h
      exact absurd hstart (upToClose_eq_self_iff.1 heq)
    · intro h
      exact absurd hstart h.1
  · simp only [if_neg hstart]
    cases stop with
    | none => simp [hstart]
    | some stop => simp [hstart, upToClose_eq_self_iff]

/-- A rendered range is read back as the cut range. -/
theorem rangeText_cut {r : DateRange} (h : AreLiterals r) :
    ∃ t rest, RangeText r.cut t ∧ r.chars = t ++ rest := by
  obtain ⟨start, stop⟩ := r
  have hstart : IsLiteral start := h.start
  unfold DateRange.cut
  -- a parenthesis in the first bound ends the range there
  by_cases hclose : ')' ∈ start.toList
  · obtain ⟨rest, hrest⟩ := exists_of_close_mem hclose
    simp only [if_pos hclose]
    refine ⟨_, rest ++ (stopChars stop ++ [')']),
      .since isGapRun_space (isStart_upToClose hstart), ?_⟩
    show DateRange.chars ⟨start, stop⟩ = _
    delta DateRange.chars
    rw [hrest]
    simp
  · have hwhole : upToClose start = start := upToClose_eq_self_iff.2 hclose
    have hstart' := isStart_upToClose hstart
    rw [hwhole] at hstart'
    simp only [if_neg hclose]
    cases stop with
    | none =>
        refine ⟨_, [], .since isGapRun_space hstart', ?_⟩
        delta DateRange.chars stopChars
        simp
    | some stop =>
        -- the second bound ends at its own parenthesis or at that of the
        -- call
        obtain ⟨rest, hrest⟩ := exists_close stop
        have hstop := StopText.bound isGapRun_nil isGapRun_space
          isGapRun_space (isStop_upToClose (h.stop stop rfl))
        refine ⟨_, rest, .between isGapRun_space hstart' hstop, ?_⟩
        delta DateRange.chars stopChars
        simp [hrest]

/-- The line of a range of literals is read as the cut range. -/
theorem read_cut_line {r : DateRange} (h : AreLiterals r) :
    '\n' ∉ r.line.toList
      ∧ recognize (trim r.line.toList) = .part (.dateRange r.cut) := by
  have hyield : occursIn "yield".toList r.chars = false :=
    not_occursIn_range_chars isAnchor_yield (by decide) h.start.yields
      fun stop hr => (h.stop stop hr).yields
  have hbucket : occursIn "from(bucket:".toList r.chars = false :=
    not_occursIn_range_chars isAnchor_bucket (by decide)
      (bucket_not_mentioned h.start)
      fun stop hr => bucket_not_mentioned (h.stop stop hr)
  constructor
  · exact lineFeed_not_mem_range_line (lineFeed_not_mem h.start.blank)
      fun stop hr => lineFeed_not_mem (h.stop stop hr).blank
  · obtain ⟨t, rest, ht, hchars⟩ := rangeText_cut h
    -- no earlier pattern takes the line, so the range is what it is read as
    rw [trim_range_line, recognize_range_iff, occursIn_stage isAnchor_yield,
      call?_bucket_stage, call?_range_stage]
    refine ⟨hyield,
      call?_eq_none_of_not_occursIn bucketCall?_beginsWith hbucket, ?_⟩
    exact call?_of_read (rangeCall?_eq_some_iff.2 ⟨t, ht, hchars⟩)

-- ============================================================ builders

/-- What is read back of the parts of a selection. -/
def Part.cut : Part → Part
  | .dateRange r => .dateRange r.cut
  | p => p.canonical

/-- The query of a bucket and a range is read back with the range cut. -/
theorem parse_text_cut {b : Bucket} {r : DateRange} (hb : b.IsPlain)
    (hr : AreLiterals r) :
    Query.parse (Query.ofParts [.bucket b, .dateRange r]).text
      = .ofParts [.bucket (.named b.name), .dateRange r.cut] := by
  have hread : Query.parse (Query.ofParts [.bucket b, .dateRange r]).text
      = .ofParts (([Part.bucket b, .dateRange r].filter
        fun p => p.line?.isSome).map Part.cut) := by
    refine parse_text rfl fun p hp line hline => ?_
    rcases List.mem_cons.1 hp with rfl | hp
    · obtain rfl : b.line = line := Option.some.inj hline
      exact read_bucket_line hb
    · obtain rfl := List.mem_singleton.1 hp
      obtain rfl : r.line = line := Option.some.inj hline
      exact read_cut_line hr
  rw [hread]
  rfl

/-- A newly selected bucket is read over the selected range. -/
theorem query_selectDateRange {b b' : Builder} {position : Nat}
    {bucket : Bucket} (h : b.selectBucket position = some (bucket, b'))
    (start : String) (stop : Option String) :
    (b'.selectDateRange start stop).query
      = .ofParts [.bucket bucket, .dateRange ⟨start, stop⟩] := by
  simp only [Builder.selectBucket, Option.bind_eq_bind,
    Option.bind_eq_some_iff] at h
  obtain ⟨c, -, h⟩ := h
  obtain ⟨rfl, rfl⟩ := Prod.mk.inj (Option.some.inj h)
  rfl

/-- A range that was selected for a new bucket goes through the text of
the query cut, so it is still selected exactly if neither of its bounds
has a closing parenthesis, and then the text is still the same. -/
theorem updateText_selectDateRange_iff {b b' : Builder} {position : Nat}
    {bucket : Bucket} (h : b.selectBucket position = some (bucket, b'))
    (hbucket : bucket.IsPlain) {start : String} {stop : Option String}
    (hrange : AreLiterals ⟨start, stop⟩) :
    let chosen := b'.selectDateRange start stop
    let saved := chosen.updateText chosen.text
    saved.dateRange? = some (DateRange.cut ⟨start, stop⟩)
      ∧ (saved.dateRange? = some ⟨start, stop⟩ ∧ saved.text = chosen.text ↔
        ')' ∉ start.toList ∧ ∀ s ∈ stop, ')' ∉ s.toList) := by
  intro chosen saved
  have hchosen : chosen.query
      = .ofParts [.bucket bucket, .dateRange ⟨start, stop⟩] :=
    query_selectDateRange h start stop
  have hsaved : saved.query = .ofParts [.bucket (.named bucket.name),
      .dateRange (DateRange.cut ⟨start, stop⟩)] := by
    show Query.parse chosen.query.text = _
    rw [hchosen]
    exact parse_text_cut hbucket hrange
  have hcut : saved.dateRange? = some (DateRange.cut ⟨start, stop⟩) := by
    unfold Builder.dateRange?
    rw [hsaved]
    rfl
  -- what is left is when the cut range is the selected one
  refine ⟨hcut, ?_⟩
  rw [hcut, Option.some.injEq]
  constructor
  · exact fun hsame => cut_eq_self_iff.1 hsame.1
  · intro hfree
    have hsame : DateRange.cut ⟨start, stop⟩ = ⟨start, stop⟩ :=
      cut_eq_self_iff.2 hfree
    refine ⟨hsame, ?_⟩
    show saved.query.text = chosen.query.text
    rw [hsaved, hchosen, hsame]
    exact text_canonical (q := .ofParts [.bucket bucket,
      .dateRange ⟨start, stop⟩]) rfl

/-- The builder after the selection of its only bucket. -/
def metricsBuilder : Builder where
  buckets := [.named "metrics"]
  query := .ofParts [.bucket (.named "metrics"),
    .dateRange Builder.defaultRange]
  revision := 1

/-- It is what selecting the bucket leads to. -/
theorem selectBucket_metrics :
    Builder.selectBucket { buckets := [.named "metrics"] } 0
      = some (.named "metrics", metricsBuilder) := rfl

/-- The name of the bucket is free of quotes. -/
theorem isPlain_metrics : (Bucket.named "metrics").IsPlain := by decide

/-- Bounds without parentheses come back. -/
theorem updateText_selectDateRange_plain :
    ((metricsBuilder.selectDateRange "-1h" (some "-5m")).updateText
        (metricsBuilder.selectDateRange "-1h" (some "-5m")).text).dateRange?
      = some ⟨"-1h", some "-5m"⟩ := by
  have hrange : AreLiterals ⟨"-1h", some "-5m"⟩ := by decide
  have hiff := (updateText_selectDateRange_iff selectBucket_metrics
    isPlain_metrics hrange).2
  exact (hiff.2 (by decide)).1

/-- The bound `now()` comes back as `now(`, and the text is another one. -/
theorem updateText_selectDateRange_now :
    ¬ ∀ (b b' : Builder) (position : Nat) (bucket : Bucket)
      (start : String) (stop : Option String),
      b.selectBucket position = some (bucket, b') → bucket.IsPlain →
      AreLiterals ⟨start, stop⟩ →
      ((b'.selectDateRange start stop).updateText
          (b'.selectDateRange start stop).text).dateRange?
        = some ⟨start, stop⟩
      ∧ ((b'.selectDateRange start stop).updateText
          (b'.selectDateRange start stop).text).text
        = (b'.selectDateRange start stop).text := by
  intro h
  have hrange : AreLiterals ⟨"-1h", some "now()"⟩ := by decide
  have hnow := (h _ _ 0 _ "-1h" (some "now()") selectBucket_metrics
    isPlain_metrics hrange).1
  revert hnow
  decide

end FluxComposer
