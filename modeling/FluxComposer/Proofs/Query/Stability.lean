import FluxComposer.Proofs.Query.Rendered
/-
Reading is stable under rendering: whatever a text is read as, its
rendered text is read as the same. Nothing is asked of the text. Names,
bounds and values are copied into the rendered line as they were read,
with whatever they hold, so it does not do to look for anchors in the
line. What carries the argument is that the line as it was written has
no call that comes before, and that no such call can begin in what was
copied unless it begins there in the line as it was written as well.

- `Extends`: a call that is read is read in a longer text as well, so a
  line that ends earlier has no call that the longer one lacks.
- `bucketCall?_close_of_bounds`: a bucket that begins in the first bound
  of a range takes in the comma and ends at the end of the second bound,
  and can do so with any gaps around the comma.
- `ValuesText`: the values of a filter with what stands between them.
  A call that begins in a value and goes beyond its quote takes all that
  stands up to the next quote for a name, or all up to the next closing
  parenthesis for a bound, and both are there however the filter is
  written.
-/
namespace FluxComposer

open Text Recognizer

variable {α : Type} {read : List Char → Option (α × List Char)}
  {a s t w x y rest : List Char}

-- ====================================================== longer texts

/-- Whether a reader that fails in a text fails in what it begins
with. -/
def Extends (read : List Char → Option (α × List Char)) : Prop :=
  ∀ s t, read (s ++ t) = none → read s = none

/-- A bucket that is read is read with more text behind it. -/
theorem bucketCall?_extends : Extends bucketCall? := by
  intro s t h
  rw [Option.eq_none_iff_forall_ne_some] at h ⊢
  rintro ⟨b, rest⟩ hread
  obtain ⟨u, hu, rfl⟩ := bucketCall?_eq_some_iff.1 hread
  exact h (b, rest ++ t)
    (bucketCall?_eq_some_iff.2 ⟨u, hu, List.append_assoc u rest t⟩)

/-- So is a range. -/
theorem rangeCall?_extends : Extends rangeCall? := by
  intro s t h
  rw [Option.eq_none_iff_forall_ne_some] at h ⊢
  rintro ⟨r, rest⟩ hread
  obtain ⟨u, hu, rfl⟩ := rangeCall?_eq_some_iff.1 hread
  exact h (r, rest ++ t)
    (rangeCall?_eq_some_iff.2 ⟨u, hu, List.append_assoc u rest t⟩)

/-- A line without a call has none in what it begins with. -/
theorem call?_eq_none_of_append (hread : Extends read)
    (h : call? read (s ++ t) = none) : call? read s = none := by
  rw [call?_eq_none_iff] at h ⊢
  intro u v huv
  refine hread v t (h u (v ++ t) ?_)
  rw [huv, List.append_assoc]

/-- A line without a call has none in what it ends with. -/
theorem call?_eq_none_of_suffix (hst : s <:+ t)
    (h : call? read t = none) : call? read s = none :=
  leftmost_eq_none_of_suffix hst h

/-- Two lines begin alike. If one has no call, the other has none, as
long as this is so of what follows and no call of the other begins in
the common part and goes beyond it unless one of the first does. -/
theorem call?_append_eq_none
    (hhead : ∀ w, w <:+ a → read (w ++ y) = none → read (w ++ x) = none)
    (htail : call? read y = none → call? read x = none)
    (h : call? read (a ++ y) = none) : call? read (a ++ x) = none := by
  refine leftmost_append_eq_none (fun w hw hy => ?_) htail h
  rw [Option.map_eq_none_iff] at hy ⊢
  exact hhead w hw hy

/-- What holds characters of a class only lacks every other one. -/
theorem not_mem_of_class {p : Char → Bool} {c : Char}
    (hs : ∀ d ∈ s, p d = true) (hc : p c = false := by decide) : c ∉ s := by
  intro hm
  rw [hs c hm] at hc
  cases hc

/-- What stands before a second bound holds no quote. -/
theorem isQuotable_before_stop {g₁ g₂ g₃ : List Char} (h₁ : IsGapRun g₁)
    (h₂ : IsGapRun g₂) (h₃ : IsGapRun g₃) :
    IsQuotable (g₁ ++ ',' :: (g₂ ++ ("stop:".toList ++ g₃))) := by
  refine ⟨by simp, ?_⟩
  simp only [List.mem_append, List.mem_cons, not_or]
  exact ⟨not_mem_of_class h₁, by decide,
    not_mem_of_class h₂, by decide,
    not_mem_of_class h₃⟩

/-- Nor does a literal with the gap behind it. -/
theorem quote_not_mem_append_gap {literal gap : List Char}
    (hliteral : '"' ∉ literal) (hgap : IsGapRun gap) :
    '"' ∉ literal ++ gap := by
  rw [List.mem_append, not_or]
  exact ⟨hliteral, not_mem_of_class hgap⟩

-- ============================================================ buckets

/-- What a line is read as is written on one line and read from there
again. -/
def Part.IsStable (p : Part) : Prop :=
  ∃ line, p.line? = some line ∧ '\n' ∉ line.toList
    ∧ recognize (trim line.toList) = .part p

/-- A bucket that was read is stable. -/
theorem isStable_bucket {line : List Char} {b : Bucket}
    (hfeed : '\n' ∉ line)
    (h : recognize line = .part (.bucket b)) : (Part.bucket b).IsStable := by
  obtain ⟨hyield, hcall⟩ := recognize_bucket_iff.1 h
  obtain ⟨u, v, rest, hline, hread⟩ := exists_read_of_call? hcall
  obtain ⟨t, ht, hv⟩ := bucketCall?_eq_some_iff.1 hread
  obtain @⟨gap, name, -, hname⟩ := ht
  -- the name was copied from the line, so it holds neither the word that
  -- yields nor a line feed
  have hst : name.toList <:+: line := by
    rw [hline, hv]
    exact ⟨u ++ ("from(bucket:".toList ++ (gap ++ ['"'])),
      '"' :: ')' :: rest, by simp⟩
  exact ⟨_, rfl,
    lineFeed_not_mem_bucket_line fun hm => hfeed (hst.subset hm),
    recognize_bucket_line hname (not_occursIn_of_stretch hst hyield)⟩

/-- A bucket is read wherever its text is written out. -/
theorem bucketCall?_of_quotable {gap name : List Char} (hgap : IsGapRun gap)
    (hname : IsQuotable name) (rest : List Char) :
    bucketCall? ("from(bucket:".toList
        ++ (gap ++ '"' :: (name ++ '"' :: ')' :: rest)))
      = some (.named (String.ofList name), rest) := by
  rw [← String.toList_ofList (l := name)] at hname
  refine bucketCall?_eq_some_iff.2 ⟨_, .call hgap hname, ?_⟩
  simp

-- ============================================================= ranges

/-- A name that reaches from the first bound of a rendered range to its
end has its closing quote there. -/
theorem quote_ends_stop {name stop : List Char} (hquote : '"' ∉ name)
    (hne : stop ≠ [])
    (h : w ++ ',' :: (" stop:".toList ++ ' ' :: stop) = name ++ ['"']) :
    ∃ stop', stop = stop' ++ ['"'] ∧ '"' ∉ w ∧ '"' ∉ stop' := by
  obtain ⟨stop', d, rfl⟩ : ∃ stop' d, stop = stop' ++ [d] :=
    ⟨stop.dropLast, stop.getLast hne,
      (List.dropLast_concat_getLast hne).symm⟩
  have hcut : (w ++ ',' :: (" stop:".toList ++ ' ' :: stop')) ++ [d]
      = name ++ ['"'] := by
    rw [← h]
    simp
  obtain ⟨rfl, hd⟩ := List.append_inj' hcut rfl
  obtain rfl : d = '"' := List.singleton_inj.1 hd
  simp only [List.mem_append, List.mem_cons, not_or] at hquote
  exact ⟨stop', rfl, hquote.1, hquote.2.2.2.2⟩

/-- The bucket call that begins in the first bound of a rendered range
and ends with it is there for any quote-free stretch between the
bounds. -/
theorem bucketCall?_close_of_bounds {mid stop : List Char}
    (hcomma : ',' ∉ w) (hclose : ')' ∉ w) (hstop : ')' ∉ stop)
    (hne : stop ≠ []) (hmid : IsQuotable mid)
    (h : bucketCall? (w ++ (mid ++ (stop ++ ')' :: rest))) = none) :
    bucketCall? (w ++ ',' :: (" stop:".toList ++ ' ' :: (stop ++ [')'])))
      = none := by
  rw [Option.eq_none_iff_forall_ne_some] at h ⊢
  rintro ⟨b, rest'⟩ hread
  obtain ⟨t, @⟨gap, name, hgap, -, hquote⟩, heq⟩ :=
    bucketCall?_eq_some_iff.1 hread
  -- the literal and the quote behind it stand in the first bound
  have hgapComma : ',' ∉ gap := not_mem_of_class hgap
  have hhead : "from(bucket:".toList ++ (gap ++ ['"'])
      <+: w ++ ',' :: (" stop:".toList ++ ' ' :: (stop ++ [')'])) :=
    ⟨name.toList ++ '"' :: ')' :: rest', by rw [heq]; simp⟩
  have hheadComma : ',' ∉ "from(bucket:".toList ++ (gap ++ ['"']) := by
    simp only [List.mem_append, List.mem_singleton, not_or]
    exact ⟨by decide, hgapComma, by decide⟩
  obtain ⟨w', rfl⟩ := prefix_of_prefix_append_cons hheadComma hhead
  -- the name reaches to the end of the second bound
  have hend : (w' ++ ',' :: (" stop:".toList ++ ' ' :: stop)) ++ [')']
      = (name.toList ++ ['"']) ++ ')' :: rest' := by
    simpa using heq
  have hfree : ')' ∉ w' ++ ',' :: (" stop:".toList ++ ' ' :: stop) := by
    simp only [List.mem_append, List.mem_cons, not_or] at hclose ⊢
    exact ⟨hclose.2, by decide, by decide, by decide, hstop⟩
  obtain ⟨hname, -⟩ := append_singleton_inj hfree hend
  obtain ⟨stop', rfl, hw', hstop'⟩ := quote_ends_stop hquote hne hname
  have hquotable : IsQuotable (w' ++ (mid ++ stop')) := by
    refine ⟨by simp [hmid.1], ?_⟩
    simp only [List.mem_append, not_or]
    exact ⟨hw', hmid.2, hstop'⟩
  refine h _ ((congrArg bucketCall? ?_).trans
    (bucketCall?_of_quotable hgap hquotable rest))
  simp

/-- No bucket is read in the bounds of a rendered range that is not read
in them as they were written. -/
theorem call?_bucket_bounds {start stop g₁ g₂ g₃ : List Char}
    (hstart : ∀ c ∈ start, isStartChar c = true) (h₁ : IsGapRun g₁)
    (h₂ : IsGapRun g₂) (h₃ : IsGapRun g₃) (hstop : IsStop stop)
    (h : call? bucketCall? (start ++ (g₁ ++ ',' :: (g₂ ++ ("stop:".toList
      ++ g₃)) ++ (stop ++ ')' :: rest))) = none) :
    call? bucketCall? (start ++ ',' :: (" stop:".toList
      ++ ' ' :: (stop ++ [')']))) = none := by
  obtain ⟨hclose, c, tail, hhead, -⟩ := hstop
  refine call?_append_eq_none ?_ ?_ h
  · intro w hw
    have hchars : ∀ c ∈ w, isStartChar c = true :=
      fun c hm => hstart c (hw.subset hm)
    exact bucketCall?_close_of_bounds (not_mem_of_class hchars)
      (not_mem_of_class hchars) hclose (by simp [hhead])
      (isQuotable_before_stop h₁ h₂ h₃)
  · intro htail
    have hcut := call?_append_cons bucketCall?_beginsWith
      (q := ' ') (a := ',' :: " stop:".toList) (by decide) (by decide)
      (stop ++ [')'])
    refine hcut.trans ?_
    refine call?_eq_none_of_append (t := rest) bucketCall?_extends ?_
    refine call?_eq_none_of_suffix
      ⟨g₁ ++ ',' :: (g₂ ++ ("stop:".toList ++ g₃)), ?_⟩ htail
    simp

/-- No bucket is read in a rendered range that was read in a line without
buckets. -/
theorem call?_bucket_range {r : DateRange} (ht : RangeText r t)
    (h : call? bucketCall? (t ++ rest) = none) :
    call? bucketCall? r.chars = none := by
  have hskip : ∀ s, call? bucketCall?
      ("range(start:".toList ++ ' ' :: s) = call? bucketCall? s :=
    call?_append_cons bucketCall?_beginsWith (by decide) (by decide)
  -- what stands before the first bound is fixed text and is passed over on
  -- both sides
  cases ht with
  | @since gap start hgap hstart =>
      delta DateRange.chars stopChars
      rw [hskip]
      refine call?_eq_none_of_append (t := rest) bucketCall?_extends ?_
      refine call?_eq_none_of_suffix
        ⟨"range(start:".toList ++ gap, ?_⟩ h
      simp
  | @between gap u start stop hgap hstart hstop =>
      obtain @⟨g₁, g₂, g₃, stop, h₁, h₂, h₃, hstop⟩ := hstop
      have hwritten : call? bucketCall? (start.toList ++ (g₁ ++ ',' :: (g₂
          ++ ("stop:".toList ++ g₃)) ++ (stop.toList ++ ')' :: rest)))
          = none := by
        refine call?_eq_none_of_suffix
          ⟨"range(start:".toList ++ gap, ?_⟩ h
        simp
      delta DateRange.chars stopChars
      rw [hskip]
      simp only [List.cons_append, List.append_assoc]
      exact call?_bucket_bounds hstart.2 h₁ h₂ h₃ hstop hwritten

/-- The bounds of a range that was read, and where they stand. -/
structure AreBounds (r : DateRange) (t : List Char) : Prop where
  isStart : IsStart r.start.toList
  isStop : ∀ stop ∈ r.stop, IsStop stop.toList
  start : r.start.toList <:+: t
  stop : ∀ stop ∈ r.stop, stop.toList <:+: t

/-- The bounds of a range stand in the text that it was read from. -/
theorem bounds_of_rangeText {r : DateRange} (ht : RangeText r t) :
    AreBounds r t := by
  cases ht with
  | @since gap start hgap hstart =>
      refine ⟨hstart, fun _ hr => (nomatch hr), ?_,
        fun _ hr => (nomatch hr)⟩
      exact ⟨"range(start:".toList ++ gap, [')'], by simp⟩
  | @between gap u start stop hgap hstart hstop =>
      obtain @⟨g₁, g₂, g₃, stop, -, -, -, hstop⟩ := hstop
      refine ⟨hstart, fun stop' hr => ?_, ?_, fun stop' hr => ?_⟩
      · obtain rfl := Option.some.inj hr
        exact hstop
      · exact ⟨"range(start:".toList ++ gap, _, by
          rw [List.append_assoc, List.append_assoc, List.append_assoc]⟩
      · obtain rfl := Option.some.inj hr
        exact ⟨"range(start:".toList ++ (gap ++ (start.toList
          ++ (g₁ ++ ',' :: (g₂ ++ ("stop:".toList ++ g₃))))), [')'],
          by simp⟩

/-- A range that was read is stable. -/
theorem isStable_range {line : List Char} {r : DateRange}
    (hfeed : '\n' ∉ line) (h : recognize line = .part (.dateRange r)) :
    (Part.dateRange r).IsStable := by
  obtain ⟨hyield, hbucket, hcall⟩ := recognize_range_iff.1 h
  obtain ⟨u, v, rest, hline, hread⟩ := exists_read_of_call? hcall
  obtain ⟨t, ht, hv⟩ := rangeCall?_eq_some_iff.1 hread
  have hbounds := bounds_of_rangeText ht
  have hst : t <:+: line := ⟨u, rest, by rw [hline, hv, List.append_assoc]⟩
  have hstart := hbounds.start.trans hst
  have hstop : ∀ stop ∈ r.stop, stop.toList <:+: line :=
    fun stop hr => (hbounds.stop stop hr).trans hst
  -- the bounds are stretches of the line, in which no word yields
  have hyield' : occursIn "yield".toList r.chars = false :=
    not_occursIn_range_chars isAnchor_yield (by decide)
      (not_occursIn_of_stretch hstart hyield)
      fun stop hr => not_occursIn_of_stretch (hstop stop hr) hyield
  have hsuffix : t ++ rest <:+ line := ⟨u, by rw [hline, hv]⟩
  refine ⟨_, rfl, ?_, ?_⟩
  · exact lineFeed_not_mem_range_line (fun hm => hfeed (hstart.subset hm))
      fun stop hr hm => hfeed ((hstop stop hr).subset hm)
  · exact recognize_range_line hbounds.isStart hbounds.isStop hyield'
      (call?_bucket_range ht (call?_eq_none_of_suffix hsuffix hbucket))

-- ============================================================ filters

/-- The texts from the first value of a filter on. What stands between
two values holds no quote, and behind the last one the call ends. -/
inductive ValuesText : List String → List Char → Prop
  | last {v : String} {rest : List Char} :
      ValuesText [v] (v.toList ++ '"' :: ')' :: rest)
  | more {v w : String} {vs : List String} {between t : List Char}
      (hbetween : IsQuotable between) (ht : ValuesText (w :: vs) t) :
      ValuesText (v :: w :: vs) (v.toList ++ '"' :: (between ++ '"' :: t))

/-- Behind the quote that ends a value stands a closing parenthesis
somewhere. -/
theorem exists_of_valuesText {v : String} {vs : List String}
    (h : ValuesText (v :: vs) t) :
    ∃ s, t = v.toList ++ '"' :: s ∧ ')' ∈ s := by
  induction vs generalizing v t with
  | nil =>
      cases h
      exact ⟨_, rfl, by simp⟩
  | cons w vs ih =>
      cases h with
      | more hbetween ht =>
          obtain ⟨s, rfl, hs⟩ := ih ht
          exact ⟨_, rfl, by simp [hs]⟩

/-- Every value of a filter stands in its text. -/
theorem stretch_of_valuesText {vs : List String} (h : ValuesText vs t) :
    ∀ v ∈ vs, v.toList <:+: t := by
  induction h with
  | @last v rest =>
      intro w hw
      rw [List.mem_singleton.1 hw]
      exact (List.prefix_append _ _).isInfix
  | @more v w vs between t _ _ ih =>
      intro u hu
      rcases List.mem_cons.1 hu with rfl | hu
      · exact (List.prefix_append _ _).isInfix
      · exact (ih u hu).trans
          ⟨v.toList ++ '"' :: (between ++ ['"']), [], by simp⟩

/-- The comparisons behind a first value are further values with the rest of
the comparisons between them. -/
theorem valuesText_of_moreText {more : List (Column × String)}
    (h : MoreText more t) (v : String) (rest : List Char) :
    ValuesText (v :: more.map (·.2))
      (v.toList ++ '"' :: (t ++ ')' :: rest)) := by
  induction h generalizing v with
  | nil => exact .last
  | @cons c cs g₁ g₂ t u hne₁ h₁ hne₂ h₂ hc hcs ih =>
      obtain @⟨column, g₃, g₄, value, h₃, h₄, hvalue⟩ := hc
      have hcolumn : '"' ∉ column.name.toList := by
        cases column <;> decide
      -- from the gap before the word to the gap before the value, all of it
      -- is free of quotes
      have hbetween : IsQuotable (g₁ ++ ("or".toList ++ (g₂
          ++ ("r.".toList ++ (column.name.toList
            ++ (g₃ ++ ("==".toList ++ g₄))))))) := by
        refine ⟨by simp [hne₁], ?_⟩
        simp only [List.mem_append, not_or]
        exact ⟨not_mem_of_class h₁, by decide,
          not_mem_of_class h₂, by decide, hcolumn,
          not_mem_of_class h₃, by decide,
          not_mem_of_class h₄⟩
      have ht := ValuesText.more (v := v) hbetween (ih value)
      simpa using ht

/-- Every value that was read can be written between quotes. -/
theorem isQuotable_of_moreText {more : List (Column × String)}
    (h : MoreText more t) : ∀ c ∈ more, IsQuotable c.2.toList := by
  induction h with
  | nil => exact fun _ hc => nomatch hc
  | cons _ _ _ _ hc _ ih =>
      intro d hd
      rcases List.mem_cons.1 hd with rfl | hd
      · obtain ⟨-, -, hvalue⟩ := hc
        exact hvalue
      · exact ih d hd

/-- What a filter that was read compares its column with. -/
structure AreValues (f : Filter) (v : String) (vs : List String)
    (t : List Char) : Prop where
  operand : f.operand = .ofValues (v :: vs)
  quotable : ∀ w ∈ v :: vs, IsQuotable w.toList
  text : ∀ rest, ∃ a y, t ++ rest = a ++ '"' :: y ∧ ValuesText (v :: vs) y

/-- A filter that was read has values, the first one behind the first quote
of its text. -/
theorem values_of_filterText {f : Filter} (ht : FilterText f t) :
    ∃ v vs, AreValues f v vs t := by
  obtain @⟨g₁, g₂, g₃, t, u, first, more, f, -, -, -, hfirst, hmore, hf⟩ := ht
  obtain @⟨column, g₄, g₅, value, -, -, hvalue⟩ := hfirst
  refine ⟨value, more.map (·.2), ?_, ?_, ?_⟩
  · unfold filterOf? at hf
    split at hf
    next => rw [← Option.some.inj hf]
    next => cases hf
  · intro w hw
    rcases List.mem_cons.1 hw with rfl | hw
    · exact hvalue
    · obtain ⟨c, hc, rfl⟩ := List.mem_map.1 hw
      exact isQuotable_of_moreText hmore c hc
  · intro rest
    refine ⟨"filter(fn:".toList ++ (g₁ ++ ("(r)".toList ++ (g₂
      ++ ("=>".toList ++ (g₃ ++ ("r.".toList ++ (column.name.toList
        ++ (g₄ ++ ("==".toList ++ g₅))))))))), _, ?_,
      valuesText_of_moreText hmore value rest⟩
    simp

/-- Whether a reader that fails where a value runs into its quote fails
where the same value is followed by rendered text. Both texts go on with
the same value behind the next quote, and with a closing parenthesis
somewhere. -/
def CrossesQuotes (read : List Char → Option (α × List Char)) : Prop :=
  ∀ {w between x y : List Char} (column : Column), '"' ∉ w →
    IsQuotable between → x.head? = y.head? → ')' ∈ y →
    read (w ++ '"' :: (between ++ '"' :: y)) = none →
    read (w ++ '"' :: (column.seam ++ '"' :: x)) = none

/-- A bucket that begins in a value has what stands between the quotes
for its name, and ends where the next value begins with a parenthesis. -/
theorem bucketCall?_crossesQuotes : CrossesQuotes bucketCall? := by
  intro w between x y column hw hbetween hhead _ h
  rw [Option.eq_none_iff_forall_ne_some] at h ⊢
  rintro ⟨b, rest⟩ hread
  obtain ⟨t, @⟨gap, name, hgap, -, hquote⟩, heq⟩ :=
    bucketCall?_eq_some_iff.1 hread
  have hfront : '"' ∉ "from(bucket:".toList ++ gap :=
    quote_not_mem_append_gap (by decide) hgap
  have hseam : '"' ∉ column.seam := by
    cases column <;> decide
  have hcut : w ++ '"' :: (column.seam ++ '"' :: x)
      = ("from(bucket:".toList ++ gap)
        ++ '"' :: (name.toList ++ '"' :: ')' :: rest) := by
    rw [heq]
    simp
  -- both texts are cut at their first quote, and what is left at the next
  -- one
  obtain ⟨rfl, hname⟩ := append_cons_inj hw hfront hcut
  obtain ⟨-, rfl⟩ := append_cons_inj hseam hquote hname
  obtain ⟨y, rfl⟩ : ∃ z, y = ')' :: z := by
    cases y with
    | nil => cases hhead
    | cons c y => exact ⟨y, by rw [Option.some.inj hhead]⟩
  refine h _ ((congrArg bucketCall? ?_).trans
    (bucketCall?_of_quotable hgap hbetween y))
  simp

/-- A text that begins with no gap and has a closing parenthesis later on
begins with a second bound. -/
theorem exists_stop {c : Char} (hgap : isGap c = false) (hc : c ≠ ')')
    (hclose : ')' ∈ s) (hs : s.head? = some c) :
    ∃ stop rest, IsStop stop ∧ s = stop ++ ')' :: rest := by
  obtain ⟨stop, rest, rfl, hstop⟩ := List.eq_append_cons_of_mem hclose
  cases stop with
  | nil =>
      obtain rfl : ')' = c := Option.some.inj hs
      exact absurd rfl hc
  | cons d stop =>
      obtain rfl : d = c := Option.some.inj hs
      exact ⟨d :: stop, rest, ⟨hstop, d, stop, rfl, hgap⟩, rfl⟩

/-- A first bound does not reach a quote that a word follows behind a
space: what comes behind the bound is a comma or a parenthesis. -/
theorem bound_before_quote {c d : Char} {u start g z : List Char}
    (hstart : ∀ c ∈ start, isStartChar c = true) (hg : IsGapRun g)
    (hc : c = ',' ∨ c = ')') (hd : isGap d = false) (hcd : d ≠ c)
    (h : u ++ '"' :: ' ' :: d :: s = start ++ (g ++ c :: z)) :
    ∃ u', u = start ++ u' ∧ u' ++ '"' :: ' ' :: d :: s = g ++ c :: z := by
  -- either the bound ends before the quote, or it takes in the quote and
  -- then the space as well, which no bound holds
  rcases List.append_eq_append_iff.1 h with ⟨e, rfl, he⟩ | ⟨e, rfl, he⟩
  · cases e with
    | nil => exact ⟨[], by simp, he⟩
    | cons q e =>
        obtain ⟨rfl, hbehind⟩ := List.cons.inj he
        cases e with
        | cons q e =>
            have hq : ' ' = q := (List.cons.inj hbehind).1
            have hspace := hstart q (by simp)
            rw [← hq] at hspace
            exact absurd hspace (by decide)
        | nil =>
            have hc' : isGap c = false := by
              rcases hc with rfl | rfl <;> decide
            have hleft : skipGap (' ' :: d :: s) = d :: s :=
              skipGap_append isGapRun_space (stopsAt_cons hd)
            have hright : skipGap (g ++ c :: z) = c :: z :=
              skipGap_append hg (stopsAt_cons hc')
            have hsame : ' ' :: d :: s = g ++ c :: z := hbehind
            rw [hsame, hright] at hleft
            exact absurd (List.cons.inj hleft).1.symm hcd
  · exact ⟨e, rfl, he.symm⟩

/-- The first bound of a range that begins in a value ends in it, if a
word follows the quote of the value behind a space. -/
theorem bound_in_value {c d : Char} {z gap start g tail : List Char}
    (hw : '"' ∉ w) (hgap : IsGapRun gap)
    (hstart : ∀ c ∈ start, isStartChar c = true) (hg : IsGapRun g)
    (hc : c = ',' ∨ c = ')') (hd : isGap d = false) (hcd : d ≠ c)
    (h : w ++ '"' :: ' ' :: d :: z
      = "range(start:".toList ++ (gap ++ (start ++ (g ++ c :: tail)))) :
    ∃ u, w = "range(start:".toList ++ (gap ++ (start ++ u))
      ∧ u ++ '"' :: ' ' :: d :: z = g ++ c :: tail := by
  have hfront : '"' ∉ "range(start:".toList ++ gap :=
    quote_not_mem_append_gap (by decide) hgap
  have hpre : "range(start:".toList ++ gap <+: w ++ '"' :: ' ' :: d :: z :=
    ⟨start ++ (g ++ c :: tail), by rw [h, List.append_assoc]⟩
  obtain ⟨v, rfl⟩ := prefix_of_prefix_append_cons hfront hpre
  rw [List.append_assoc, List.append_assoc] at h
  have hv := List.append_cancel_left (List.append_cancel_left h)
  obtain ⟨u, rfl, hu⟩ := bound_before_quote hstart hg hc hd hcd hv
  exact ⟨u, List.append_assoc .., hu⟩

/-- The second bound of a range that goes beyond the quote of a value ends
at the next closing parenthesis, and there is one whatever follows the
quote. -/
theorem stopText_of_crossing {stop : String} {g₁ g₂ g₃ u z v : List Char}
    (h₁ : IsGapRun g₁) (h₂ : IsGapRun g₂) (h₃ : IsGapRun g₃)
    (hstop : IsStop stop.toList) (hclose : ')' ∈ v)
    (h : u ++ '"' :: z = g₁ ++ ',' :: (g₂ ++ ("stop:".toList
      ++ (g₃ ++ (stop.toList ++ ')' :: rest))))) :
    ∃ stop' t rest', StopText stop' t ∧ u ++ '"' :: v = t ++ ')' :: rest' := by
  obtain ⟨hfree, c, tail, hhead, hc⟩ := hstop
  have hpre : g₁ ++ ',' :: (g₂ ++ ("stop:".toList ++ g₃)) <+: u ++ '"' :: z :=
    ⟨stop.toList ++ ')' :: rest, by rw [h]; simp⟩
  obtain ⟨s, rfl⟩ := prefix_of_prefix_append_cons
    (isQuotable_before_stop h₁ h₂ h₃).2 hpre
  have hs : s ++ '"' :: z = stop.toList ++ ')' :: rest := by
    simpa using h
  have hne : c ≠ ')' := fun e => hfree (by rw [hhead, e]; simp)
  have hfirst : (s ++ '"' :: v).head? = some c := by
    rw [hhead] at hs
    cases s with
    | nil => rw [← (List.cons.inj hs).1]; rfl
    | cons d s => rw [← (List.cons.inj hs).1]; rfl
  -- the bound begins with the same character as before and ends at the
  -- first parenthesis of the new text
  obtain ⟨stop', rest', hstop', hv⟩ :=
    exists_stop hc hne (by simp [hclose]) hfirst
  rw [← String.toList_ofList (l := stop')] at hstop' hv
  refine ⟨_, _, rest', .bound h₁ h₂ h₃ hstop', ?_⟩
  simp [hv]

/-- A range that begins in a value and goes beyond its quote does so with
its second bound. -/
theorem rangeCall?_crossesQuotes : CrossesQuotes rangeCall? := by
  intro w between x y column hw _ _ hclose h
  rw [Option.eq_none_iff_forall_ne_some] at h ⊢
  rintro ⟨r, rest⟩ hread
  obtain ⟨t, ht, heq⟩ := rangeCall?_eq_some_iff.1 hread
  obtain ⟨z, hseam⟩ : ∃ z, column.seam ++ '"' :: x = ' ' :: 'o' :: z := by
    cases column <;> exact ⟨_, rfl⟩
  rw [hseam] at heq
  cases ht with
  | @since gap start hgap hstart =>
      obtain ⟨u, rfl, hu⟩ := bound_in_value (d := 'o') hw hgap hstart.2
        isGapRun_nil (Or.inr rfl) (by decide) (by decide)
        (by simpa using heq)
      -- a range without a second bound would have to close right at the
      -- quote
      cases u with
      | nil => cases (List.cons.inj hu).1
      | cons c u =>
          obtain ⟨rfl, -⟩ := List.cons.inj hu
          refine h (_, u ++ '"' :: (between ++ '"' :: y))
            (rangeCall?_eq_some_iff.2 ⟨_, .since hgap hstart, ?_⟩)
          simp
  | @between gap t start stop hgap hstart hstop =>
      obtain @⟨g₁, g₂, g₃, stop, h₁, h₂, h₃, hstop⟩ := hstop
      obtain ⟨u, rfl, hu⟩ := bound_in_value (d := 'o') hw hgap hstart.2 h₁
        (Or.inl rfl) (by decide) (by decide) (by simpa using heq)
      have hclose' : ')' ∈ between ++ '"' :: y := by simp [hclose]
      obtain ⟨stop', t', rest', ht', hu'⟩ :=
        stopText_of_crossing h₁ h₂ h₃ hstop hclose' (by simpa using hu)
      refine h (_, rest') (rangeCall?_eq_some_iff.2
        ⟨_, .between hgap hstart ht', ?_⟩)
      simp [hu']

/-- No call is read in the values of a rendered filter that is not read in
them as they were written. -/
theorem call?_values {literal : List Char} (column : Column) {v : String}
    {vs : List String} (hbegins : BeginsWith literal read)
    (hanchor : IsAnchor literal) (hextends : Extends read)
    (hcrosses : CrossesQuotes read)
    (hquotable : ∀ w ∈ v :: vs, IsQuotable w.toList)
    (hy : ValuesText (v :: vs) y) (h : call? read y = none) :
    call? read (v.toList ++ '"' :: column.others vs) = none := by
  -- the seam of the rendered filter takes the place of what stood between
  -- the values; the values are the same
  induction vs generalizing v y with
  | nil =>
      obtain @⟨v, rest⟩ := hy
      refine call?_eq_none_of_append (t := rest) hextends ?_
      rw [others_nil, List.append_assoc]
      exact h
  | cons w vs ih =>
      obtain - | @⟨v, w, vs, between, t, hbetween, ht⟩ := hy
      obtain ⟨s, hs, hclose⟩ := exists_of_valuesText ht
      have hw := hquotable w (by simp)
      have hv := hquotable v (List.mem_cons_self ..)
      rw [others_cons]
      refine call?_append_eq_none ?_ ?_ h
      · intro u hu
        refine hcrosses column (fun hm => hv.2 (hu.subset hm)) hbetween ?_ ?_
        · obtain ⟨c, w', hcons⟩ := List.exists_cons_of_ne_nil hw.1
          rw [hs, hcons]
          rfl
        · rw [hs]
          simp [hclose]
      · intro htail
        have hfront : occursIn literal ('"' :: column.seam) = false := by
          have hcut := occursIn_append_cons hanchor.quote [] column.seam
          rw [hanchor.empty, hanchor.seam, Bool.false_or] at hcut
          exact hcut
        have hskip := call?_append_cons hbegins hanchor.quote hfront
          (w.toList ++ '"' :: column.others vs)
        refine hskip.trans (ih (fun x hx =>
          hquotable x (List.mem_cons_of_mem _ hx)) ht ?_)
        exact call?_eq_none_of_suffix ⟨'"' :: (between ++ ['"']), by simp⟩
          htail

/-- No call is read in a rendered filter that was read in a line without
such calls. -/
theorem call?_filter {literal : List Char} {f : Filter} {v : String}
    {vs : List String} (hbegins : BeginsWith literal read)
    (hanchor : IsAnchor literal) (hextends : Extends read)
    (hcrosses : CrossesQuotes read) (hvalues : AreValues f v vs t)
    (h : call? read (t ++ rest) = none) :
    call? read (f.column.filterChars v vs) = none := by
  obtain ⟨a, y, ht, hy⟩ := hvalues.text rest
  have hskip := call?_append_cons hbegins hanchor.quote
    (hanchor.opening f.column) (v.toList ++ '"' :: f.column.others vs)
  delta Column.filterChars
  refine hskip.trans (call?_values f.column hbegins hanchor hextends hcrosses
    hvalues.quotable hy ?_)
  exact call?_eq_none_of_suffix ⟨a ++ ['"'], by rw [ht]; simp⟩ h

/-- A filter that was read is stable. -/
theorem isStable_filter {line : List Char} {f : Filter}
    (hfeed : '\n' ∉ line) (h : recognize line = .part (.filter f)) :
    (Part.filter f).IsStable := by
  obtain ⟨hyield, hbucket, hrange, hcall⟩ := recognize_filter_iff.1 h
  obtain ⟨u, s, rest, hline, hread⟩ := exists_read_of_call? hcall
  obtain ⟨t, ht, hs⟩ := filterCall?_eq_some_iff.1 hread
  obtain ⟨v, vs, hvalues⟩ := values_of_filterText ht
  have hsuffix : t ++ rest <:+ line := ⟨u, by rw [hline, hs]⟩
  -- the values were copied from the line
  have hstretch : ∀ w ∈ v :: vs, w.toList <:+: line := by
    intro w hw
    obtain ⟨a, y, hy, hvaluesText⟩ := hvalues.text rest
    refine (stretch_of_valuesText hvaluesText w hw).trans ?_
    exact List.IsInfix.trans ⟨a ++ ['"'], [], by rw [hy]; simp⟩
      hsuffix.isInfix
  have hoperand : f.operand.values = v :: vs := by
    rw [hvalues.operand, values_ofValues]
  obtain ⟨line', hline'⟩ : ∃ line', f.line? = some line' :=
    ⟨_, filter_line?_eq_some hoperand⟩
  obtain ⟨v', vs', hvs, hchars⟩ := toList_filter_line hline'
  obtain ⟨rfl, rfl⟩ := List.cons.inj (hoperand.symm.trans hvs)
  refine ⟨line', hline', lineFeed_not_mem_filter_line ?_ hline', ?_⟩
  · intro w hw hm
    rw [hoperand] at hw
    exact hfeed ((hstretch w hw).subset hm)
  · have hread := recognize_filter_line f.column hvalues.quotable
      (not_occursIn_filterChars isAnchor_yield f.column fun w hw =>
        not_occursIn_of_stretch (hstretch w hw) hyield)
      (call?_filter bucketCall?_beginsWith isAnchor_bucket
        bucketCall?_extends bucketCall?_crossesQuotes hvalues
        (call?_eq_none_of_suffix hsuffix hbucket))
      (call?_filter rangeCall?_beginsWith isAnchor_range
        rangeCall?_extends rangeCall?_crossesQuotes hvalues
        (call?_eq_none_of_suffix hsuffix hrange))
    rw [hchars, trim_filter_line, hread, ← hvalues.operand]

-- ========================================================== stability

/-- What a line is read as is stable. -/
theorem isStable_of_recognize {line : List Char} {p : Part}
    (hfeed : '\n' ∉ line) (h : recognize line = .part p) : p.IsStable := by
  cases p with
  | bucket b => exact isStable_bucket hfeed h
  | dateRange r => exact isStable_range hfeed h
  | filter f => exact isStable_filter hfeed h

/-- What a structured query is read from: every part is what some
statement is read as. -/
theorem exists_line_of_mem_parts {t : String} {p : Part}
    (h : p ∈ (statements t.toList).filterMap Query.linePart?) :
    ∃ line, '\n' ∉ line ∧ recognize line = .part p := by
  obtain ⟨line, hline, hp⟩ := List.mem_filterMap.1 h
  refine ⟨line, not_mem_of_mem_statements hline, ?_⟩
  unfold Query.linePart? at hp
  split at hp
  next hread => rw [hread, Option.some.inj hp]
  next => cases hp

/-- A query of stable parts is read back from its text. -/
theorem parse_text_of_isStable {parts : List Part}
    (h : ∀ p ∈ parts, p.IsStable) :
    Query.parse (Query.ofParts parts).text = .ofParts parts := by
  have hshown : parts.filter (fun p => p.line?.isSome) = parts := by
    rw [List.filter_eq_self]
    intro p hp
    obtain ⟨line, hline, -⟩ := h p hp
    rw [hline]
    rfl
  have hread : Query.parse (Query.ofParts parts).text
      = .ofParts ((parts.filter fun p => p.line?.isSome).map id) := by
    refine parse_text rfl fun p hp line hline => ?_
    obtain ⟨line', hline', hstable⟩ := h p hp
    rw [hline'] at hline
    rw [← Option.some.inj hline]
    exact hstable
  rw [hread, hshown, List.map_id]

/-- Whatever a text is read as, its rendered text is read as the same, so
reading and rendering changes a text once. A text that is kept raw is
not changed at all. -/
theorem parse_text_parse (t : String) :
    Query.parse (Query.parse t).text = Query.parse t
      ∧ (Query.parse (Query.parse t).text).text = (Query.parse t).text
      ∧ ((Query.parse t).isRaw = true → (Query.parse t).text = t) := by
  cases hforeign : (statements t.toList).any Query.isForeignStage with
  | true =>
      have hraw := parse_of_foreign hforeign
      rw [hraw]
      exact ⟨hraw, congrArg Query.text hraw, fun _ => rfl⟩
  | false =>
      have hparts := parse_of_lines hforeign
      have hstable : Query.parse (Query.parse t).text = Query.parse t := by
        rw [hparts]
        refine parse_text_of_isStable fun p hp => ?_
        obtain ⟨line, hfeed, hread⟩ := exists_line_of_mem_parts hp
        exact isStable_of_recognize hfeed hread
      refine ⟨hstable, congrArg Query.text hstable, fun h => ?_⟩
      rw [hparts] at h
      cases h

end FluxComposer
