import FluxComposer.Proofs.Query.Rendered
/-
What a line says, by the grammar of the calls. `Says` gives a line its
reading by the texts that stand in it: the word that yields before all
calls, then a bucket, a range and a filter, each with the values of its
leftmost text. Lines are recognized by exactly this (`recognize_eq_iff`).

The readers of Query/Recognizer are not looked at here any more. What they
read is the grammar of Grammar, so a search for a call comes down to where
the texts of the call begin (`call?_eq_some_iff_of_texts`), and the filter
that comparisons make to their one column (`filterText_iff`).
-/
namespace FluxComposer.Recognizer

open Text

-- ========================================================= comparisons

/-- The texts of comparisons that name one column: with a single value, or
with several of which any may match, in their order. -/
inductive OneColumnText : Filter → List Char → Prop
  | single {column : Column} {value : String} {t : List Char}
      (h : ClauseText (column, value) t) :
      OneColumnText ⟨column, .single value⟩ t
  | anyOf {column : Column} {first second : String} {others : List String}
      {t u : List Char} (hfirst : ClauseText (column, first) t)
      (hmore : MoreText ((second :: others).map (column, ·)) u) :
      OneColumnText ⟨column, .anyOf (first :: second :: others)⟩ (t ++ u)

/-- The texts of the call that filters, by the comparisons in it. -/
inductive FilterCallText : Filter → List Char → Prop
  | call {f : Filter} {g₁ g₂ g₃ t : List Char} (h₁ : IsGapRun g₁)
      (h₂ : IsGapRun g₂) (h₃ : IsGapRun g₃) (ht : OneColumnText f t) :
      FilterCallText f ("filter(fn:".toList ++ (g₁ ++ ("(r)".toList
        ++ (g₂ ++ ("=>".toList ++ (g₃ ++ (t ++ [')'])))))))

/-- Comparisons make a filter if they are of one column, each with a value
of its own. -/
theorem filterOf?_eq_some_iff {first : Column × String}
    {more : List (Column × String)} {f : Filter} :
    filterOf? first more = some f ↔ ∃ values,
      more = values.map (first.1, ·)
        ∧ f = ⟨first.1, .ofValues (first.2 :: values)⟩ := by
  constructor
  · intro h
    unfold filterOf? at h
    split at h
    next hsame =>
      refine ⟨more.map (·.2), ?_, (Option.some.inj h).symm⟩
      rw [List.map_map]
      -- each comparison is its value with the one column
      refine (List.map_id more).symm.trans (List.map_congr_left ?_)
      intro c hc
      have hcolumn : c.1 = first.1 :=
        of_decide_eq_true (List.all_eq_true.1 hsame c hc)
      exact Prod.ext hcolumn rfl
    next => cases h
  · rintro ⟨values, rfl, rfl⟩
    simp [filterOf?, Function.comp_def]

/-- The comparisons of a filter are those of its column with its values. -/
theorem filterText_iff {f : Filter} {s : List Char} :
    FilterText f s ↔ FilterCallText f s := by
  constructor
  · rintro @⟨g₁, g₂, g₃, t, u, ⟨column, value⟩, more, f, h₁, h₂, h₃, hfirst,
      hmore, hf⟩
    obtain ⟨values, rfl, rfl⟩ := filterOf?_eq_some_iff.1 hf
    rw [← List.append_assoc t u]
    refine .call h₁ h₂ h₃ ?_
    -- one comparison makes a single value, more of them a list
    cases values with
    | nil =>
        obtain rfl : u = [] := by cases hmore; rfl
        rw [List.append_nil]
        exact .single hfirst
    | cons second others => exact .anyOf hfirst hmore
  · rintro ⟨h₁, h₂, h₃, ht⟩
    cases ht with
    | single hfirst =>
        rw [← List.nil_append [')']]
        exact .call h₁ h₂ h₃ hfirst .nil
          (filterOf?_eq_some_iff.2 ⟨[], rfl, rfl⟩)
    | anyOf hfirst hmore =>
        rw [List.append_assoc]
        exact .call h₁ h₂ h₃ hfirst hmore
          (filterOf?_eq_some_iff.2 ⟨_, rfl, rfl⟩)

-- ============================================================== places

variable {α : Type} {text : α → List Char → Prop} {line : List Char}

/-- A text that says `x` stands in a line right behind `before`. -/
def StandsBehind (text : α → List Char → Prop) (before : List Char)
    (x : α) (line : List Char) : Prop :=
  ∃ t rest, text x t ∧ line = before ++ (t ++ rest)

/-- A text that says `x` stands in a line, and none of its kind begins
further to the left. -/
def IsLeftmost (text : α → List Char → Prop) (x : α)
    (line : List Char) : Prop :=
  ∃ before, StandsBehind text before x line
    ∧ ∀ before' y, StandsBehind text before' y line →
      before.length ≤ before'.length

/-- A search for a call finds what its leftmost text says. -/
theorem call?_eq_some_iff_of_texts
    {read : List Char → Option (α × List Char)}
    (hread : ∀ {s x rest}, read s = some (x, rest)
      ↔ ∃ t, text x t ∧ s = t ++ rest) {x : α} :
    call? read line = some x ↔ IsLeftmost text x line := by
  rw [call?, leftmost_eq_some_iff]
  constructor
  · rintro ⟨before, s, rfl, hs, hleft⟩
    obtain ⟨⟨y, rest⟩, hy, rfl⟩ := Option.map_eq_some_iff.1 hs
    obtain ⟨t, ht, rfl⟩ := hread.1 hy
    refine ⟨before, ⟨t, rest, ht, rfl⟩, ?_⟩
    rintro before' z ⟨t', rest', ht', hline⟩
    -- a text further to the left would have been read
    by_contra hlt
    have hnone := hleft before' (t' ++ rest') hline (Nat.lt_of_not_le hlt)
    rw [hread.2 ⟨t', ht', rfl⟩] at hnone
    cases hnone
  · rintro ⟨before, ⟨t, rest, ht, rfl⟩, hleft⟩
    refine ⟨before, t ++ rest, rfl, by rw [hread.2 ⟨t, ht, rfl⟩]; rfl, ?_⟩
    intro before' s hline hlt
    rw [Option.map_eq_none_iff, Option.eq_none_iff_forall_ne_some]
    rintro ⟨y, rest'⟩ hsome
    obtain ⟨t', ht', rfl⟩ := hread.1 hsome
    exact Nat.not_le_of_lt hlt (hleft before' y ⟨t', rest', ht', hline⟩)

-- ============================================================ readings

/-- No text that says anything stands in a line. -/
def Lacks (text : α → List Char → Prop) (line : List Char) : Prop :=
  ∀ x t, text x t → ¬ t <:+: line

/-- What a line says. A word or a call counts only where none that comes
before it stands anywhere in the line. -/
inductive Says (line : List Char) : Reading → Prop
  | yields (h : "yield".toList <:+: line) : Says line .yields
  | bucket {b : Bucket} (hyield : ¬ "yield".toList <:+: line)
      (h : IsLeftmost BucketText b line) : Says line (.part (.bucket b))
  | dateRange {r : DateRange} (hyield : ¬ "yield".toList <:+: line)
      (hbucket : Lacks BucketText line) (h : IsLeftmost RangeText r line) :
      Says line (.part (.dateRange r))
  | filter {f : Filter} (hyield : ¬ "yield".toList <:+: line)
      (hbucket : Lacks BucketText line) (hrange : Lacks RangeText line)
      (h : IsLeftmost FilterCallText f line) :
      Says line (.part (.filter f))
  | unrecognized (hyield : ¬ "yield".toList <:+: line)
      (hbucket : Lacks BucketText line) (hrange : Lacks RangeText line)
      (hfilter : Lacks FilterCallText line) : Says line .unrecognized

theorem filterCall?_eq_some_iff_callText {s : List Char} {f : Filter}
    {rest : List Char} : filterCall? s = some (f, rest)
      ↔ ∃ t, FilterCallText f t ∧ s = t ++ rest := by
  simp only [filterCall?_eq_some_iff, filterText_iff]

/-- A needle that is not found is no stretch of the text. -/
theorem not_occursIn_iff {needle : List Char} :
    occursIn needle line = false ↔ ¬ needle <:+: line := by
  rw [← occursIn_iff, Bool.not_eq_true]

/-- A line is recognized as exactly what it says. -/
theorem recognize_eq_iff (line : List Char) (r : Reading) :
    recognize line = r ↔ Says line r := by
  have hbucket : ∀ b, call? bucketCall? line = some b
      ↔ IsLeftmost BucketText b line := fun _ =>
    call?_eq_some_iff_of_texts bucketCall?_eq_some_iff
  have hrange : ∀ r, call? rangeCall? line = some r
      ↔ IsLeftmost RangeText r line := fun _ =>
    call?_eq_some_iff_of_texts rangeCall?_eq_some_iff
  have hfilter : ∀ f, call? filterCall? line = some f
      ↔ IsLeftmost FilterCallText f line := fun _ =>
    call?_eq_some_iff_of_texts filterCall?_eq_some_iff_callText
  have hnoBucket : call? bucketCall? line = none ↔ Lacks BucketText line :=
    call?_eq_none_iff_of_texts bucketCall?_eq_some_iff
  have hnoRange : call? rangeCall? line = none ↔ Lacks RangeText line :=
    call?_eq_none_iff_of_texts rangeCall?_eq_some_iff
  have hnoFilter : call? filterCall? line = none
      ↔ Lacks FilterCallText line :=
    call?_eq_none_iff_of_texts filterCall?_eq_some_iff_callText
  cases r with
  | yields =>
      rw [recognize_yields_iff, occursIn_iff]
      refine ⟨.yields, fun h => ?_⟩
      cases h with
      | yields h => exact h
  | part p =>
      cases p with
      | bucket b =>
          rw [recognize_bucket_iff, not_occursIn_iff, hbucket]
          refine ⟨fun ⟨hy, h⟩ => .bucket hy h, fun h => ?_⟩
          cases h with
          | bucket hy h => exact ⟨hy, h⟩
      | dateRange r =>
          rw [recognize_range_iff, not_occursIn_iff, hnoBucket, hrange]
          refine ⟨fun ⟨hy, hb, h⟩ => .dateRange hy hb h, fun h => ?_⟩
          cases h with
          | dateRange hy hb h => exact ⟨hy, hb, h⟩
      | filter f =>
          rw [recognize_filter_iff, not_occursIn_iff, hnoBucket, hnoRange,
            hfilter]
          refine ⟨fun ⟨hy, hb, hr, h⟩ => .filter hy hb hr h, fun h => ?_⟩
          cases h with
          | filter hy hb hr h => exact ⟨hy, hb, hr, h⟩
  | unrecognized =>
      rw [recognize_unrecognized_iff, not_occursIn_iff, hnoBucket, hnoRange,
        hnoFilter]
      refine ⟨fun ⟨hy, hb, hr, hf⟩ => .unrecognized hy hb hr hf,
        fun h => ?_⟩
      cases h with
      | unrecognized hy hb hr hf => exact ⟨hy, hb, hr, hf⟩

/-- The leftmost range that is whole counts, and comparisons with two
columns are none. -/
example :
    recognize ("range(start: , range(start: -2h, stop:-1h ) range(start: 0)"
        ).toList = .part (.dateRange ⟨"-2h", some "-1h "⟩)
      ∧ recognize ("filter(fn: (r) => r._field == \"a\" or "
        ++ "r._measurement == \"b\")").toList = .unrecognized := by
  decide

end FluxComposer.Recognizer
