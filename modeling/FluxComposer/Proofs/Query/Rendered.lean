import FluxComposer.Proofs.Query.Grammar
import FluxComposer.Proofs.Text.Blank
import FluxComposer.Query.Parse
import FluxComposer.Query.Render
import Mathlib.Tactic.MkIffOfInductiveProp
/-
What is read of a rendered query. Each line of it is read on its own, so
a rendered query is read back as soon as every line is: `parse_text`
turns what is known of the lines into what is known of the query, and
the `recognize_*_line` facts say when a line is read as its part.

A line is cut in one way into its fixed pieces and what was written into
it, and the separators are space, comma, quote and closing parenthesis.
An anchor is a word without separators that stands in no fixed piece.
Where an anchor stands in a rendered line, it therefore stands in
something that was written into it.
-/
namespace FluxComposer

open Text Recognizer

-- =============================================================== pieces

/-- A line that pipes into a call, without the indent. -/
def stage (call : List Char) : List Char := "|>".toList ++ ' ' :: call

/-- The second bound of a range as it is rendered, comma included. -/
def stopChars : Option String → List Char
  | some stop => ',' :: (" stop:".toList ++ ' ' :: stop.toList)
  | none => []

/-- The call that bounds the time as it is rendered. -/
def DateRange.chars (r : DateRange) : List Char :=
  "range(start:".toList
    ++ ' ' :: (r.start.toList ++ (stopChars r.stop ++ [')']))

/-- What stands before the first value of a rendered filter. -/
def Column.opening (column : Column) : List Char :=
  "filter(fn: (r) => r.".toList ++ (column.name.toList ++ " == ".toList)

/-- What stands between two values of a rendered filter. -/
def Column.seam (column : Column) : List Char :=
  " or r.".toList ++ (column.name.toList ++ " == ".toList)

/-- The values of a rendered filter behind a first one, up to the end of
the call. -/
def Column.others (column : Column) : List String → List Char
  | [] => [')']
  | v :: vs => column.seam ++ '"' :: (v.toList ++ '"' :: column.others vs)

/-- The call that filters a column as it is rendered. -/
def Column.filterChars (column : Column) (v : String) (vs : List String) :
    List Char :=
  column.opening ++ '"' :: (v.toList ++ '"' :: column.others vs)

theorem others_nil (column : Column) : column.others [] = [')'] := rfl

theorem others_cons (column : Column) (v : String) (vs : List String) :
    column.others (v :: vs)
      = column.seam ++ '"' :: (v.toList ++ '"' :: column.others vs) := rfl

/-- The line of a bucket, cut at the quotes around the name. -/
theorem toList_bucket_line (b : Bucket) :
    b.line.toList = "from(bucket:".toList
      ++ ' ' :: '"' :: (b.name.toList ++ ['"', ')']) := by
  have hline : b.line = "from(bucket: \"" ++ b.name ++ "\")" := rfl
  simp [hline]

/-- The line of a range, indent and call. -/
theorem toList_range_line (r : DateRange) :
    r.line.toList = pipeIndent.toList ++ r.chars := by
  obtain ⟨start, stop⟩ := r
  delta DateRange.line DateRange.chars stopChars
  cases stop <;> simp

theorem toList_clause (column : Column) (v : String) :
    (column.clause v).toList = "r.".toList
      ++ (column.name.toList ++ (" == ".toList
        ++ '"' :: (v.toList ++ ['"']))) := by
  have hclause : column.clause v
      = "r." ++ column.name ++ " == \"" ++ v ++ "\"" := rfl
  simp [hclause]

/-- The comparisons of a rendered filter, from the first one to the end of
the call. -/
theorem toList_clauses (column : Column) (v : String) (vs : List String) :
    (" or ".intercalate ((v :: vs).map column.clause)).toList ++ [')']
      = "r.".toList ++ (column.name.toList ++ (" == ".toList
        ++ '"' :: (v.toList ++ '"' :: column.others vs))) := by
  -- two comparisons are joined by the seam, which repeats the column
  induction vs generalizing v with
  | nil => simp [toList_clause, others_nil]
  | cons w vs ih =>
      rw [List.map_cons, List.map_cons, String.intercalate_cons_cons,
        ← List.map_cons, String.toList_append, List.append_assoc, ih,
        String.toList_append, toList_clause, others_cons]
      delta Column.seam
      simp

/-- An operand holds the values that it was made of, whether as one or as a
list. -/
theorem values_ofValues (values : List String) :
    (Operand.ofValues values).values = values := by
  rcases values with _ | ⟨v, _ | ⟨w, values⟩⟩ <;> rfl

/-- A filter without values has no line. -/
theorem filter_line?_eq_none {f : Filter} (h : f.operand.values = []) :
    f.line? = none := by
  delta Filter.line?
  rw [h]

/-- A filter with values has one. -/
theorem filter_line?_eq_some {f : Filter} {v : String} {vs : List String}
    (h : f.operand.values = v :: vs) :
    f.line? = some (pipeIndent ++ "filter(fn: (r) => "
      ++ " or ".intercalate ((v :: vs).map f.column.clause) ++ ")") := by
  delta Filter.line?
  rw [h]

/-- A filter that has a line has a first value, and the line is its
call. -/
theorem toList_filter_line {f : Filter} {line : String}
    (h : f.line? = some line) : ∃ v vs, f.operand.values = v :: vs ∧
      line.toList = pipeIndent.toList ++ f.column.filterChars v vs := by
  cases hvs : f.operand.values with
  | nil =>
      rw [filter_line?_eq_none hvs] at h
      cases h
  | cons v vs =>
      refine ⟨v, vs, rfl, ?_⟩
      rw [filter_line?_eq_some hvs] at h
      have hclose : ")".toList = [')'] := by decide
      rw [← Option.some.inj h, String.toList_append, hclose,
        String.toList_append, List.append_assoc, toList_clauses]
      delta Column.filterChars Column.opening
      simp

-- ============================================================= anchors

/-- A word without separators that stands in no fixed piece of a stage. -/
@[mk_iff]
structure IsAnchor (needle : List Char) : Prop where
  space : ' ' ∉ needle
  quote : '"' ∉ needle
  comma : ',' ∉ needle
  close : ')' ∉ needle
  empty : occursIn needle [] = false
  indent : occursIn needle "    |>".toList = false
  stop : occursIn needle " stop:".toList = false
  opening : ∀ column : Column, occursIn needle column.opening = false
  seam : ∀ column : Column, occursIn needle column.seam = false

/-- There are two columns to try. -/
instance {P : Column → Prop} [DecidablePred P] : Decidable (∀ c, P c) :=
  decidable_of_iff (P .measurement ∧ P .field)
    ⟨fun | h, .measurement => h.1 | h, .field => h.2, fun h => ⟨h _, h _⟩⟩

instance : DecidablePred IsAnchor :=
  fun needle => decidable_of_iff' _ (isAnchor_iff needle)

theorem isAnchor_yield : IsAnchor "yield".toList := by decide

theorem isAnchor_bucket : IsAnchor "from(bucket:".toList := by decide

theorem isAnchor_range : IsAnchor "range(start:".toList := by decide

/-- A line feed is looked for like a word. -/
theorem isAnchor_lineFeed : IsAnchor ['\n'] := by decide

section Anchor

variable {needle : List Char} (h : IsAnchor needle)
include h

/-- An anchor does not stand in the indent with its pipe. -/
theorem occursIn_indent (call : List Char) :
    occursIn needle (pipeIndent.toList ++ call) = occursIn needle call := by
  have hcut : pipeIndent.toList ++ call = "    |>".toList ++ ' ' :: call := by
    have hindent : pipeIndent = "    |> " := rfl
    simp [hindent]
  rw [hcut, occursIn_append_cons h.space, h.indent, Bool.false_or]

/-- Nor in the pipe alone. -/
theorem occursIn_stage (call : List Char) :
    occursIn needle (stage call) = occursIn needle call := by
  -- the pipe is a stretch of the indent
  have hpipe : occursIn needle "|>".toList = false :=
    not_occursIn_of_stretch ⟨"    ".toList, [], by decide⟩ h.indent
  delta stage
  rw [occursIn_append_cons h.space, hpipe, Bool.false_or]

/-- An anchor stands in a rendered range if it stands in a bound. -/
theorem occursIn_range_chars
    (hliteral : occursIn needle "range(start:".toList = false)
    (r : DateRange) :
    occursIn needle r.chars = (occursIn needle r.start.toList
      || r.stop.any fun stop => occursIn needle stop.toList) := by
  obtain ⟨start, stop⟩ := r
  delta DateRange.chars stopChars
  rw [occursIn_append_cons h.space, hliteral, Bool.false_or]
  cases stop with
  | none =>
      simp only [List.nil_append, Option.any_none, Bool.or_false]
      rw [occursIn_append_cons h.close, h.empty, Bool.or_false]
  | some stop =>
      simp only [List.cons_append, List.append_assoc, Option.any_some]
      rw [occursIn_append_cons h.comma, occursIn_append_cons h.space, h.stop,
        Bool.false_or, occursIn_append_cons h.close, h.empty, Bool.or_false]

/-- A range whose bounds lack an anchor lacks it. -/
theorem not_occursIn_range_chars
    (hliteral : occursIn needle "range(start:".toList = false)
    {r : DateRange} (hstart : occursIn needle r.start.toList = false)
    (hstop : ∀ stop ∈ r.stop, occursIn needle stop.toList = false) :
    occursIn needle r.chars = false := by
  rw [occursIn_range_chars h hliteral, hstart, Bool.false_or]
  cases hr : r.stop with
  | none => rfl
  | some stop => exact hstop stop hr

theorem occursIn_others (column : Column) (vs : List String) :
    occursIn needle (column.others vs)
      = vs.any fun v => occursIn needle v.toList := by
  induction vs with
  | nil =>
      have hclose := occursIn_append_cons h.close [] []
      rw [h.empty] at hclose
      exact hclose
  | cons v vs ih =>
      rw [others_cons, occursIn_append_cons h.quote,
        occursIn_append_cons h.quote, h.seam, ih, Bool.false_or,
        List.any_cons]

/-- An anchor stands in a rendered filter if it stands in a value. -/
theorem occursIn_filterChars (column : Column) (v : String)
    (vs : List String) :
    occursIn needle (column.filterChars v vs)
      = (v :: vs).any fun v => occursIn needle v.toList := by
  delta Column.filterChars
  rw [occursIn_append_cons h.quote, occursIn_append_cons h.quote, h.opening,
    occursIn_others h, Bool.false_or, List.any_cons]

/-- A filter whose values lack an anchor lacks it. -/
theorem not_occursIn_filterChars (column : Column) {v : String}
    {vs : List String}
    (hvs : ∀ w ∈ v :: vs, occursIn needle w.toList = false) :
    occursIn needle (column.filterChars v vs) = false := by
  rw [occursIn_filterChars h, List.any_eq_false]
  exact fun w hw => by simp [hvs w hw]

/-- An anchor stands in a rendered bucket if it stands in its name. -/
theorem occursIn_bucket_line
    (hliteral : occursIn needle "from(bucket:".toList = false)
    (b : Bucket) :
    occursIn needle b.line.toList = occursIn needle b.name.toList := by
  have hquote := occursIn_append_cons h.quote []
  have hclose := occursIn_append_cons h.close [] []
  simp only [h.empty, List.nil_append, Bool.false_or] at hquote hclose
  rw [toList_bucket_line, occursIn_append_cons h.space, hliteral, hquote,
    occursIn_append_cons h.quote, hclose, Bool.false_or, Bool.or_false]

end Anchor

/-- A character is missing where it does not occur. -/
theorem not_mem_iff_not_occursIn {c : Char} {s : List Char} :
    c ∉ s ↔ occursIn [c] s = false := by
  rw [← Bool.not_eq_true, occursIn_iff]
  refine not_congr ⟨fun hc => ?_, fun hc => ?_⟩
  · obtain ⟨u, v, rfl⟩ := List.append_of_mem hc
    exact ⟨u, v, by simp⟩
  · exact hc.subset (List.mem_singleton_self c)

-- ========================================================== line feeds

/-- A bucket is rendered on one line. -/
theorem lineFeed_not_mem_bucket_line {b : Bucket}
    (hname : '\n' ∉ b.name.toList) : '\n' ∉ b.line.toList := by
  rw [not_mem_iff_not_occursIn] at hname ⊢
  rw [occursIn_bucket_line isAnchor_lineFeed (by decide)]
  exact hname

/-- A range is rendered on one line. -/
theorem lineFeed_not_mem_range_line {r : DateRange}
    (hstart : '\n' ∉ r.start.toList)
    (hstop : ∀ stop ∈ r.stop, '\n' ∉ stop.toList) :
    '\n' ∉ r.line.toList := by
  rw [not_mem_iff_not_occursIn, toList_range_line,
    occursIn_indent isAnchor_lineFeed]
  exact not_occursIn_range_chars isAnchor_lineFeed (by decide)
    (not_mem_iff_not_occursIn.1 hstart)
    fun stop hr => not_mem_iff_not_occursIn.1 (hstop stop hr)

/-- A filter is rendered on one line. -/
theorem lineFeed_not_mem_filter_line {f : Filter} {line : String}
    (hvs : ∀ v ∈ f.operand.values, '\n' ∉ v.toList)
    (hline : f.line? = some line) : '\n' ∉ line.toList := by
  obtain ⟨v, vs, hvalues, hchars⟩ := toList_filter_line hline
  rw [hvalues] at hvs
  rw [not_mem_iff_not_occursIn, hchars, occursIn_indent isAnchor_lineFeed]
  exact not_occursIn_filterChars isAnchor_lineFeed f.column fun w hw =>
    not_mem_iff_not_occursIn.1 (hvs w hw)

-- ============================================================ trimming

/-- A text ends as its end does. -/
theorem getLast?_append_of_some {a s : List Char} {c : Char}
    (h : s.getLast? = some c) : (a ++ s).getLast? = some c := by
  rw [List.getLast?_append, h, Option.some_or]

theorem getLast?_cons_of_some {s : List Char} {c d : Char}
    (h : s.getLast? = some c) : (d :: s).getLast? = some c := by
  rw [List.getLast?_cons, h, Option.getD_some]

/-- A line that pipes into a call loses its indent. -/
theorem trim_indent {call : List Char} (h : call.getLast? = some ')') :
    trim (pipeIndent.toList ++ call) = stage call := by
  have hcut : pipeIndent.toList ++ call = "    ".toList ++ stage call := by
    have hindent : pipeIndent = "    |> " := rfl
    delta stage
    simp [hindent]
  have hlast : (stage call).getLast? = some ')' :=
    getLast?_append_of_some (getLast?_cons_of_some h)
  have hhead : (stage call).head? = some '|' := by
    delta stage
    simp
  have hblank : ∀ c ∈ "    ".toList, isBlank c = true :=
    List.all_eq_true.1 (by decide)
  rw [hcut]
  exact trim_append_of_blank hblank hhead (by decide) hlast (by decide)

/-- The line of a bucket has no margins. -/
theorem trim_bucket_line (b : Bucket) :
    trim b.line.toList = b.line.toList := by
  have hlast : b.line.toList.getLast? = some ')' := by
    rw [toList_bucket_line]
    exact getLast?_append_of_some (getLast?_cons_of_some
      (getLast?_cons_of_some (getLast?_append_of_some (by decide))))
  have hhead : b.line.toList.head? = some 'f' := by
    rw [toList_bucket_line]
    simp
  exact trim_append_of_blank (a := []) (by simp) hhead (by decide) hlast
    (by decide)

/-- The line of a range loses its indent. -/
theorem trim_range_line (r : DateRange) :
    trim r.line.toList = stage r.chars := by
  rw [toList_range_line]
  exact trim_indent (getLast?_append_of_some (getLast?_cons_of_some
    (getLast?_append_of_some (getLast?_append_of_some (by decide)))))

theorem getLast?_others (column : Column) (vs : List String) :
    (column.others vs).getLast? = some ')' := by
  induction vs with
  | nil => rfl
  | cons v vs ih =>
      rw [others_cons]
      exact getLast?_append_of_some (getLast?_cons_of_some
        (getLast?_append_of_some (getLast?_cons_of_some ih)))

/-- So does the line of a filter. -/
theorem trim_filter_line (column : Column) (v : String) (vs : List String) :
    trim (pipeIndent.toList ++ column.filterChars v vs)
      = stage (column.filterChars v vs) :=
  trim_indent (getLast?_append_of_some (getLast?_cons_of_some
    (getLast?_append_of_some (getLast?_cons_of_some
      (getLast?_others column vs)))))

-- ============================================================= readings

/-- The precedence of the calls, taken apart once: what each reading of a
line says of the calls in it. -/
theorem recognize_iff (line : List Char) :
    (∀ b, recognize line = .part (.bucket b) ↔
      occursIn "yield".toList line = false
        ∧ call? bucketCall? line = some b)
    ∧ (∀ r, recognize line = .part (.dateRange r) ↔
      occursIn "yield".toList line = false ∧ call? bucketCall? line = none
        ∧ call? rangeCall? line = some r)
    ∧ (∀ f, recognize line = .part (.filter f) ↔
      occursIn "yield".toList line = false ∧ call? bucketCall? line = none
        ∧ call? rangeCall? line = none ∧ call? filterCall? line = some f)
    ∧ (recognize line = .unrecognized ↔
      occursIn "yield".toList line = false ∧ call? bucketCall? line = none
        ∧ call? rangeCall? line = none
        ∧ call? filterCall? line = none)
    ∧ (recognize line = .yields ↔ occursIn "yield".toList line = true) := by
  delta recognize
  generalize occursIn "yield".toList line = yields
  cases yields with
  | true => simp
  | false =>
      cases call? bucketCall? line with
      | some b => simp
      | none =>
          cases call? rangeCall? line with
          | some r => simp
          | none => cases call? filterCall? line <;> simp

/-- A line is a bucket if it does not yield and has the call. -/
theorem recognize_bucket_iff {line : List Char} {b : Bucket} :
    recognize line = .part (.bucket b) ↔
      occursIn "yield".toList line = false
        ∧ call? bucketCall? line = some b :=
  (recognize_iff line).1 b

/-- A line is a range if it does not yield, has the call, and has none
that comes before. -/
theorem recognize_range_iff {line : List Char} {r : DateRange} :
    recognize line = .part (.dateRange r) ↔
      occursIn "yield".toList line = false
        ∧ call? bucketCall? line = none
        ∧ call? rangeCall? line = some r :=
  (recognize_iff line).2.1 r

/-- A line is a filter if it does not yield, has the call, and has none
that comes before. -/
theorem recognize_filter_iff {line : List Char} {f : Filter} :
    recognize line = .part (.filter f) ↔
      occursIn "yield".toList line = false
        ∧ call? bucketCall? line = none ∧ call? rangeCall? line = none
        ∧ call? filterCall? line = some f :=
  (recognize_iff line).2.2.1 f

/-- A line is not recognized if it neither yields nor has a call. -/
theorem recognize_unrecognized_iff {line : List Char} :
    recognize line = .unrecognized ↔
      occursIn "yield".toList line = false
        ∧ call? bucketCall? line = none ∧ call? rangeCall? line = none
        ∧ call? filterCall? line = none :=
  (recognize_iff line).2.2.2.1

/-- A line yields if the word stands in it. -/
theorem recognize_yields_iff {line : List Char} :
    recognize line = .yields ↔ occursIn "yield".toList line = true :=
  (recognize_iff line).2.2.2.2

/-- Calls are searched behind the pipe. -/
theorem call?_stage {α : Type}
    {read : List Char → Option (α × List Char)} {literal : List Char}
    (hread : BeginsWith literal read) (hspace : ' ' ∉ literal)
    (hpipe : occursIn literal "|>".toList = false) (call : List Char) :
    call? read (stage call) = call? read call := by
  delta stage
  exact call?_append_cons hread hspace hpipe call

theorem call?_bucket_stage (call : List Char) :
    call? bucketCall? (stage call) = call? bucketCall? call :=
  call?_stage bucketCall?_beginsWith (by decide) (by decide) call

theorem call?_range_stage (call : List Char) :
    call? rangeCall? (stage call) = call? rangeCall? call :=
  call?_stage rangeCall?_beginsWith (by decide) (by decide) call

theorem call?_filter_stage (call : List Char) :
    call? filterCall? (stage call) = call? filterCall? call :=
  call?_stage filterCall?_beginsWith (by decide) (by decide) call

/-- The line of a bucket is a text of it by the grammar. -/
theorem bucketText_line {b : Bucket} (hname : IsQuotable b.name.toList) :
    BucketText (.named b.name) b.line.toList := by
  have ht := BucketText.call isGapRun_space hname
  rw [toList_bucket_line]
  exact ht

/-- The line of a bucket is read as the bucket, with its name as id. -/
theorem recognize_bucket_line {b : Bucket}
    (hname : IsQuotable b.name.toList)
    (hyield : occursIn "yield".toList b.name.toList = false) :
    recognize (trim b.line.toList) = .part (.bucket (.named b.name)) := by
  rw [trim_bucket_line, recognize_bucket_iff,
    occursIn_bucket_line isAnchor_yield (by decide)]
  exact ⟨hyield, call?_of_bucketText (bucketText_line hname)⟩

/-- The call of a rendered range is a text of the range. -/
theorem rangeText_chars {r : DateRange} (hstart : IsStart r.start.toList)
    (hstop : ∀ stop ∈ r.stop, IsStop stop.toList) :
    RangeText r r.chars := by
  obtain ⟨start, stop⟩ := r
  delta DateRange.chars stopChars
  cases stop with
  | none => exact .since isGapRun_space hstart
  | some stop =>
      have ht := StopText.bound isGapRun_nil isGapRun_space isGapRun_space
        (hstop stop rfl)
      exact .between isGapRun_space hstart ht

/-- The line of a range is read as the range, unless a bucket is read in
it. -/
theorem recognize_range_line {r : DateRange}
    (hstart : IsStart r.start.toList)
    (hstop : ∀ stop ∈ r.stop, IsStop stop.toList)
    (hyield : occursIn "yield".toList r.chars = false)
    (hbucket : call? bucketCall? r.chars = none) :
    recognize (trim r.line.toList) = .part (.dateRange r) := by
  rw [trim_range_line, recognize_range_iff, occursIn_stage isAnchor_yield,
    call?_bucket_stage, call?_range_stage]
  exact ⟨hyield, hbucket,
    call?_of_rangeText (rangeText_chars hstart hstop)⟩

theorem clauseText_chars (column : Column) {v : String}
    (hv : IsQuotable v.toList) :
    ClauseText (column, v) ("r.".toList ++ (column.name.toList
      ++ (" == ".toList ++ '"' :: (v.toList ++ ['"'])))) := by
  have ht : ClauseText (column, v) _ :=
    .equals isGapRun_space isGapRun_space hv
  simpa using ht

/-- The values of a rendered filter behind a first one are its further
comparisons. -/
theorem exists_moreText_others (column : Column) {vs : List String}
    (hvs : ∀ v ∈ vs, IsQuotable v.toList) :
    ∃ u, MoreText (vs.map (column, ·)) u
      ∧ column.others vs = u ++ [')'] := by
  induction vs with
  | nil => exact ⟨[], .nil, rfl⟩
  | cons v vs ih =>
      obtain ⟨u, hu, hothers⟩ :=
        ih fun w hw => hvs w (List.mem_cons_of_mem _ hw)
      have hv := clauseText_chars column (hvs v (List.mem_cons_self ..))
      refine ⟨_, .cons (by simp) isGapRun_space (by simp) isGapRun_space hv
        hu, ?_⟩
      rw [others_cons, hothers]
      delta Column.seam
      simp

/-- The call of a rendered filter is a text of the filter. -/
theorem filterText_chars (column : Column) {v : String} {vs : List String}
    (hvs : ∀ w ∈ v :: vs, IsQuotable w.toList) :
    FilterText ⟨column, .ofValues (v :: vs)⟩ (column.filterChars v vs) := by
  obtain ⟨u, hu, hothers⟩ := exists_moreText_others column
    fun w hw => hvs w (List.mem_cons_of_mem _ hw)
  have hv := clauseText_chars column (hvs v (List.mem_cons_self ..))
  have hf : filterOf? (column, v) (vs.map (column, ·))
      = some ⟨column, .ofValues (v :: vs)⟩ := by
    simp [filterOf?, Function.comp_def]
  have ht := FilterText.call isGapRun_space isGapRun_space isGapRun_space hv
    hu hf
  delta Column.filterChars Column.opening
  rw [hothers]
  simpa using ht

/-- The line of a filter is read as the filter, unless a bucket or a range
is read in it. -/
theorem recognize_filter_line (column : Column) {v : String}
    {vs : List String} (hvs : ∀ w ∈ v :: vs, IsQuotable w.toList)
    (hyield : occursIn "yield".toList (column.filterChars v vs) = false)
    (hbucket : call? bucketCall? (column.filterChars v vs) = none)
    (hrange : call? rangeCall? (column.filterChars v vs) = none) :
    recognize (stage (column.filterChars v vs))
      = .part (.filter ⟨column, .ofValues (v :: vs)⟩) := by
  rw [recognize_filter_iff, occursIn_stage isAnchor_yield,
    call?_bucket_stage, call?_range_stage, call?_filter_stage]
  exact ⟨hyield, hbucket, hrange, call?_of_filterText
    (filterText_chars column hvs)⟩

-- ============================================================== queries

/-- A foreign stage keeps a text raw. -/
theorem parse_of_foreign {t : String}
    (h : (statements t.toList).any Query.isForeignStage = true) :
    Query.parse t = .raw t := by
  unfold Query.parse
  exact if_pos h

/-- A text without foreign stages is read line by line. -/
theorem parse_of_lines {t : String}
    (h : (statements t.toList).any Query.isForeignStage = false) :
    Query.parse t
      = .ofParts ((statements t.toList).filterMap Query.linePart?) := by
  unfold Query.parse
  exact if_neg (by rw [h]; exact Bool.false_ne_true)

/-- A text that is kept raw is the text of its query. -/
theorem text_of_isRaw {t : String} (h : (Query.parse t).isRaw = true) :
    (Query.parse t).text = t := by
  cases hforeign : (statements t.toList).any Query.isForeignStage with
  | true =>
      rw [parse_of_foreign hforeign]
      rfl
  | false =>
      rw [parse_of_lines hforeign] at h
      cases h

/-- The lines of parts are read one by one. -/
theorem filterMap_linePart? {parts : List Part} {read : Part → Part}
    (h : ∀ p ∈ parts, ∀ line, p.line? = some line →
      recognize (trim line.toList) = .part (read p)) :
    ((parts.filterMap Part.line?).map fun line => trim line.toList).filterMap
        Query.linePart?
      = (parts.filter fun p => p.line?.isSome).map read := by
  induction parts with
  | nil => rfl
  | cons p parts ih =>
      have hrest := ih fun q hq => h q (List.mem_cons_of_mem _ hq)
      -- a part without a line is not among the lines, nor among the parts
      -- that come back
      cases hline : p.line? with
      | none => simpa [hline] using hrest
      | some line =>
          have hp := h p (List.mem_cons_self ..) line hline
          have hpart : Query.linePart? (trim line.toList) = some (read p) := by
            simp [Query.linePart?, hp]
          simp only [List.filterMap_cons, hline, List.map_cons, hpart, hrest,
            List.filter_cons, Option.isSome_some, if_true]

/-- The last line of a pipeline is no part. -/
theorem recognize_yieldLine :
    recognize (trim yieldLine.toList) = .yields := by
  decide

theorem lines_eq_nil {q : Query} (h : q.parts.filterMap Part.line? = []) :
    q.lines = [] := by
  unfold Query.lines
  rw [h]

theorem lines_of_ne_nil {q : Query} (h : q.parts.filterMap Part.line? ≠ []) :
    q.lines = q.parts.filterMap Part.line? ++ [yieldLine] := by
  unfold Query.lines
  cases hl : q.parts.filterMap Part.line? with
  | nil => exact absurd hl h
  | cons line lines => rfl

/-- A line of a pipeline is the line of a part, or the last one. -/
theorem mem_lines {q : Query} {line : String} (h : line ∈ q.lines) :
    (∃ p ∈ q.parts, p.line? = some line) ∨ line = yieldLine := by
  by_cases hnil : q.parts.filterMap Part.line? = []
  · rw [lines_eq_nil hnil] at h
    cases h
  · rw [lines_of_ne_nil hnil, List.mem_append, List.mem_singleton] at h
    exact h.imp List.mem_filterMap.1 id

/-- The text of a structured query is put together from its lines. -/
theorem toList_text {q : Query} (hraw : q.rawText = none) :
    q.text.toList = ['\n'].intercalate (q.lines.map String.toList) := by
  unfold Query.text
  rw [hraw, Option.getD_none, String.toList_intercalate]
  rfl

/-- The statements of a rendered query are its lines, trimmed. -/
theorem statements_text {q : Query} (hraw : q.rawText = none)
    (h : ∀ line ∈ q.lines, '\n' ∉ line.toList ∧ trim line.toList ≠ []) :
    statements q.text.toList = q.lines.map fun line => trim line.toList := by
  have hfeed : ∀ chars ∈ q.lines.map String.toList, '\n' ∉ chars := by
    intro chars hmem
    obtain ⟨line, hline, rfl⟩ := List.mem_map.1 hmem
    exact (h line hline).1
  rw [toList_text hraw, statements_intercalate hfeed, List.map_map]
  refine List.filter_eq_self.2 fun chars hmem => ?_
  obtain ⟨line, hline, rfl⟩ := List.mem_map.1 hmem
  simpa using (h line hline).2

/-- A rendered query whose lines are read as parts is read as these
parts. -/
theorem parse_text {q : Query} {read : Part → Part} (hraw : q.rawText = none)
    (h : ∀ p ∈ q.parts, ∀ line, p.line? = some line →
      '\n' ∉ line.toList ∧ recognize (trim line.toList) = .part (read p)) :
    Query.parse q.text
      = .ofParts ((q.parts.filter fun p => p.line?.isSome).map read) := by
  have hlines : ∀ line ∈ q.lines, '\n' ∉ line.toList
      ∧ recognize (trim line.toList) ≠ .unrecognized := by
    intro line hmem
    rcases mem_lines hmem with ⟨p, hp, hline⟩ | rfl
    · obtain ⟨hfeed, hread⟩ := h p hp line hline
      refine ⟨hfeed, ?_⟩
      rw [hread]
      exact Reading.noConfusion
    · refine ⟨by decide, ?_⟩
      rw [recognize_yieldLine]
      exact Reading.noConfusion
  have hstatements : statements q.text.toList
      = q.lines.map fun line => trim line.toList := by
    refine statements_text hraw fun line hmem =>
      ⟨(hlines line hmem).1, fun hempty => (hlines line hmem).2 ?_⟩
    rw [hempty]
    decide
  have hforeign : (statements q.text.toList).any
      Query.isForeignStage = false := by
    rw [hstatements, List.any_eq_false]
    intro chars hmem
    obtain ⟨line, hline, rfl⟩ := List.mem_map.1 hmem
    simp [Query.isForeignStage, (hlines line hline).2]
  have hreads :=
    filterMap_linePart? fun p hp line hline => (h p hp line hline).2
  rw [parse_of_lines hforeign, hstatements, ← hreads]
  by_cases hnil : q.parts.filterMap Part.line? = []
  · rw [lines_eq_nil hnil, hnil]
  · have hyield : Query.linePart? (trim yieldLine.toList) = none := by
      simp [Query.linePart?, recognize_yieldLine]
    have hlast : [trim yieldLine.toList].filterMap Query.linePart? = [] := by
      rw [List.filterMap_cons_none hyield, List.filterMap_nil]
    -- behind the lines of the parts stands the one that yields
    rw [lines_of_ne_nil hnil, List.map_append, List.filterMap_append,
      List.map_singleton, hlast, List.append_nil]

end FluxComposer
