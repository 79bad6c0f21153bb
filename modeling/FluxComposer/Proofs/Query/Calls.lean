import FluxComposer.Proofs.Query.Stability
/-
Which calls of a text survive reading and rendering. The calls of a text
are its source calls and the functions that it pipes into, in order, as
far as they stand outside of quotes. A reader that takes a text line by
line, and one call from each line, does not see all of them: what else
stands on the line of a call is lost, and a call that is read without a
pipe gains one.

The scan of a text carries one bit along, whether it is between quotes.
A line is scanned on its own given that bit (`callsFrom_append_cons`),
and `Part.callsFrom` is what the scan finds in the line of a part. Only
the bounds of a range can hold a quote, so only they can leave the bit
changed.

- `calls_parse_of_structured`: a text that is read as parts has the calls
  that are kept, and no others, once it is rendered.
- `isForeignStage_iff`: what it takes for a text to be kept as it is, in
  terms of what stands in its lines.
- `calls_parse_of_tidy`: no call is lost where every line has the call it
  is read as and no others.
-/
namespace FluxComposer

open Text Recognizer

-- =============================================================== calls

namespace Text

/-- The characters of the name of a function, with the dots of its
package. -/
def isNameChar (c : Char) : Bool := c == '_' || c == '.' || c.isAlphanum

/-- The name that follows, behind blank characters if there are any. -/
def nameAhead (s : List Char) : List Char :=
  (s.dropWhile isBlank).takeWhile isNameChar

/-- The function that a pipe leads to. Yielding does not count. -/
def pipedCall? (s : List Char) : Option String :=
  match nameAhead s with
  | [] => none
  | name => if name = "yield".toList then none else some (String.ofList name)

/-- The call that begins at the head of a text. -/
def callAt? (s : List Char) : Option String :=
  match after "from(".toList s with
  | some _ => some "from"
  | none => (after "|>".toList s).bind pipedCall?

/-- The calls of a text, given whether it begins between quotes. -/
def callsFrom (inside : Bool) : List Char → List String
  | [] => []
  | c :: s =>
    if c = '"' then callsFrom (!inside) s
    else if inside then callsFrom inside s
    else (callAt? (c :: s)).toList ++ callsFrom inside s

/-- Whether a text ends between quotes. -/
def quoteState (inside : Bool) : List Char → Bool
  | [] => inside
  | c :: s => quoteState (if c = '"' then !inside else inside) s

/-- The calls of a text. -/
def calls (t : String) : List String := callsFrom false t.toList

/-- Whether no call reaches across a character. -/
def isCut (c : Char) : Bool :=
  !"from(|>".toList.contains c && !isBlank c && !isNameChar c

/-- Whether a quote or a call can begin with a character. -/
def canStart (c : Char) : Bool := c == '"' || c == 'f' || c == '|'

variable {a s : List Char} {q : Char}

/-- A name ends before a character that it cannot hold, if the blank
characters before the name end there at the latest. -/
theorem nameAhead_append_cons (hname : isNameChar q = false)
    (hstop : isBlank q = false ∨ ∃ c ∈ a, isBlank c = false)
    (s : List Char) : nameAhead (a ++ q :: s) = nameAhead a := by
  have htake : ∀ b : List Char, (b ++ q :: s).takeWhile isNameChar
      = b.takeWhile isNameChar := by
    intro b
    induction b with
    | nil => simp [hname]
    | cons c b ih =>
        by_cases hc : isNameChar c = true
        · simp [hc, ih]
        · simp [hc]
  unfold nameAhead
  induction a with
  | nil =>
      rcases hstop with hblank | ⟨c, hc, -⟩
      · simp [hblank, hname]
      · cases hc
  | cons c a ih =>
      by_cases hc : isBlank c = true
      · have hstop' : isBlank q = false ∨ ∃ c ∈ a, isBlank c = false := by
          rcases hstop with hblank | ⟨d, hd, hblank⟩
          · exact Or.inl hblank
          · rcases List.mem_cons.1 hd with rfl | hd
            · rw [hc] at hblank
              cases hblank
            · exact Or.inr ⟨d, hd, hblank⟩
        simpa [hc] using ih hstop'
      · simpa [hc] using htake (c :: a)

/-- A call is the same whatever follows a character that no call reaches
across. -/
theorem callAt?_append_cons (hq : isCut q = true) (a s : List Char) :
    callAt? (a ++ q :: s) = callAt? a := by
  simp only [isCut, Bool.and_eq_true, Bool.not_eq_true'] at hq
  obtain ⟨⟨hliteral, hblank⟩, hname⟩ := hq
  have hmem : q ∉ "from(|>".toList := by
    simpa using hliteral
  have hfrom : q ∉ "from(".toList := fun hm =>
    hmem (List.mem_append_left "|>".toList hm)
  have hpipe : q ∉ "|>".toList := fun hm =>
    hmem (List.mem_append_right "from(".toList hm)
  unfold callAt?
  rw [after_append_cons hfrom, after_append_cons hpipe]
  cases after "from(".toList a with
  | some _ => rfl
  | none =>
      cases after "|>".toList a with
      | none => rfl
      | some b =>
          show pipedCall? (b ++ q :: s) = pipedCall? b
          unfold pipedCall?
          rw [nameAhead_append_cons hname (Or.inl hblank)]

/-- A quote turns the bit over and is part of no call. -/
theorem callsFrom_quote (inside : Bool) (s : List Char) :
    callsFrom inside ('"' :: s) = callsFrom (!inside) s := by
  rw [callsFrom, if_pos rfl]

/-- Between quotes every other character is passed over. -/
theorem callsFrom_inside (hq : q ≠ '"') (s : List Char) :
    callsFrom true (q :: s) = callsFrom true s := by
  rw [callsFrom, if_neg hq, if_pos rfl]

/-- Outside of quotes a call may begin at every character. -/
theorem callsFrom_outside (hq : q ≠ '"') (s : List Char) :
    callsFrom false (q :: s)
      = (callAt? (q :: s)).toList ++ callsFrom false s := by
  rw [callsFrom, if_neg hq, if_neg Bool.false_ne_true]

/-- A text is scanned up to a place that no call reaches across, and from
there with the bit that the scan has left. -/
theorem callsFrom_append_of_callAt?
    (h : ∀ w, w <:+ a → w ≠ [] → callAt? (w ++ s) = callAt? w)
    (inside : Bool) : callsFrom inside (a ++ s)
      = callsFrom inside a ++ callsFrom (quoteState inside a) s := by
  -- the bit is generalized, since a quote at the head turns it over
  induction a generalizing inside with
  | nil => rfl
  | cons c a ih =>
      have hcall := h (c :: a) List.suffix_rfl (List.cons_ne_nil c a)
      have hrest := ih fun w hw => h w (hw.trans (List.suffix_cons c a))
      rw [List.cons_append] at hcall
      rw [List.cons_append, quoteState]
      by_cases hc : c = '"'
      · rw [if_pos hc, hc, callsFrom_quote, callsFrom_quote]
        exact hrest (!inside)
      · rw [if_neg hc]
        cases inside with
        | true =>
            rw [callsFrom_inside hc, callsFrom_inside hc]
            exact hrest true
        | false =>
            rw [callsFrom_outside hc, callsFrom_outside hc, hcall, hrest,
              List.append_assoc]

/-- In particular a line can be cut before any character that stands in no
call. -/
theorem callsFrom_append_cons (hq : isCut q = true) (inside : Bool)
    (a s : List Char) : callsFrom inside (a ++ q :: s)
      = callsFrom inside a
        ++ callsFrom (quoteState inside a) (q :: s) :=
  callsFrom_append_of_callAt? (fun w _ _ => callAt?_append_cons hq w s)
    inside

/-- A stretch in which neither a quote nor a call can begin is passed
over. -/
theorem callsFrom_append (ha : a.any canStart = false)
    (inside : Bool) (s : List Char) :
    callsFrom inside (a ++ s) = callsFrom inside s := by
  induction a with
  | nil => rfl
  | cons c a ih =>
      rw [List.any_cons, Bool.or_eq_false_iff] at ha
      obtain ⟨hc, ha⟩ := ha
      simp only [canStart, Bool.or_eq_false_iff, beq_eq_false_iff_ne] at hc
      obtain ⟨⟨hquote, hfrom⟩, hpipe⟩ := hc
      have hrest := ih ha
      have hcall : callAt? (c :: (a ++ s)) = none := by
        have hfrom' : after "from(".toList (c :: (a ++ s)) = none :=
          if_neg (Ne.symm hfrom)
        have hpipe' : after "|>".toList (c :: (a ++ s)) = none :=
          if_neg (Ne.symm hpipe)
        unfold callAt?
        rw [hfrom', hpipe']
        rfl
      rw [List.cons_append]
      cases inside with
      | true =>
          rw [callsFrom_inside hquote]
          exact hrest
      | false =>
          rw [callsFrom_outside hquote, hcall]
          exact hrest

/-- A quote-free text leaves the bit as it is. -/
theorem quoteState_of_not_mem (ha : '"' ∉ a) (inside : Bool) :
    quoteState inside a = inside := by
  induction a with
  | nil => rfl
  | cons c a ih =>
      have hc : c ≠ '"' := fun e => ha (e ▸ List.mem_cons_self ..)
      rw [quoteState, if_neg hc]
      exact ih fun hm => ha (List.mem_cons_of_mem _ hm)

/-- Between quotes there are no calls. -/
theorem callsFrom_true_of_not_mem (ha : '"' ∉ a) :
    callsFrom true a = [] := by
  induction a with
  | nil => rfl
  | cons c a ih =>
      have hc : c ≠ '"' := fun e => ha (e ▸ List.mem_cons_self ..)
      rw [callsFrom_inside hc]
      exact ih fun hm => ha (List.mem_cons_of_mem _ hm)

/-- A quoted value is scanned if the scan takes its quotes the other way
around. -/
theorem callsFrom_quoted {v : List Char} (hv : '"' ∉ v) (inside : Bool)
    (s : List Char) : callsFrom inside ('"' :: (v ++ '"' :: s))
      = (if inside then callsFrom false v else [])
        ++ callsFrom inside s := by
  rw [callsFrom_quote, callsFrom_append_cons (by decide),
    quoteState_of_not_mem hv, callsFrom_quote, Bool.not_not]
  cases inside with
  | true => rfl
  | false =>
      rw [Bool.not_false, callsFrom_true_of_not_mem hv]
      rfl

end Text

-- =============================================================== parts

/-- The calls in the line of a part, given whether the line begins
between quotes. -/
def Part.callsFrom (inside : Bool) : Part → List String
  | .bucket b =>
    if inside then Text.callsFrom false b.name.toList else ["from"]
  | .dateRange r =>
    (if inside then [] else ["range"])
      ++ (Text.callsFrom inside r.start.toList ++ match r.stop with
        | some stop => Text.callsFrom
            (Text.quoteState inside r.start.toList) stop.toList
        | none => [])
  | .filter f =>
    if inside then
      f.operand.values.flatMap fun v => Text.callsFrom false v.toList
    else ["filter"]

/-- Whether the line of a part ends between quotes. -/
def Part.quoteState (inside : Bool) : Part → Bool
  | .dateRange r =>
    let bit := Text.quoteState inside r.start.toList
    match r.stop with
    | some stop => Text.quoteState bit stop.toList
    | none => bit
  | _ => inside

/-- The calls of the lines of parts. -/
def Part.allCallsFrom (inside : Bool) : List Part → List String
  | [] => []
  | p :: parts =>
    p.callsFrom inside ++ allCallsFrom (p.quoteState inside) parts

/-- What stands between the quotes of a part holds none. -/
def Part.IsQuoteFree : Part → Prop
  | .bucket b => '"' ∉ b.name.toList
  | .dateRange _ => True
  | .filter f => ∀ v ∈ f.operand.values, '"' ∉ v.toList

/-- The end of a line of a part is passed over. -/
theorem callsFrom_line_end (inside : Bool) (s : List Char) :
    callsFrom inside (')' :: '\n' :: s) = callsFrom inside s :=
  callsFrom_append (a := [')', '\n']) (by decide) inside s

/-- So is the end of a name, with the space behind it. -/
theorem callsFrom_colon (inside : Bool) (s : List Char) :
    callsFrom inside (':' :: ' ' :: s) = callsFrom inside s :=
  callsFrom_append (a := [':', ' ']) (by decide) inside s

/-- The line of a bucket has its source call. Read between quotes, what
counts of it is what stands between its own. -/
theorem callsFrom_bucket_line {b : Bucket} (hb : '"' ∉ b.name.toList)
    (inside : Bool) (s : List Char) :
    callsFrom inside (b.line.toList ++ '\n' :: s)
      = (Part.bucket b).callsFrom inside ++ callsFrom inside s := by
  have hcut : b.line.toList ++ '\n' :: s = "from(bucket: ".toList
      ++ '"' :: (b.name.toList ++ '"' :: ')' :: '\n' :: s) := by
    rw [toList_bucket_line]
    simp
  have hfront : callsFrom inside "from(bucket: ".toList
      = if inside then [] else ["from"] := by
    cases inside <;> decide
  have hbit : quoteState inside "from(bucket: ".toList = inside :=
    quoteState_of_not_mem (by decide) inside
  -- up to the quote the line is fixed text, and a quote cuts every call
  rw [hcut, callsFrom_append_cons (by decide), hfront, hbit,
    callsFrom_quoted hb, callsFrom_line_end]
  cases inside <;> rfl

/-- The line of a range has its call and those of its bounds, which are
copied into it without quotes around them. -/
theorem callsFrom_range_line (r : DateRange) (inside : Bool)
    (s : List Char) : callsFrom inside (r.line.toList ++ '\n' :: s)
      = (Part.dateRange r).callsFrom inside
        ++ callsFrom ((Part.dateRange r).quoteState inside) s := by
  obtain ⟨start, stop⟩ := r
  have hcut : (DateRange.mk start stop).line.toList ++ '\n' :: s
      = (pipeIndent.toList ++ "range(start".toList)
        ++ ':' :: ' ' :: (start.toList
          ++ (stopChars stop ++ ')' :: '\n' :: s)) := by
    rw [toList_range_line]
    delta DateRange.chars
    simp
  have hfront : callsFrom inside (pipeIndent.toList ++ "range(start".toList)
      = if inside then [] else ["range"] := by
    cases inside <;> decide
  have hbit : quoteState inside (pipeIndent.toList ++ "range(start".toList)
      = inside := quoteState_of_not_mem (by decide) inside
  rw [hcut, callsFrom_append_cons (by decide), hfront, hbit,
    callsFrom_colon]
  delta stopChars
  cases stop with
  | none =>
      show _ ++ callsFrom inside (start.toList ++ ')' :: '\n' :: s) = _
      rw [callsFrom_append_cons (by decide), callsFrom_line_end]
      simp [Part.callsFrom, Part.quoteState]
  | some stop =>
      have hstop : start.toList ++ ((',' :: (" stop:".toList
            ++ ' ' :: stop.toList)) ++ ')' :: '\n' :: s)
          = start.toList ++ ',' :: (" stop: ".toList
            ++ (stop.toList ++ ')' :: '\n' :: s)) := by
        simp
      -- the word before the second bound is passed over whatever the first
      -- one has left of the bit
      have hword : ∀ bit, callsFrom bit (',' :: (" stop: ".toList
          ++ (stop.toList ++ ')' :: '\n' :: s)))
          = callsFrom bit (stop.toList ++ ')' :: '\n' :: s) := fun bit =>
        callsFrom_append (a := ',' :: " stop: ".toList) (by decide) bit _
      show _ ++ callsFrom inside (start.toList ++ ((',' :: (" stop:".toList
            ++ ' ' :: stop.toList)) ++ ')' :: '\n' :: s)) = _
      rw [hstop, callsFrom_append_cons (by decide), hword,
        callsFrom_append_cons (by decide), callsFrom_line_end]
      simp [Part.callsFrom, Part.quoteState]

/-- The further values of a filter add calls only where the scan takes the
quotes around them the other way around. -/
theorem callsFrom_others (column : Column) {vs : List String}
    (hvs : ∀ v ∈ vs, '"' ∉ v.toList) (inside : Bool) (s : List Char) :
    callsFrom inside (column.others vs ++ '\n' :: s)
      = (if inside then vs.flatMap fun v => callsFrom false v.toList else [])
        ++ callsFrom inside s := by
  induction vs with
  | nil =>
      rw [others_nil]
      show callsFrom inside (')' :: '\n' :: s) = _
      rw [callsFrom_line_end]
      cases inside <;> rfl
  | cons v vs ih =>
      -- what stands between two values is the same for all of them, so its
      -- scan is one small computation for each column
      have hseam : callsFrom inside column.seam = [] := by
        cases column <;> cases inside <;> decide
      have hbit : quoteState inside column.seam = inside :=
        quoteState_of_not_mem (by cases column <;> decide) inside
      have hcut : column.others (v :: vs) ++ '\n' :: s = column.seam
          ++ '"' :: (v.toList ++ '"' :: (column.others vs ++ '\n' :: s)) := by
        rw [others_cons]
        simp
      rw [hcut, callsFrom_append_cons (by decide), hseam, hbit,
        callsFrom_quoted (hvs v (List.mem_cons_self ..)),
        ih fun w hw => hvs w (List.mem_cons_of_mem _ hw)]
      cases inside <;> simp

/-- The line of a filter has its call, and its values if it begins between
quotes. -/
theorem callsFrom_filter_line {f : Filter} {line : String}
    (hvs : ∀ v ∈ f.operand.values, '"' ∉ v.toList)
    (hline : f.line? = some line) (inside : Bool) (s : List Char) :
    callsFrom inside (line.toList ++ '\n' :: s)
      = (Part.filter f).callsFrom inside ++ callsFrom inside s := by
  obtain ⟨v, vs, hvalues, hchars⟩ := toList_filter_line hline
  have hcut : line.toList ++ '\n' :: s
      = (pipeIndent.toList ++ f.column.opening) ++ '"' :: (v.toList
        ++ '"' :: (f.column.others vs ++ '\n' :: s)) := by
    rw [hchars]
    delta Column.filterChars
    simp
  have hfront : callsFrom inside (pipeIndent.toList ++ f.column.opening)
      = if inside then [] else ["filter"] := by
    cases f.column <;> cases inside <;> decide
  have hbit : quoteState inside (pipeIndent.toList ++ f.column.opening)
      = inside :=
    quoteState_of_not_mem (by cases f.column <;> decide) inside
  rw [hvalues] at hvs
  rw [hcut, callsFrom_append_cons (by decide), hfront, hbit,
    callsFrom_quoted (hvs v (List.mem_cons_self ..)),
    callsFrom_others f.column fun w hw => hvs w (List.mem_cons_of_mem _ hw)]
  cases inside <;> simp [Part.callsFrom, hvalues]

/-- What the scan finds in the line of a part, and how it goes on. -/
theorem callsFrom_line {p : Part} {line : String} (hp : p.IsQuoteFree)
    (hline : p.line? = some line) (inside : Bool) (s : List Char) :
    callsFrom inside (line.toList ++ '\n' :: s)
      = p.callsFrom inside ++ callsFrom (p.quoteState inside) s := by
  cases p with
  | bucket b =>
      obtain rfl : b.line = line := Option.some.inj hline
      exact callsFrom_bucket_line hp inside s
  | dateRange r =>
      obtain rfl : r.line = line := Option.some.inj hline
      exact callsFrom_range_line r inside s
  | filter f => exact callsFrom_filter_line hp hline inside s

-- ============================================================= queries

/-- The calls of a text that are left if it is read line by line and one
call is taken from each line. -/
def keptCalls (t : String) : List String :=
  Part.allCallsFrom false ((statements t.toList).filterMap Query.linePart?)

/-- The last line of a pipeline has no call that counts. -/
theorem callsFrom_yieldLine (inside : Bool) :
    callsFrom inside yieldLine.toList = [] := by
  cases inside <;> decide

/-- The lines of a pipeline are scanned one after another. -/
theorem callsFrom_lines {parts : List Part}
    (hfree : ∀ p ∈ parts, p.IsQuoteFree)
    (hshown : ∀ p ∈ parts, p.line?.isSome = true) (inside : Bool) :
    callsFrom inside (['\n'].intercalate
        ((parts.filterMap Part.line? ++ [yieldLine]).map String.toList))
      = Part.allCallsFrom inside parts := by
  -- a range can leave the bit changed for the lines behind it
  induction parts generalizing inside with
  | nil => exact callsFrom_yieldLine inside
  | cons p parts ih =>
      obtain ⟨line, hline⟩ :=
        Option.isSome_iff_exists.1 (hshown p (List.mem_cons_self ..))
      have hcut : ['\n'].intercalate
            (((p :: parts).filterMap Part.line? ++ [yieldLine]).map
              String.toList)
          = line.toList ++ '\n' :: ['\n'].intercalate
            ((parts.filterMap Part.line? ++ [yieldLine]).map
              String.toList) := by
        rw [List.filterMap_cons_some hline, List.cons_append, List.map_cons,
          List.intercalate_cons_of_ne_nil (by simp), List.append_assoc]
        rfl
      rw [hcut, callsFrom_line (hfree p (List.mem_cons_self ..)) hline,
        ih (fun q hq => hfree q (List.mem_cons_of_mem _ hq))
          fun q hq => hshown q (List.mem_cons_of_mem _ hq)]
      rfl

/-- The calls of a rendered query are those of the lines of its parts. -/
theorem calls_text {parts : List Part}
    (hfree : ∀ p ∈ parts, p.IsQuoteFree)
    (hshown : ∀ p ∈ parts, p.line?.isSome = true) :
    calls (Query.ofParts parts).text = Part.allCallsFrom false parts := by
  cases parts with
  | nil => rfl
  | cons p parts =>
      obtain ⟨line, hline⟩ :=
        Option.isSome_iff_exists.1 (hshown p (List.mem_cons_self ..))
      have hne : (p :: parts).filterMap Part.line? ≠ [] := by
        rw [List.filterMap_cons_some hline]
        exact List.cons_ne_nil _ _
      have hlines : (Query.ofParts (p :: parts)).lines
          = (p :: parts).filterMap Part.line? ++ [yieldLine] :=
        lines_of_ne_nil hne
      unfold calls
      rw [toList_text rfl, hlines, callsFrom_lines hfree hshown]

/-- What a line is read as holds no quote between its quotes. -/
theorem isQuoteFree_of_recognize {line : List Char} {p : Part}
    (h : recognize line = .part p) : p.IsQuoteFree := by
  cases p with
  | bucket b =>
      obtain ⟨-, hcall⟩ := recognize_bucket_iff.1 h
      obtain ⟨u, s, rest, -, hread⟩ := exists_read_of_call? hcall
      obtain ⟨t, @⟨gap, name, -, hname⟩, -⟩ :=
        bucketCall?_eq_some_iff.1 hread
      exact hname.2
  -- a bound may hold a quote, and none stands around it
  | dateRange r => trivial
  | filter f =>
      obtain ⟨-, -, -, hcall⟩ := recognize_filter_iff.1 h
      obtain ⟨u, s, rest, -, hread⟩ := exists_read_of_call? hcall
      obtain ⟨t, ht, -⟩ := filterCall?_eq_some_iff.1 hread
      obtain ⟨v, vs, hvalues⟩ := values_of_filterText ht
      intro w hw
      rw [hvalues.operand, values_ofValues] at hw
      exact (hvalues.quotable w hw).2

/-- Where a text is read as parts, its rendered text has the calls that
are kept. -/
theorem calls_parse_of_structured {t : String}
    (h : (statements t.toList).any Query.isForeignStage = false) :
    calls (Query.parse t).text = keptCalls t := by
  rw [parse_of_lines h]
  refine calls_text (fun p hp => ?_) fun p hp => ?_
  · obtain ⟨line, -, hread⟩ := exists_line_of_mem_parts hp
    exact isQuoteFree_of_recognize hread
  · obtain ⟨line, hfeed, hread⟩ := exists_line_of_mem_parts hp
    obtain ⟨line', hline', -⟩ := isStable_of_recognize hfeed hread
    rw [hline']
    rfl

-- ===================================================== foreign stages

/-- A line that pipes into something, does not yield, and has none of the
calls anywhere. -/
structure IsForeign (line : List Char) : Prop where
  pipes : "|>".toList <:+: line
  yields : ¬ "yield".toList <:+: line
  bucket : ∀ b t, BucketText b t → ¬ t <:+: line
  range : ∀ r t, RangeText r t → ¬ t <:+: line
  filter : ∀ f t, FilterText f t → ¬ t <:+: line

/-- What the scan takes for a foreign stage is a line that is foreign by the
grammar of the calls. -/
theorem isForeignStage_iff {line : List Char} :
    Query.isForeignStage line = true ↔ IsForeign line := by
  have hyield : occursIn "yield".toList line = false
      ↔ ¬ "yield".toList <:+: line := by
    rw [← occursIn_iff, Bool.not_eq_true]
  rw [Query.isForeignStage, Bool.and_eq_true, decide_eq_true_iff,
    recognize_unrecognized_iff, occursIn_iff, hyield,
    call?_eq_none_iff_of_texts bucketCall?_eq_some_iff,
    call?_eq_none_iff_of_texts rangeCall?_eq_some_iff,
    call?_eq_none_iff_of_texts filterCall?_eq_some_iff]
  constructor
  · rintro ⟨⟨hyield, hbucket, hrange, hfilter⟩, hpipe⟩
    exact ⟨hpipe, hyield, hbucket, hrange, hfilter⟩
  · rintro ⟨hpipe, hyield, hbucket, hrange, hfilter⟩
    exact ⟨⟨hyield, hbucket, hrange, hfilter⟩, hpipe⟩

/-- Only foreign lines keep a text raw. -/
theorem parse_eq_raw_iff (t : String) : Query.parse t = .raw t ↔
    ∃ line ∈ statements t.toList, IsForeign line := by
  have hany : (statements t.toList).any Query.isForeignStage = true
      ↔ ∃ line ∈ statements t.toList, IsForeign line := by
    simp only [List.any_eq_true, isForeignStage_iff]
  rw [← hany]
  cases hforeign : (statements t.toList).any Query.isForeignStage with
  | true => simp only [parse_of_foreign hforeign]
  | false =>
      simp only [parse_of_lines hforeign, Bool.false_eq_true, iff_false]
      intro h
      -- a query of parts keeps no text
      cases congrArg Query.rawText h

/-- A text is kept raw exactly if a line of it is foreign. Otherwise its
calls become those that a reading line by line keeps, so none is lost and
none is gained exactly if these are all of them. A stage on the line of a
call makes no line foreign, and is not kept. -/
theorem parse_keeps_calls_iff (t : String) :
    (Query.parse t = .raw t ↔
        ∃ line ∈ statements t.toList, IsForeign line)
      ∧ (Query.parse t ≠ .raw t → calls (Query.parse t).text = keptCalls t)
      ∧ (Query.parse t = .raw t ∨ calls (Query.parse t).text = calls t ↔
        (∃ line ∈ statements t.toList, IsForeign line)
          ∨ keptCalls t = calls t) := by
  have hkept : Query.parse t ≠ .raw t →
      calls (Query.parse t).text = keptCalls t := by
    intro hraw
    refine calls_parse_of_structured ?_
    rw [← Bool.not_eq_true]
    exact fun hforeign => hraw (parse_of_foreign hforeign)
  refine ⟨parse_eq_raw_iff t, hkept, ?_⟩
  rw [← parse_eq_raw_iff]
  by_cases hraw : Query.parse t = .raw t
  · exact ⟨fun _ => Or.inl hraw, fun _ => Or.inl hraw⟩
  · rw [hkept hraw]

/-- A call behind another on one line is lost, though the text is not kept
as it is. -/
theorem parse_loses_grouping :
    ¬ ∀ t : String, Query.parse t = .raw t
      ∨ calls (Query.parse t).text = calls t := by
  intro h
  rcases h "from(bucket: \"b\") |> group()" with hraw | hcalls
  · revert hraw
    decide
  · revert hcalls
    decide

-- ========================================================= tidy texts

/-- A line of its own: its quotes close on it, what it pipes into stands
on it, and it has the calls of what it is read as and no others. -/
@[mk_iff]
structure IsTidy (line : List Char) : Prop where
  closed : quoteState false line = false
  piped : ¬ "|>".toList <:+ trim line
  calls : callsFrom false line
    = (Query.linePart? (trim line)).elim [] (Part.callsFrom false)
  part : ∀ p ∈ Query.linePart? (trim line), p.quoteState false = false

instance : DecidablePred IsTidy :=
  fun line => decidable_of_iff' _ (isTidy_iff line)

/-- What a tidy line pipes into stands on it. -/
theorem exists_not_blank_of_isTidy {a b : List Char}
    (h : IsTidy (a ++ ("|>".toList ++ b))) : ∃ c ∈ b, isBlank c = false := by
  have hblank : ¬ ∀ c ∈ b, isBlank c = true := fun hb =>
    h.piped (suffix_trim (c := '|') (d := '>') rfl (by decide) rfl
      (by decide) hb)
  simpa using hblank

/-- No call of a tidy line reaches across its end. -/
theorem callAt?_lineFeed {line w : List Char} (hline : IsTidy line)
    (hw : w <:+ line) (s : List Char) :
    callAt? (w ++ '\n' :: s) = callAt? w := by
  unfold callAt?
  rw [after_append_cons (by decide), after_append_cons (by decide)]
  cases after "from(".toList w with
  | some _ => rfl
  | none =>
      cases hpipe : after "|>".toList w with
      | none => rfl
      | some b =>
          obtain ⟨a, rfl⟩ := hw
          rw [after_eq_some_iff.1 hpipe] at hline
          -- a line feed is blank, so a name could be looked for behind it;
          -- a tidy line has a character before it that ends the search
          have hstop := exists_not_blank_of_isTidy hline
          show pipedCall? (b ++ '\n' :: s) = pipedCall? b
          unfold pipedCall?
          rw [nameAhead_append_cons (by decide) (Or.inr hstop)]

/-- Tidy lines are scanned each on its own. -/
theorem callsFrom_tidy {lines : List (List Char)}
    (h : ∀ line ∈ lines, IsTidy line) :
    callsFrom false (['\n'].intercalate lines)
      = lines.flatMap (callsFrom false) := by
  induction lines with
  | nil => rfl
  | cons line lines ih =>
      have hline := h line (List.mem_cons_self ..)
      have hrest := ih fun l hl => h l (List.mem_cons_of_mem _ hl)
      by_cases hnil : lines = []
      · rw [hnil, List.intercalate_singleton, List.flatMap_singleton]
      · have hskip := callsFrom_append (a := ['\n']) (by decide) false
          (['\n'].intercalate lines)
        rw [List.intercalate_cons_of_ne_nil hnil, List.append_assoc,
          List.singleton_append, callsFrom_append_of_callAt?
            (fun w hw _ => callAt?_lineFeed hline hw _), hline.closed,
          List.flatMap_cons, ← hrest]
        exact congrArg _ hskip

/-- What tidy lines are read as has the calls of the lines. -/
theorem allCallsFrom_tidy {lines : List (List Char)}
    (h : ∀ line ∈ lines, IsTidy line) :
    Part.allCallsFrom false
        (((lines.map trim).filter fun line => !line.isEmpty).filterMap
          Query.linePart?)
      = lines.flatMap (callsFrom false) := by
  induction lines with
  | nil => rfl
  | cons line lines ih =>
      have hline := h line (List.mem_cons_self ..)
      have hrest := ih fun l hl => h l (List.mem_cons_of_mem _ hl)
      have hnone : Query.linePart? (trim line) = none →
          callsFrom false line = [] := fun hpart => by
        rw [hline.calls, hpart]
        rfl
      rw [List.map_cons, List.flatMap_cons]
      -- a blank line is dropped before it is read; one that is read as
      -- nothing has no calls either, since it is tidy
      by_cases hblank : trim line = []
      · have hcalls := hnone (by rw [hblank]; decide)
        rw [List.filter_cons_of_neg (by simp [hblank]), hrest, hcalls,
          List.nil_append]
      · rw [List.filter_cons_of_pos (by simp [hblank])]
        cases hpart : Query.linePart? (trim line) with
        | none =>
            rw [List.filterMap_cons_none hpart, hrest, hnone hpart,
              List.nil_append]
        | some p =>
            have hcalls : callsFrom false line = p.callsFrom false := by
              rw [hline.calls, hpart]
              rfl
            rw [List.filterMap_cons_some hpart, hcalls, ← hrest]
            show p.callsFrom false ++ Part.allCallsFrom _ _ = _
            rw [hline.part p hpart]

/-- A text of tidy lines keeps all of its calls. -/
theorem calls_parse_of_tidy {t : String}
    (h : ∀ line ∈ t.toList.splitOn '\n', IsTidy line) :
    Query.parse t = .raw t ∨ calls (Query.parse t).text = calls t := by
  cases hforeign : (statements t.toList).any Query.isForeignStage with
  | true => exact Or.inl (parse_of_foreign hforeign)
  | false =>
      right
      have hlines := callsFrom_tidy h
      rw [List.intercalate_splitOn] at hlines
      rw [calls_parse_of_structured hforeign]
      unfold calls
      rw [hlines]
      exact allCallsFrom_tidy h

example : ∀ line ∈ "from(bucket: \"b\")\n  |> range(start: -1h)".toList.splitOn
    '\n', IsTidy line := by decide

end FluxComposer
