import FluxComposer.Proofs.Query.Rendered
/-
A text is read by its lines, however they are laid out. The lines of a
text end with a line feed, or with a carriage return and a line feed; what
counts of them is what trimming leaves, and a line of which nothing is left
does not count (`trimmedLines_eq_statements`). So texts that have the same
lines between any margins, with any blank lines among them and with either
end, are read alike, and which texts these are is said by `LaidOut`
(`statements_eq_iff`).

A line feed between two texts is the end of a line, whatever stands around
it, so the lines of the whole are those of the one and then those of the
other (`statements_append`). A text is raw if one of its lines is foreign,
so a whole is raw if one of its texts is, and then all of it.
-/
namespace FluxComposer

namespace Text

variable {s left right line : List Char} {kept : List (List Char)}

-- ============================================================== lines

/-- A line without the carriage return at its end. -/
def withoutReturn (line : List Char) : List Char :=
  if line.getLast? = some '\r' then line.dropLast else line

/-- The lines of a text, without their ends: a line feed, or a carriage
return and a line feed. The last line need not have an end, and is none if
there is nothing in it. -/
def linesOf (s : List Char) : List (List Char) :=
  let pieces := s.splitOn '\n'
  pieces.dropLast.map withoutReturn
    ++ pieces.getLast?.toList.filter fun line => !line.isEmpty

/-- The lines of a text, trimmed, without the blank ones. -/
def trimmedLines (s : List Char) : List (List Char) :=
  ((linesOf s).map trim).filter fun line => !line.isEmpty

/-- A carriage return at the end is trimmed away in any case. -/
theorem trim_withoutReturn (line : List Char) :
    trim (withoutReturn line) = trim line := by
  unfold withoutReturn
  split
  next h =>
    obtain ⟨s, rfl⟩ := List.getLast?_eq_some_iff.1 h
    rw [List.dropLast_concat]
    exact (@trim_between s [] ['\r'] nofun
      (List.forall_mem_singleton.2 rfl)).symm
  next => rfl

/-- The lines that count are the statements. -/
theorem trimmedLines_eq_statements (s : List Char) :
    trimmedLines s = statements s := by
  obtain ⟨ended, last, hpieces⟩ :
      ∃ ended last, s.splitOn '\n' = ended ++ [last] :=
    ⟨_, _, (List.dropLast_concat_getLast
      (List.splitOn_ne_nil '\n' s)).symm⟩
  have hended : (ended.map withoutReturn).map trim = ended.map trim := by
    rw [List.map_map]
    exact List.map_congr_left fun line _ => trim_withoutReturn line
  unfold trimmedLines linesOf statements
  dsimp only
  rw [hpieces, List.dropLast_concat, List.getLast?_concat,
    List.map_append, List.map_append, hended, List.filter_append,
    List.filter_append]
  -- the piece behind the last line feed is blank if it is empty
  cases last with
  | nil => rfl
  | cons => rfl

/-- A carriage return alone ends no line. -/
example : linesOf "a\r\nb\rc\n\nd\r".toList
    = ["a".toList, "b\rc".toList, [], "d\r".toList] := by decide

/-- A line feed between two texts ends a line. -/
theorem statements_append (a b : List Char) :
    statements (a ++ '\n' :: b) = statements a ++ statements b := by
  have hcut : (a ++ '\n' :: b).splitOn '\n'
      = a.splitOn '\n' ++ b.splitOn '\n' :=
    List.splitOnP_append_cons a b (beq_self_eq_true '\n')
  unfold statements
  rw [hcut, List.map_append, List.filter_append]

/-- The characters of a piece of a text are characters of the text. -/
theorem subset_of_mem_splitOn {q : Char} {piece : List Char}
    (h : piece ∈ s.splitOn q) : piece ⊆ s := by
  induction s generalizing piece with
  | nil =>
      rw [List.splitOn_nil, List.mem_singleton] at h
      simp [h]
  | cons c s ih =>
      rw [List.splitOn_cons_eq_if_modifyHead] at h
      -- a separator begins a piece of its own, any other character is put
      -- in front of the first piece
      split at h
      next =>
        rcases List.mem_cons.1 h with rfl | h
        · simp
        · exact List.subset_cons_of_subset c (ih h)
      next =>
        obtain ⟨first, others, hs⟩ :=
          List.exists_cons_of_ne_nil (List.splitOn_ne_nil q s)
        rw [hs] at h ih
        rcases List.mem_cons.1 h with rfl | h
        · exact List.cons_subset_cons c (ih List.mem_cons_self)
        · exact List.subset_cons_of_subset c
            (ih (List.mem_cons_of_mem _ h))

/-- The statements of a text on one line. -/
theorem statements_of_not_mem (h : '\n' ∉ s) :
    statements s = [trim s].filter fun line => !line.isEmpty := by
  unfold statements
  rw [List.splitOn_eq_singleton h, List.map_singleton]

-- ============================================================= layouts

/-- Blank characters that stand on one line. -/
def IsMargin (s : List Char) : Prop :=
  ∀ c ∈ s, isBlank c = true ∧ c ≠ '\n'

/-- What can be left of a line that counts. -/
structure IsStatement (line : List Char) : Prop where
  nonempty : line ≠ []
  trimmed : trim line = line
  lineFeed : '\n' ∉ line

/-- The texts that consist of the given lines. Each stands between margins
of its own, and any blank lines stand among them. A carriage return before
the end of a line counts to the margin. -/
inductive LaidOut : List (List Char) → List Char → Prop
  | nothing {margin : List Char} (h : IsMargin margin) : LaidOut [] margin
  | last {left line right : List Char} (hline : IsStatement line)
      (hleft : IsMargin left) (hright : IsMargin right) :
      LaidOut [line] (left ++ (line ++ right))
  | blankLine {margin s : List Char} {kept : List (List Char)}
      (h : IsMargin margin) (hs : LaidOut kept s) :
      LaidOut kept (margin ++ '\n' :: s)
  | line {left line right s : List Char} {kept : List (List Char)}
      (hline : IsStatement line) (hleft : IsMargin left)
      (hright : IsMargin right) (hs : LaidOut kept s) :
      LaidOut (line :: kept) ((left ++ (line ++ right)) ++ '\n' :: s)

theorem IsMargin.blank (h : IsMargin s) : ∀ c ∈ s, isBlank c = true :=
  fun c hc => (h c hc).1

theorem IsMargin.lineFeed (h : IsMargin s) : '\n' ∉ s :=
  fun hm => (h _ hm).2 rfl

/-- Nothing counts of a margin. -/
theorem statements_margin (h : IsMargin s) : statements s = [] := by
  rw [statements_of_not_mem h.lineFeed, trim_eq_nil_iff.2 h.blank]
  rfl

/-- A line that counts is the one statement of a text with margins around
it. -/
theorem statements_between (hline : IsStatement line)
    (hleft : IsMargin left) (hright : IsMargin right) :
    statements (left ++ (line ++ right)) = [line] := by
  have hfeed : '\n' ∉ left ++ (line ++ right) := by
    simp only [List.mem_append, not_or]
    exact ⟨hleft.lineFeed, hline.lineFeed, hright.lineFeed⟩
  rw [statements_of_not_mem hfeed,
    trim_between hleft.blank hright.blank, hline.trimmed]
  simp [hline.nonempty]

/-- A text that is laid out by lines has them as its statements. -/
theorem statements_of_laidOut (h : LaidOut kept s) :
    statements s = kept := by
  induction h with
  | nothing h => exact statements_margin h
  | last hline hleft hright => exact statements_between hline hleft hright
  | blankLine h _ ih =>
      rw [statements_append, statements_margin h, ih, List.nil_append]
  | line hline hleft hright _ ih =>
      rw [statements_append, statements_between hline hleft hright, ih,
        List.singleton_append]

/-- A line is a margin, or what counts of it between margins. -/
theorem isMargin_or_between (h : '\n' ∉ line) :
    (IsMargin line ∧ trim line = [])
      ∨ ∃ left right, line = left ++ (trim line ++ right)
        ∧ IsStatement (trim line) ∧ IsMargin left ∧ IsMargin right := by
  by_cases hnil : trim line = []
  · refine .inl ⟨fun c hc => ⟨trim_eq_nil_iff.1 hnil c hc, ?_⟩, hnil⟩
    rintro rfl
    exact h hc
  · obtain ⟨left, right, hs, hleft, hright⟩ := exists_margins line
    have hfeed := h
    rw [hs] at hfeed
    simp only [List.mem_append, not_or] at hfeed
    refine .inr ⟨left, right, hs, ⟨hnil, trim_trim line, hfeed.2.1⟩,
      fun c hc => ⟨hleft c hc, ?_⟩, fun c hc => ⟨hright c hc, ?_⟩⟩
    · rintro rfl
      exact hfeed.1 hc
    · rintro rfl
      exact hfeed.2.2 hc

/-- A text that is put together from lines is laid out by them. -/
theorem laidOut_intercalate {pieces : List (List Char)}
    (hne : pieces ≠ []) (h : ∀ piece ∈ pieces, '\n' ∉ piece) :
    LaidOut ((pieces.map trim).filter fun line => !line.isEmpty)
      (['\n'].intercalate pieces) := by
  induction pieces with
  | nil => exact absurd rfl hne
  | cons piece pieces ih =>
      have hpiece := isMargin_or_between (h piece List.mem_cons_self)
      rw [List.map_cons, List.filter_cons]
      -- the last line has no end
      cases pieces with
      | nil =>
          rcases hpiece with ⟨hmargin, hnil⟩ | ⟨left, right, hs, hline,
            hleft, hright⟩
          · simpa [hnil] using LaidOut.nothing hmargin
          · have hlast := LaidOut.last hline hleft hright
            rw [← hs] at hlast
            simpa [hline.nonempty] using hlast
      | cons next others =>
          have hrest := ih (List.cons_ne_nil _ _)
            fun p hp => h p (List.mem_cons_of_mem _ hp)
          have hcut : ['\n'].intercalate (piece :: next :: others)
              = piece ++ '\n' :: ['\n'].intercalate (next :: others) := by
            simp [List.intercalate]
          rw [hcut]
          rcases hpiece with ⟨hmargin, hnil⟩ | ⟨left, right, hs, hline,
            hleft, hright⟩
          · simpa [hnil] using LaidOut.blankLine hmargin hrest
          · have hfirst := LaidOut.line hline hleft hright hrest
            rw [← hs] at hfirst
            simpa [hline.nonempty] using hfirst

/-- The statements of a text are the lines that it is laid out by. -/
theorem statements_eq_iff : statements s = kept ↔ LaidOut kept s := by
  refine ⟨?_, statements_of_laidOut⟩
  rintro rfl
  have h := laidOut_intercalate (List.splitOn_ne_nil '\n' s)
    fun _ => not_mem_of_mem_splitOn
  rwa [List.intercalate_splitOn] at h

end Text

namespace Query

open Text

-- ============================================================ reading

/-- A text is kept raw if one of its statements is a foreign stage. -/
theorem isRaw_parse (t : String) :
    (parse t).isRaw = (statements t.toList).any isForeignStage := by
  cases hforeign : (statements t.toList).any isForeignStage with
  | true =>
      rw [parse_of_foreign hforeign]
      rfl
  | false =>
      rw [parse_of_lines hforeign]
      rfl

/-- A text that is not kept raw has the parts of its lines. -/
theorem parse_of_not_isRaw {t : String} (h : (parse t).isRaw = false) :
    parse t = .ofParts ((statements t.toList).filterMap linePart?) :=
  parse_of_lines ((isRaw_parse t).symm.trans h)

theorem parse_of_isRaw {t : String} (h : (parse t).isRaw = true) :
    parse t = .raw t :=
  parse_of_foreign ((isRaw_parse t).symm.trans h)

/-- What is known of a text when some of its lines have been read: the
parts of these, and whether one of them was foreign. -/
structure Progress where
  parts : List Part := []
  foreign : Bool := false

/-- Reads one more line. -/
def Progress.next (p : Progress) (line : List Char) : Progress :=
  match Recognizer.recognize line with
  | .yields => p
  | .part part => { p with parts := p.parts ++ [part] }
  | .unrecognized =>
    { p with foreign := p.foreign || occursIn "|>".toList line }

/-- Reads a text line by line to its end. What becomes of the parts is
only known then, and a blank text is not read at all. -/
def parseThrough (t : String) : Query :=
  if isBlankText t then .empty
  else
    let p := (trimmedLines t.toList).foldl Progress.next {}
    if p.foreign then .raw t else .ofParts p.parts

/-- Reading on, the parts are added at the end, and once a line was foreign
it remains known. -/
theorem foldl_next (p : Progress) (lines : List (List Char)) :
    lines.foldl Progress.next p
      = ⟨p.parts ++ lines.filterMap linePart?,
        p.foreign || lines.any isForeignStage⟩ := by
  induction lines generalizing p with
  | nil => simp
  | cons line lines ih =>
      rw [List.foldl_cons, ih, List.any_cons]
      cases hread : Recognizer.recognize line with
      | yields =>
          simp [Progress.next, hread, linePart?, isForeignStage]
      | part part =>
          simp [Progress.next, hread, linePart?, isForeignStage]
      | unrecognized =>
          simp [Progress.next, hread, linePart?, isForeignStage,
            Bool.or_assoc]

/-- A blank text has no statements. -/
theorem statements_of_isBlankText {t : String}
    (h : isBlankText t = true) : statements t.toList = [] := by
  have hblank : ∀ c ∈ t.toList, isBlank c = true := List.all_eq_true.1 h
  refine List.filter_eq_nil_iff.2 fun line hline => ?_
  obtain ⟨piece, hpiece, rfl⟩ := List.mem_map.1 hline
  have hnil : trim piece = [] := trim_eq_nil_iff.2 fun c hc =>
    hblank c (subset_of_mem_splitOn hpiece hc)
  simp [hnil]

/-- The query of a text is what reading it line by line comes to. -/
theorem parse_eq_parseThrough (t : String) : parse t = parseThrough t := by
  unfold parseThrough
  split
  next hblank =>
    unfold parse
    rw [statements_of_isBlankText hblank]
    rfl
  next =>
    rw [trimmedLines_eq_statements, foldl_next]
    rfl

/-- The statements of two texts with a line feed between them. -/
theorem statements_join (a b : String) :
    statements (a ++ "\n" ++ b).toList
      = statements a.toList ++ statements b.toList := by
  rw [← statements_append]
  simp

/-- Texts have the same lines if both are layouts of some lines. -/
theorem trimmedLines_eq_iff {s s' : List Char} :
    trimmedLines s = trimmedLines s'
      ↔ ∃ kept, LaidOut kept s ∧ LaidOut kept s' := by
  simp only [trimmedLines_eq_statements, ← statements_eq_iff]
  constructor
  · exact fun h => ⟨_, h, rfl⟩
  · rintro ⟨kept, hs, hs'⟩
    exact hs.trans hs'.symm

/-- Two texts with a line feed between them are read one after the other,
and kept raw together if one of them is. Texts with the same lines, which
are the texts in which these lines stand in any layout, are both kept raw
or read as the same query. -/
theorem parse_by_lines (a b : String) :
    (parse (a ++ "\n" ++ b)).isRaw = ((parse a).isRaw || (parse b).isRaw)
      ∧ parse (a ++ "\n" ++ b)
        = (if (parse a).isRaw || (parse b).isRaw then
            .raw (a ++ "\n" ++ b)
          else .ofParts ((parse a).parts ++ (parse b).parts))
      ∧ (trimmedLines a.toList = trimmedLines b.toList
        ↔ ∃ kept, LaidOut kept a.toList ∧ LaidOut kept b.toList)
      ∧ (trimmedLines a.toList = trimmedLines b.toList →
        (parse a).isRaw = (parse b).isRaw
          ∧ ((parse a).isRaw = false → parse a = parse b)) := by
  have hraw : (parse (a ++ "\n" ++ b)).isRaw
      = ((parse a).isRaw || (parse b).isRaw) := by
    rw [isRaw_parse, isRaw_parse, isRaw_parse, statements_join,
      List.any_append]
  refine ⟨hraw, ?_, trimmedLines_eq_iff, fun hlines => ?_⟩
  · cases hwhole : (parse a).isRaw || (parse b).isRaw with
    | true => exact parse_of_isRaw (hraw.trans hwhole)
    | false =>
        obtain ⟨ha, hb⟩ := Bool.or_eq_false_iff.1 hwhole
        rw [parse_of_not_isRaw (hraw.trans hwhole), statements_join,
          List.filterMap_append, parse_of_not_isRaw ha,
          parse_of_not_isRaw hb]
        rfl
  · rw [trimmedLines_eq_statements, trimmedLines_eq_statements] at hlines
    have hdecision : (parse a).isRaw = (parse b).isRaw := by
      rw [isRaw_parse, isRaw_parse, hlines]
    refine ⟨hdecision, fun hstructured => ?_⟩
    rw [parse_of_not_isRaw hstructured, hlines,
      parse_of_not_isRaw (hdecision ▸ hstructured)]

/-- Two layouts of one query, the second with a no-break space, a blank
line and carriage returns. -/
theorem parse_by_lines_returns :
    let a := "from(bucket: \"air\")\n|> range(start: -1h)"
    let b := "\n\u00a0from(bucket: \"air\") \r\n \r\n"
      ++ "\t|> range(start: -1h)\r\n"
    trimmedLines a.toList = trimmedLines b.toList
      ∧ parse b = .ofParts [.bucket (.named "air"),
        .dateRange { start := "-1h" }] := by
  intro a b
  have hlines : trimmedLines a.toList = trimmedLines b.toList := by decide
  obtain ⟨-, -, -, hsame⟩ := parse_by_lines a b
  refine ⟨hlines, ((hsame hlines).2 ?_).symm.trans ?_⟩
  · decide
  · decide

end Query
end FluxComposer
