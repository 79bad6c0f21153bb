import FluxComposer.Text.Blank
import Mathlib.Data.List.TakeWhile
/-
What trimming leaves of a text, and the statements of a text that was put
together from lines. A text is what trimming leaves of it between blank
characters, and these make no difference to it (`exists_margins`,
`trim_between`). Cutting a text at its line feeds gives the lines back,
trimmed, and a line that was cut from a text has no line feed in it, so
what a statement holds can be written on one line again.
-/
namespace FluxComposer.Text

variable {a s left right : List Char}

-- =========================================================== trimming

/-- Blank characters at the end of a text are dropped from there. -/
theorem dropWhile_reverse_append {b : List Char} {d : Char}
    (hlast : s.getLast? = some d) (hd : isBlank d = false)
    (hb : ∀ x ∈ b, isBlank x = true) :
    (s ++ b).reverse.dropWhile isBlank = s.reverse := by
  obtain ⟨r, rfl⟩ := List.getLast?_eq_some_iff.1 hlast
  rw [List.reverse_append, List.dropWhile_append_of_pos (by simpa using hb)]
  simp [hd]

/-- A text whose ends are not blank is what trimming leaves of it behind
blank characters. -/
theorem trim_append_of_blank {c d : Char} (ha : ∀ x ∈ a, isBlank x = true)
    (hhead : s.head? = some c) (hc : isBlank c = false)
    (hlast : s.getLast? = some d) (hd : isBlank d = false) :
    trim (a ++ s) = s := by
  have hleft : (a ++ s).dropWhile isBlank = s := by
    obtain ⟨s', rfl⟩ := List.head?_eq_some_iff.1 hhead
    rw [List.dropWhile_append_of_pos ha]
    simp [hc]
  have hright := dropWhile_reverse_append (b := []) hlast hd
    fun _ hx => nomatch hx
  rw [List.append_nil] at hright
  rw [trim, trimRight, hleft, hright, List.reverse_reverse]

/-- What ends a text up to blank characters ends what trimming leaves of
it. -/
theorem suffix_trim {b w : List Char} {c d : Char}
    (hhead : w.head? = some c) (hc : isBlank c = false)
    (hlast : w.getLast? = some d) (hd : isBlank d = false)
    (hb : ∀ x ∈ b, isBlank x = true) : w <:+ trim (a ++ (w ++ b)) := by
  have hleft : ∃ e, (a ++ (w ++ b)).dropWhile isBlank = e ++ (w ++ b) := by
    induction a with
    | nil =>
        obtain ⟨w', rfl⟩ := List.head?_eq_some_iff.1 hhead
        exact ⟨[], by simp [hc]⟩
    | cons x a ih =>
        by_cases hx : isBlank x = true
        · simpa [hx] using ih
        · exact ⟨x :: a, by simp [hx]⟩
  obtain ⟨e, he⟩ := hleft
  have hlast' : (e ++ w).getLast? = some d := by
    rw [List.getLast?_append, hlast, Option.some_or]
  refine ⟨e, ?_⟩
  rw [trim, trimRight, he, ← List.append_assoc,
    dropWhile_reverse_append hlast' hd hb, List.reverse_reverse]

/-- Trimming leaves a stretch of the text. -/
theorem trim_stretch (s : List Char) : trim s <:+: s := by
  have hright : trim s <+: s.dropWhile isBlank := by
    rw [trim, trimRight, ← List.reverse_suffix, List.reverse_reverse]
    exact List.dropWhile_suffix isBlank
  exact hright.isInfix.trans (List.dropWhile_suffix isBlank).isInfix

theorem trimRight_eq_nil_iff :
    trimRight s = [] ↔ ∀ c ∈ s, isBlank c = true := by
  rw [trimRight, List.reverse_eq_nil_iff, List.dropWhile_eq_nil_iff]
  simp only [List.mem_reverse]

/-- Trimming leaves nothing of a blank text, and of no other. -/
theorem trim_eq_nil_iff : trim s = [] ↔ ∀ c ∈ s, isBlank c = true := by
  rw [trim, trimRight_eq_nil_iff]
  constructor
  · intro h c hc
    rw [← List.takeWhile_append_dropWhile (p := isBlank) (l := s)] at hc
    rcases List.mem_append.1 hc with hc | hc
    · exact List.mem_takeWhile_imp hc
    · exact h c hc
  · exact fun h c hc => h c ((List.dropWhile_suffix isBlank).subset hc)

/-- Blank characters at the end are trimmed away. -/
theorem trimRight_append_of_blank (h : ∀ c ∈ right, isBlank c = true) :
    trimRight (s ++ right) = trimRight s := by
  unfold trimRight
  rw [List.reverse_append,
    List.dropWhile_append_of_pos (by simpa using h)]

/-- Blank characters around a text make no difference to what trimming
leaves of it. -/
theorem trim_between (hleft : ∀ c ∈ left, isBlank c = true)
    (hright : ∀ c ∈ right, isBlank c = true) :
    trim (left ++ (s ++ right)) = trim s := by
  unfold trim
  rw [List.dropWhile_append_of_pos hleft, List.dropWhile_append]
  split
  -- nothing is left of the text, so the blank characters behind it are
  -- trimmed from the left
  next hblank =>
    rw [List.isEmpty_iff.1 hblank, List.dropWhile_eq_nil_iff.2 hright]
  next => exact trimRight_append_of_blank hright

/-- A text is what trimming leaves of it between blank characters. -/
theorem exists_margins (s : List Char) : ∃ left right,
    s = left ++ (trim s ++ right) ∧ (∀ c ∈ left, isBlank c = true)
      ∧ ∀ c ∈ right, isBlank c = true := by
  refine ⟨s.takeWhile isBlank,
    ((s.dropWhile isBlank).reverse.takeWhile isBlank).reverse, ?_,
    fun c => List.mem_takeWhile_imp, fun c hc => ?_⟩
  · rw [trim, trimRight, ← List.reverse_append,
      List.takeWhile_append_dropWhile, List.reverse_reverse,
      List.takeWhile_append_dropWhile]
  · exact List.mem_takeWhile_imp (List.mem_reverse.1 hc)

/-- What is trimmed stays so. -/
theorem trim_trim (s : List Char) : trim (trim s) = trim s := by
  obtain ⟨left, right, hs, hleft, hright⟩ := exists_margins s
  calc trim (trim s)
      = trim (left ++ (trim s ++ right)) :=
        (trim_between hleft hright).symm
    _ = trim s := by rw [← hs]

/-- Nothing is left of a blank text, and something of any other. -/
theorem isEmpty_trimmed (s : String) :
    (trimmed s).isEmpty = isBlankText s := by
  rw [Bool.eq_iff_iff, trimmed, String.isEmpty_iff, isBlankText,
    List.all_eq_true, ← trim_eq_nil_iff, String.ofList_eq_empty_iff]

-- ============================================================== lines

/-- No piece of a text holds the character that the text was cut at. -/
theorem not_mem_of_mem_splitOn {q : Char} {piece : List Char}
    (h : piece ∈ s.splitOn q) : q ∉ piece := by
  induction s generalizing piece with
  | nil =>
      rw [List.splitOn_nil, List.mem_singleton] at h
      simp [h]
  | cons c s ih =>
      rw [List.splitOn_cons_eq_if_modifyHead] at h
      split at h
      next =>
        rcases List.mem_cons.1 h with rfl | h
        · simp
        · exact ih h
      next hc =>
        obtain ⟨first, others, hs⟩ :=
          List.exists_cons_of_ne_nil (List.splitOn_ne_nil q s)
        rw [hs] at h ih
        have hne : q ≠ c := fun e => hc (by simp [e])
        rcases List.mem_cons.1 h with rfl | h
        · simp [hne, ih (List.mem_cons_self ..)]
        · exact ih (List.mem_cons_of_mem _ h)

/-- A statement is written on one line. -/
theorem not_mem_of_mem_statements {line : List Char}
    (h : line ∈ statements s) : '\n' ∉ line := by
  obtain ⟨piece, hpiece, rfl⟩ := List.mem_map.1 (List.mem_filter.1 h).1
  exact fun hm =>
    not_mem_of_mem_splitOn hpiece ((trim_stretch piece).subset hm)

/-- The statements of a text that was put together from lines are the
lines, trimmed, without the blank ones. -/
theorem statements_intercalate {lines : List (List Char)}
    (h : ∀ line ∈ lines, '\n' ∉ line) :
    statements (['\n'].intercalate lines)
      = (lines.map trim).filter fun line => !line.isEmpty := by
  by_cases hne : lines = []
  · subst hne
    decide
  · rw [statements, List.splitOn_intercalate '\n' h hne]

end FluxComposer.Text
