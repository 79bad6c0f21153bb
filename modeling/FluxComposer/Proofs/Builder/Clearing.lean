import FluxComposer.Proofs.Builder.Pipeline
import FluxComposer.Proofs.Query.Layout
/-
Clearing the field selection. Of a structured query it takes the field
filters out and nothing else. A raw query has no parts that could be taken
out, and yet it does not stay: keeping some of the parts drops a raw text,
as appending one does, and there it is the whole query.

A raw query in a builder was always read from its own text
(`isVerbatim_transition`), since every other operation on the query leads
to a structured one. So it has no parts, and its text is not empty, and
where it is dropped the shown text changes.

So the claim on clearing has two sides, and `selectFields_nil_iff` says on
which side a builder stands: a structured query loses its field filters
and nothing else, a raw query is lost with its text
(`not_selectFields_nil_cleared` for a run that ends in one).
-/
namespace FluxComposer

namespace Query

/-- The query without its field filters, and otherwise as it is. -/
def cleared (q : Query) : Query :=
  { q with parts := q.parts.filter fun p => !p.isFilterOn .field }

/-- A query that is what its text is read as, if it is raw. -/
def IsVerbatim (q : Query) : Prop := q.isRaw = true → parse q.text = q

variable {q : Query}

/-- A query is structured if it keeps no text. -/
theorem isRaw_eq_false_iff : q.isRaw = false ↔ q.rawText = none := by
  unfold isRaw
  cases q.rawText <;> simp

/-- Without field filters there is nothing to take out. -/
theorem cleared_of_forall
    (h : ∀ p ∈ q.parts, p.isFilterOn .field = false) : q.cleared = q := by
  unfold cleared
  rw [List.filter_eq_self.2 fun p hp => by simp [h p hp]]

/-- A raw query that was read has its text and no parts. -/
theorem eq_raw_of_isVerbatim (h : q.IsVerbatim) (hraw : q.isRaw = true) :
    q = .raw q.text := by
  have hparse := h hraw
  rw [← hparse] at hraw
  exact hparse.symm.trans (parse_of_isRaw hraw)

/-- The text of a raw query that was read is not empty. -/
theorem text_ne_empty_of_isVerbatim (h : q.IsVerbatim)
    (hraw : q.isRaw = true) : q.text ≠ "" := by
  intro hempty
  have hparse := h hraw
  rw [hempty] at hparse
  rw [← hparse] at hraw
  revert hraw
  decide

/-- Structured queries are verbatim for want of a raw text. -/
theorem isVerbatim_of_rawText (h : q.rawText = none) : q.IsVerbatim := by
  intro hraw
  rw [isRaw_eq_false_iff.2 h] at hraw
  cases hraw

/-- Reading the text of a raw query that was read gives it again, for its
text is the one that it was read from. -/
theorem isVerbatim_parse (t : String) : (parse t).IsVerbatim :=
  fun hraw => congrArg parse (text_of_isRaw hraw)

/-- A query with a part is not raw. -/
theorem rawText_of_isVerbatim (h : q.IsVerbatim) {p : Part}
    (hp : p ∈ q.parts) : q.rawText = none := by
  cases hraw : q.isRaw with
  | true =>
      rw [eq_raw_of_isVerbatim h hraw] at hp
      cases hp
  | false => exact isRaw_eq_false_iff.1 hraw

end Query

namespace Builder

variable {b b' : Builder} {e : Edit} {o : Outcome}

/-- Every operation on the query leads to a structured one, if it does not
read a text. -/
theorem isVerbatim_transition (h : Transition b e o b')
    (verbatim : b.query.IsVerbatim) : b'.query.IsVerbatim := by
  cases h with
  | refused | setBuckets | applyMeasurements | applyFields => exact verbatim
  | selectBucket | selectMeasurement | dropFields | selectFields
  | appendRange | reset => exact Query.isVerbatim_of_rawText rfl
  -- a range was found, so the query has a part and is not raw
  | replaceRange start stop found =>
      obtain ⟨hlt, -⟩ := List.findIdx?_eq_some_iff_getElem.1 found
      have hraw := Query.rawText_of_isVerbatim verbatim
        (List.getElem_mem hlt)
      exact Query.isVerbatim_of_rawText hraw
  | updateText text => exact Query.isVerbatim_parse text
  -- and here a part was found to remove
  | @removePart index part found =>
      have hraw := Query.rawText_of_isVerbatim verbatim
        (List.mem_of_getElem? found)
      rw [query_forgetFor, query_withQuery]
      refine Query.isVerbatim_of_rawText ?_
      unfold Query.removeAt
      split
      · simp [hraw]
      · exact hraw

/-- So the query of every builder that operations lead to is verbatim. -/
theorem isVerbatim_applyAll (edits : List Edit) :
    (applyAll {} edits).query.IsVerbatim :=
  applyAll_induction (P := fun b => b.query.IsVerbatim)
    (Query.isVerbatim_of_rawText rfl)
    fun b e _ => isVerbatim_transition (transition_apply b e)

/-- Keeping the parts that are no field filters is taking the field filters
out only of a structured query. -/
theorem withoutFieldFilters_eq_cleared_iff (q : Query) :
    withoutFieldFilters q = q.cleared ↔ q.isRaw = false := by
  rw [Query.isRaw_eq_false_iff, eq_comm]
  exact ⟨congrArg Query.rawText, congrArg (Query.mk _)⟩

/-- A raw query has no parts to keep, so clearing it leaves nothing. -/
theorem withoutFieldFilters_of_isRaw {q : Query} (verbatim : q.IsVerbatim)
    (hraw : q.isRaw = true) : withoutFieldFilters q = .empty := by
  rw [Query.eq_raw_of_isVerbatim verbatim hraw]
  rfl

/-- After any operations, clearing the field selection is carried out, as a
change of the query alone. What it leaves is the query with its field
filters taken out exactly if the query is structured; then a query without
field filters stays, with its text. A raw query is lost, with its text. -/
theorem selectFields_nil_iff (edits : List Edit) :
    let b := applyAll {} edits
    ∃ b', b.selectFields [] = some b'
      ∧ b' = { b with query := b'.query, revision := b.revision + 1 }
      ∧ (b'.query = b.query.cleared ↔ b.query.isRaw = false)
      ∧ ((∀ p ∈ b.query.parts, p.isFilterOn .field = false) →
        (b'.query = b.query ↔ b.query.isRaw = false)
          ∧ (b'.text = b.text ↔ b.query.isRaw = false))
      ∧ (b.query.isRaw = true → b'.query = .empty) := by
  intro b
  have verbatim : b.query.IsVerbatim := isVerbatim_applyAll edits
  have hiff := withoutFieldFilters_eq_cleared_iff b.query
  have hempty := withoutFieldFilters_of_isRaw verbatim
  refine ⟨b.withQuery (withoutFieldFilters b.query), rfl, rfl, hiff,
    fun hnone => ?_, hempty⟩
  rw [Query.cleared_of_forall hnone] at hiff
  -- if the query were raw, the empty text would be shown for it
  refine ⟨hiff, fun htext => ?_, fun hraw => ?_⟩
  · rw [← Bool.not_eq_true]
    intro hraw
    have hshown : (withoutFieldFilters b.query).text = b.query.text := htext
    rw [hempty hraw] at hshown
    exact Query.text_ne_empty_of_isVerbatim verbatim hraw hshown.symm
  · exact congrArg Query.text (hiff.2 hraw)

/-- A run that reads a raw query and then a structured one. -/
def rewrittenRun : List Edit :=
  [.updateText "from(bucket: \"air\")\n|> last()",
    .updateText "from(bucket: \"air\")\n|> range(start: -1h)"]

/-- The second text is structured, so the raw text before it does not
matter. -/
theorem selectFields_nil_rewrittenRun :
    let b := applyAll {} rewrittenRun
    ∃ b', b.selectFields [] = some b' ∧ b'.query = b.query
      ∧ b'.text = b.text := by
  intro b
  obtain ⟨b', h, -, -, hsame, -⟩ := selectFields_nil_iff rewrittenRun
  have hparts : b.query.parts
      = [.bucket (.named "air"), .dateRange ⟨"-1h", none⟩] := by decide
  obtain ⟨hquery, htext⟩ := hsame (by rw [hparts]; decide)
  have hraw : b.query.isRaw = false := by decide
  exact ⟨b', h, hquery.2 hraw, htext.2 hraw⟩

/-- A run that ends in a raw query. -/
def verbatimRun : List Edit :=
  [.updateText "from(bucket: \"air\")\n|> last()"]

/-- Clearing the fields of a raw query clears the query. -/
theorem not_selectFields_nil_cleared :
    ¬ ∀ edits : List Edit, ∃ b',
      (applyAll {} edits).selectFields [] = some b'
        ∧ b'.query = (applyAll {} edits).query.cleared := by
  intro h
  obtain ⟨b', hb', hquery⟩ := h verbatimRun
  cases hb'
  revert hquery
  decide

end Builder
end FluxComposer
