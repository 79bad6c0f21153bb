import FluxComposer.Csv.Records
/-
Writing records so that they can be read back. Every field stands between
quotes, with the quotes inside it doubled, so commas, line ends and quotes
of a field are never taken for those of the text; a record ends with a
line end of either kind. Reading gives the records back (`records_text`).

The cursor is followed through a field (`foldl_step_quoted`), from field
to field up to the end of a record (`foldl_step_fields`) and from record
to record (`foldl_step_lines`): each time it stands where the next one
begins, with what was read added to what it had.

Reading is done by a cursor that is moved by one character at a time. What
it has read stands in it in reverse, so each of these lemmas says where
the cursor is put and what is pushed on its lists.
-/
namespace FluxComposer.Csv

-- ============================================================== writing

/-- The ways in which a line is ended. -/
inductive LineEnd where
  | lineFeed
  | returnAndFeed
  deriving DecidableEq, Repr

/-- The characters that end a line. -/
def LineEnd.chars : LineEnd → List Char
  | .lineFeed => ['\n']
  | .returnAndFeed => ['\r', '\n']

/-- The characters of a field between its quotes: a quote is written
twice. -/
def doubled (s : List Char) : List Char :=
  s.flatMap fun c => if c = '"' then ['"', '"'] else [c]

/-- A field as it is written. -/
def quoted (field : String) : List Char :=
  '"' :: doubled field.toList ++ ['"']

/-- The fields of a record, one of which it has at least. -/
def fieldChars (field : String) : List String → List Char
  | [] => quoted field
  | next :: fields => quoted field ++ ',' :: fieldChars next fields

/-- A record as it is written, on a line of its own. -/
def line (lineEnd : LineEnd) : Record → List Char
  | [] => lineEnd.chars
  | field :: fields => fieldChars field fields ++ lineEnd.chars

/-- Records as they are written. -/
def text (lineEnd : LineEnd) (records : List Record) : String :=
  String.ofList (records.flatMap (line lineEnd))

-- ============================================================== reading

namespace Cursor

/-- Inside quotes, doubled quotes and all other characters are characters
of the field. -/
theorem foldl_step_doubled (s : List Char) (c : Cursor)
    (inside : c.place = .quoted) :
    (doubled s).foldl step c
      = { c with chars := s.reverse ++ c.chars } := by
  -- character by character: a doubled quote puts the cursor in doubt and
  -- back
  induction s generalizing c with
  | nil => rfl
  | cons x s ih =>
      have hfirst : (if x = '"' then ['"', '"'] else [x]).foldl step c
          = { c with chars := x :: c.chars } := by
        obtain ⟨place, records, fields, chars⟩ := c
        obtain rfl : place = .quoted := inside
        by_cases hx : x = '"'
        · subst hx
          rfl
        · simp [step, push, hx]
      unfold doubled
      rw [List.flatMap_cons, List.foldl_append, hfirst]
      refine (ih { c with chars := x :: c.chars } inside).trans ?_
      simp

/-- Where a field may begin, a quoted field is read up to its end. -/
theorem foldl_step_quoted (field : String) {c : Cursor}
    (start : c.place = .recordStart ∨ c.place = .fieldStart) :
    (quoted field).foldl step c
      = { c with place := .afterQuote
                 chars := field.toList.reverse ++ c.chars } := by
  have hopen : step c '"' = { c with place := .quoted } := by
    unfold step
    rcases start with h | h <;> rw [h] <;> rfl
  unfold quoted
  rw [List.cons_append, List.foldl_cons, hopen, List.foldl_append,
    foldl_step_doubled field.toList _ rfl]
  rfl

/-- A line end of either kind ends a record, and the next one begins. -/
theorem foldl_step_lineEnd (lineEnd : LineEnd) (records : List Record)
    (fields : List String) (field : String) :
    lineEnd.chars.foldl step
        ⟨.afterQuote, records, fields, field.toList.reverse⟩
      = ⟨.recordStart, (field :: fields).reverse :: records, [], []⟩ := by
  cases lineEnd <;>
    simp [LineEnd.chars, step, plainStep, endRecord, endField]

/-- The fields of a record are read one after another, and the line end
ends the record with them. -/
theorem foldl_step_fields (lineEnd : LineEnd) (field : String)
    (fields : List String) (records : List Record) (read : List String)
    {place : Place} (start : place = .recordStart ∨ place = .fieldStart) :
    (fieldChars field fields ++ lineEnd.chars).foldl step
        ⟨place, records, read, []⟩
      = ⟨.recordStart, (read.reverse ++ field :: fields) :: records, [],
        []⟩ := by
  -- a comma ends every field but the last, which the line end takes
  induction fields generalizing field read place with
  | nil =>
      unfold fieldChars
      rw [List.foldl_append, foldl_step_quoted field start, List.append_nil,
        foldl_step_lineEnd, List.reverse_cons]
  | cons next fields ih =>
      have hcomma : step
          ⟨.afterQuote, records, read, field.toList.reverse⟩ ','
          = ⟨.fieldStart, records, field :: read, []⟩ := by
        simp [step, plainStep, endField]
      unfold fieldChars
      rw [List.append_assoc, List.foldl_append,
        foldl_step_quoted field start, List.append_nil, List.cons_append,
        List.foldl_cons, hcomma, ih next (field :: read) (.inr rfl),
        List.reverse_cons, List.append_assoc, List.singleton_append]

/-- A record on a line of its own is read as one record. -/
theorem foldl_step_line (lineEnd : LineEnd) {record : Record}
    (some : record ≠ []) (records : List Record) :
    (line lineEnd record).foldl step ⟨.recordStart, records, [], []⟩
      = ⟨.recordStart, record :: records, [], []⟩ := by
  cases record with
  | nil => exact absurd rfl some
  | cons field fields =>
      exact foldl_step_fields lineEnd field fields records [] (.inl rfl)

/-- Records are read line by line, each behind those before. -/
theorem foldl_step_lines (lineEnd : LineEnd) {records : List Record}
    (some : ∀ record ∈ records, record ≠ []) (read : List Record) :
    (records.flatMap (line lineEnd)).foldl step
        ⟨.recordStart, read, [], []⟩
      = ⟨.recordStart, records.reverse ++ read, [], []⟩ := by
  induction records generalizing read with
  | nil => rfl
  | cons record records ih =>
      rw [List.flatMap_cons, List.foldl_append,
        foldl_step_line lineEnd (some record List.mem_cons_self),
        ih fun r hr => some r (List.mem_cons_of_mem _ hr)]
      simp

end Cursor

/-- A text of quoted records begins with a quote, and so with no byte order
mark. -/
theorem withoutMark_lines (lineEnd : LineEnd) (records : List Record) :
    withoutMark (records.flatMap (line lineEnd))
      = records.flatMap (line lineEnd) := by
  cases records with
  | nil => rfl
  | cons record records =>
      cases record with
      | nil => cases lineEnd <;> rfl
      | cons field fields => cases fields <;> rfl

/-- Written records are read as they were. -/
theorem records_text (lineEnd : LineEnd) {rs : List Record}
    (some : ∀ record ∈ rs, record ≠ []) :
    records (text lineEnd rs) = rs := by
  unfold records text
  rw [String.toList_ofList, withoutMark_lines,
    show ({} : Cursor) = ⟨.recordStart, [], [], []⟩ from rfl,
    Cursor.foldl_step_lines lineEnd some]
  show (rs.reverse ++ []).reverse = rs
  rw [List.append_nil, List.reverse_reverse]

end FluxComposer.Csv
