import FluxComposer.Proofs.Csv.Quoted
import FluxComposer.Proofs.Influx.Grouping
/-
Writing a result as annotated tables and reading it back. A result is
written block by block: annotations, a header and the rows, each with the
name of its table (`WrittenBlock.records`). What should be read is one
table for each name of a block, in the order in which the names first come,
with exactly its rows (`WrittenBlock.tables`).

Records are told apart by their fields alone, so a row that has both a
field `result` and a field `table` is read as a header: it is lost, and the
rows behind it are read under its fields. Where there is no such row,
everything is read as it was written, whatever the fields are
(`tables_foldl_records`). Where there is one, a row is missing, for every
row that is read comes from a record of data (`rowCount_ofRecords_le`). So
reading gives back what was written exactly if no row can be mistaken for a
header (`decode_written_iff`).
-/
namespace FluxComposer.Table

open Csv (Record LineEnd)

-- ============================================================== writing

/-- A row of a result. -/
structure WrittenRow where
  result : String
  table : String
  cells : List String
  named : table ≠ ""

namespace WrittenRow

/-- The fields of a row, which a table shows. -/
def fields (r : WrittenRow) : List String := r.result :: r.table :: r.cells

/-- A row as it is written, behind the column of the annotations. -/
def record (r : WrittenRow) : Record := "" :: r.fields

/-- A row has both fields that make a record a header. -/
def LooksLikeHeader (r : WrittenRow) : Prop :=
  "result" ∈ r.fields ∧ "table" ∈ r.fields

instance (r : WrittenRow) : Decidable r.LooksLikeHeader :=
  inferInstanceAs (Decidable (_ ∧ _))

end WrittenRow

/-- A block of a result: annotations, which begin with a number sign,
labels and rows. -/
structure WrittenBlock where
  annotations : List Record
  labels : List String
  rows : List WrittenRow
  annotating : ∀ r ∈ annotations,
    ∃ label fields, r = ("#" ++ label) :: fields

namespace WrittenBlock

/-- The columns of the tables of a block. -/
def columns (b : WrittenBlock) : List String :=
  "result" :: "table" :: b.labels

/-- The header of a block: no annotation, then the columns. -/
def header (b : WrittenBlock) : Record := "" :: b.columns

/-- A block as it is written. -/
def records (b : WrittenBlock) : List Record :=
  b.annotations ++ b.header :: b.rows.map (·.record)

/-- The table of a block with a name. -/
def tableNamed (b : WrittenBlock) (name : String) : Table where
  columns := b.columns
  rows := (b.rows.filter (·.table = name)).map (·.fields)

/-- The tables of a block, in the order in which their first rows come. -/
def tables (b : WrittenBlock) : List Table :=
  (b.rows.map (·.table)).eraseDups.map b.tableNamed

end WrittenBlock

/-- The text of a result. -/
def written (lineEnd : LineEnd) (blocks : List WrittenBlock) : String :=
  Csv.text lineEnd (blocks.flatMap (·.records))

-- ============================================================== records

variable {b : WrittenBlock}

/-- The annotations of a block are told apart by their number sign. -/
theorem kind_annotating {record : Record} (h : record ∈ b.annotations) :
    RecordKind.of record = .annotating := by
  obtain ⟨label, fields, rfl⟩ := b.annotating record h
  simp [RecordKind.of]

/-- The header of a block is told apart by its columns. -/
theorem kind_header (b : WrittenBlock) :
    RecordKind.of b.header = .header := by
  simp [RecordKind.of, WrittenBlock.header, WrittenBlock.columns]

/-- A row is read as a header or as data. -/
theorem kind_record (r : WrittenRow) : RecordKind.of r.record
    = if r.LooksLikeHeader then .header else .data := by
  have hnamed := r.named
  simp [RecordKind.of, WrittenRow.record, WrittenRow.fields,
    WrittenRow.LooksLikeHeader, hnamed]

/-- No written record is without fields. -/
theorem ne_nil_of_mem_records {record : Record} (h : record ∈ b.records) :
    record ≠ [] := by
  rintro rfl
  -- annotations, header and rows each have a first field
  rcases List.mem_append.1 h with hnote | hrest
  · obtain ⟨_, _, hnote⟩ := b.annotating _ hnote
    cases hnote
  · rcases List.mem_cons.1 hrest with hheader | hrow
    · cases hheader
    · obtain ⟨row, -, hrow⟩ := List.mem_map.1 hrow
      cases hrow

/-- The text of a result is taken apart into the records it was made of. -/
theorem decode_written (lineEnd : LineEnd) (blocks : List WrittenBlock) :
    decode (written lineEnd blocks)
      = ofRecords (blocks.flatMap (·.records)) := by
  have hsome : ∀ record ∈ blocks.flatMap (·.records), record ≠ [] := by
    intro record h
    obtain ⟨b, -, hrecord⟩ := List.mem_flatMap.1 h
    exact ne_nil_of_mem_records hrecord
  unfold decode written
  rw [Csv.records_text lineEnd hsome]

-- =============================================================== blocks

/-- The header of a block with a number. -/
def WrittenBlock.numbered (b : WrittenBlock) (number : Nat) : Block :=
  ⟨number, b.header⟩

/-- A block is read under the number that follows the last one. -/
def nextNumber (p : Progress) : Nat :=
  match p.block with
  | some b => b.number + 1
  | none => 0

/-- The rows of a block under the keys of their tables. -/
def WrittenBlock.keyed (b : WrittenBlock) (number : Nat) :
    List (Key × List String) :=
  b.rows.map fun r => ((number, r.table), r.fields)

/-- An annotation changes nothing. -/
theorem step_annotating {p : Progress} {record : Record}
    (h : RecordKind.of record = .annotating) : p.step record = p := by
  unfold Progress.step
  rw [h]

/-- Records that are annotations change nothing together. -/
theorem foldl_step_annotations (p : Progress) {records : List Record}
    (h : ∀ r ∈ records, RecordKind.of r = .annotating) :
    records.foldl Progress.step p = p := by
  induction records with
  | nil => rfl
  | cons r records ih =>
      rw [List.foldl_cons, step_annotating (h r List.mem_cons_self)]
      exact ih fun r hr => h r (List.mem_cons_of_mem _ hr)

/-- A header opens a block with the next number and adds no table. -/
theorem step_header (p : Progress) (b : WrittenBlock) :
    p.step b.header
      = { p with block := some (b.numbered (nextNumber p)) } := by
  unfold Progress.step
  rw [kind_header]
  rfl

/-- A row of a block goes to the table that it names. -/
theorem step_row {number : Nat} {ts : Keyed} {r : WrittenRow}
    (clear : ¬ r.LooksLikeHeader) :
    Progress.step ⟨some (b.numbered number), ts⟩ r.record
      = ⟨some (b.numbered number),
        ts.add (number, r.table) b.columns r.fields⟩ := by
  unfold Progress.step
  rw [kind_record, if_neg clear]
  rfl

/-- The rows of a block are added one after another, under its number. -/
theorem foldl_step_rows {number : Nat} {rows : List WrittenRow}
    (clear : ∀ r ∈ rows, ¬ r.LooksLikeHeader) (ts : Keyed) :
    (rows.map (·.record)).foldl Progress.step
        ⟨some (b.numbered number), ts⟩
      = ⟨some (b.numbered number), addAll (fun _ => b.columns) ts
        (rows.map fun r => ((number, r.table), r.fields))⟩ := by
  -- on the rows, for any tables so far
  induction rows generalizing ts with
  | nil => rfl
  | cons r rows ih =>
      simp only [List.map_cons, List.foldl_cons]
      rw [step_row (clear r List.mem_cons_self)]
      exact ih (fun r hr => clear r (List.mem_cons_of_mem _ hr)) _

/-- The rows of a block, added one after another, are its tables. -/
theorem map_addAll_keyed (b : WrittenBlock) (number : Nat) :
    (addAll (fun _ => b.columns) [] (b.keyed number)).map (·.2)
      = b.tables := by
  -- in one block the number is fixed, so keys and names are the same
  have hinjective : Function.Injective fun name : String =>
      (number, name) := fun _ _ h => (Prod.mk.inj h).2
  have hkeys : (b.keyed number).map (·.1)
      = (b.rows.map (·.table)).map fun name => (number, name) := by
    simp [WrittenBlock.keyed]
  rw [addAll_nil]
  unfold grouped WrittenBlock.tables
  rw [hkeys, eraseDups_map hinjective, List.map_map, List.map_map]
  refine List.map_congr_left fun name _ => ?_
  simp [tableOf, WrittenBlock.tableNamed, WrittenBlock.keyed,
    List.filter_map, Function.comp_def]

/-- Tables are known by blocks that have been read before. -/
def Behind (p : Progress) : Prop :=
  ∀ key ∈ p.tables.map (·.1), key.1 < nextNumber p

/-- A block without a row that looks like a header adds its tables behind
those of the blocks before it. -/
theorem foldl_step_records {p : Progress} (behind : Behind p)
    (clear : ∀ r ∈ b.rows, ¬ r.LooksLikeHeader) :
    Behind (b.records.foldl Progress.step p)
      ∧ (b.records.foldl Progress.step p).tables.map (·.2)
        = p.tables.map (·.2) ++ b.tables := by
  have hread : b.records.foldl Progress.step p
      = ⟨some (b.numbered (nextNumber p)), p.tables
        ++ addAll (fun _ => b.columns) [] (b.keyed (nextNumber p))⟩ := by
    -- the number of the block is new, so no row goes to an older table
    have hothers : ∀ r ∈ b.keyed (nextNumber p),
        r.1 ∉ p.tables.map (·.1) := by
      intro r hr hmem
      obtain ⟨row, -, rfl⟩ := List.mem_map.1 hr
      exact Nat.lt_irrefl _ (behind _ hmem)
    unfold WrittenBlock.records
    rw [List.foldl_append, foldl_step_annotations p fun _ => kind_annotating,
      List.foldl_cons, step_header, foldl_step_rows clear]
    refine congrArg (Progress.mk _) ?_
    rw [← addAll_append _ _ hothers, List.append_nil]
    rfl
  rw [hread]
  refine ⟨fun key hkey => ?_, ?_⟩
  · show key.1 < nextNumber p + 1
    rw [List.map_append, addAll_nil, map_fst_grouped,
      List.mem_append, List.mem_eraseDups] at hkey
    rcases hkey with hold | hnew
    · exact Nat.lt_succ_of_lt (behind key hold)
    · unfold WrittenBlock.keyed at hnew
      rw [List.map_map] at hnew
      obtain ⟨row, -, rfl⟩ := List.mem_map.1 hnew
      exact Nat.lt_succ_self _
  · rw [List.map_append, map_addAll_keyed]

/-- Blocks without a row that looks like a header are read as they were
written. -/
theorem tables_foldl_records {blocks : List WrittenBlock} {p : Progress}
    (behind : Behind p)
    (clear : ∀ b ∈ blocks, ∀ r ∈ b.rows, ¬ r.LooksLikeHeader) :
    ((blocks.flatMap (·.records)).foldl Progress.step p).tables.map (·.2)
      = p.tables.map (·.2) ++ blocks.flatMap (·.tables) := by
  -- on the blocks: each leaves only numbers behind the next one's
  induction blocks generalizing p with
  | nil => exact (List.append_nil _).symm
  | cons b blocks ih =>
      obtain ⟨hbehind, htables⟩ :=
        foldl_step_records behind (clear b List.mem_cons_self)
      rw [List.flatMap_cons, List.foldl_append,
        ih hbehind fun b hb => clear b (List.mem_cons_of_mem _ hb),
        htables, List.flatMap_cons, List.append_assoc]

-- ================================================================= loss

/-- Every row that is read comes from a record of data. -/
theorem rowCount_ofRecords_le (rs : List Record) :
    rowCount (ofRecords rs) ≤ rs.countP (RecordKind.of · = .data) := by
  -- one record adds at most one row, and only a record of data adds it
  have hstep : ∀ (p : Progress) (r : Record),
      rowCount ((p.step r).tables.map (·.2))
        ≤ rowCount (p.tables.map (·.2))
          + if RecordKind.of r = .data then 1 else 0 := by
    intro p r
    unfold Progress.step
    cases hkind : RecordKind.of r with
    | annotating | blank | header => exact Nat.le_refl _
    | data =>
        cases p.block with
        | none => exact Nat.le_succ _
        | some b => exact Nat.le_of_eq (rowCount_add ..)
  unfold ofRecords
  induction rs using List.reverseRecOn with
  | nil => exact Nat.le_refl _
  | append_singleton rs r ih =>
      have hnext := hstep (rs.foldl Progress.step {}) r
      rw [List.foldl_append, List.countP_append, List.countP_singleton]
      simp only [decide_eq_true_eq]
      exact Nat.le_trans hnext (Nat.add_le_add_right ih _)

/-- As many rows of a block are read as do not look like a header. -/
theorem countP_records (b : WrittenBlock) :
    b.records.countP (RecordKind.of · = .data)
      = b.rows.countP (¬ ·.LooksLikeHeader) := by
  -- neither the annotations nor the header are data
  have hannotations :
      b.annotations.countP (RecordKind.of · = .data) = 0 := by
    rw [List.countP_eq_zero]
    intro r hr
    rw [kind_annotating hr]
    decide
  unfold WrittenBlock.records
  rw [List.countP_append, hannotations, List.countP_cons, kind_header,
    List.countP_map, Nat.zero_add]
  refine List.countP_congr fun r _ => ?_
  simp only [Function.comp_apply, kind_record]
  split <;> simp_all

/-- The tables of a block have all its rows. -/
theorem rowCount_tables (b : WrittenBlock) :
    rowCount b.tables = b.rows.length := by
  rw [← map_addAll_keyed b 0, rowCount_addAll, WrittenBlock.keyed,
    List.length_map]
  exact Nat.zero_add _

/-- The tables that should be read have all rows that were written. -/
theorem rowCount_flatMap_tables (blocks : List WrittenBlock) :
    rowCount (blocks.flatMap (·.tables))
      = (blocks.flatMap (·.rows)).length := by
  induction blocks with
  | nil => rfl
  | cons b blocks ih =>
      rw [List.flatMap_cons, List.flatMap_cons, rowCount_append,
        rowCount_tables, ih, List.length_append]

/-- As many records are data as rows do not look like a header. -/
theorem countP_flatMap_records (blocks : List WrittenBlock) :
    (blocks.flatMap (·.records)).countP (RecordKind.of · = .data)
      = (blocks.flatMap (·.rows)).countP (¬ ·.LooksLikeHeader) := by
  induction blocks with
  | nil => rfl
  | cons b blocks ih =>
      rw [List.flatMap_cons, List.flatMap_cons, List.countP_append,
        List.countP_append, countP_records, ih]

/-- A written result is read as it was exactly if no row has both a field
`result` and a field `table`. -/
theorem decode_written_iff (lineEnd : LineEnd)
    (blocks : List WrittenBlock) :
    decode (written lineEnd blocks) = blocks.flatMap (·.tables)
      ↔ ∀ b ∈ blocks, ∀ r ∈ b.rows, ¬ r.LooksLikeHeader := by
  rw [decode_written]
  constructor
  · intro h b hb r hr
    -- a loss shows in the number of rows: it is at most that of the rows
    -- that do not look like a header
    have hle := rowCount_ofRecords_le (blocks.flatMap (·.records))
    rw [h, rowCount_flatMap_tables, countP_flatMap_records] at hle
    have hall := List.countP_eq_length.1
      (Nat.le_antisymm List.countP_le_length hle)
    simpa using hall r (List.mem_flatMap.2 ⟨b, hb, hr⟩)
  · exact tables_foldl_records fun key hkey => nomatch hkey

/-- A listing in which a field is called `result` and its measurement
`table`. -/
def misreadBlock : WrittenBlock where
  annotations := [["#datatype", "string", "long", "string", "string"]]
  labels := ["_field", "_measurement"]
  rows := [
    { result := "_result", table := "0", cells := ["usage", "cpu"]
      named := by decide },
    { result := "_result", table := "0", cells := ["result", "table"]
      named := by decide },
    { result := "_result", table := "0", cells := ["free", "mem"]
      named := by decide }]
  annotating := fun _ h => ⟨"datatype", _, List.mem_singleton.1 h⟩

/-- Its second row is lost, and the third is read under the fields of the
second. -/
theorem decode_written_misread :
    decode (written .lineFeed [misreadBlock])
        = [⟨["result", "table", "_field", "_measurement"],
            [["_result", "0", "usage", "cpu"]]⟩,
          ⟨["_result", "0", "result", "table"],
            [["_result", "0", "free", "mem"]]⟩]
      ∧ decode (written .lineFeed [misreadBlock])
        ≠ [misreadBlock].flatMap (·.tables) := by
  rw [decode_written]
  decide +kernel

end FluxComposer.Table
