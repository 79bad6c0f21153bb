import FluxComposer.Proofs.Influx.Grouping
/-
The tables of a result as one grouping of its data. Each data record
belongs to the last header before it, and under that header to the table
that it names (`entries`); there is one table for each header and name, in
the order in which they first come, with the records of both in their
order (`referenceTables`). Decoding reads a text record by record and keeps
a block number and the tables so far. What it keeps is always the grouping
of the records read (`foldl_step_eq`), so in the end it is that of the
text (`decode_eq_referenceTables`).
-/
namespace FluxComposer.Table

open Csv (Record)

variable {rs : List Record} {r : Record}

-- ============================================================= records

/-- The first field of a record begins with a number sign. -/
def IsAnnotating (r : Record) : Prop :=
  ∃ note fields, r = String.ofList ('#' :: note) :: fields

/-- All fields of a record are empty. -/
def IsBlank (r : Record) : Prop := ∀ field ∈ r, field = ""

/-- A record has both fields that a header has. -/
def NamesColumns (r : Record) : Prop := "result" ∈ r ∧ "table" ∈ r

/-- A record with content that names the columns of those behind it. -/
structure IsHeader (r : Record) : Prop where
  annotation : ¬ IsAnnotating r
  blank : ¬ IsBlank r
  names : NamesColumns r

/-- A record with content that names no columns. -/
structure IsData (r : Record) : Prop where
  annotation : ¬ IsAnnotating r
  blank : ¬ IsBlank r
  names : ¬ NamesColumns r

/-- The first sign of the first field decides, as the code looks at it. -/
theorem isAnnotating_iff :
    IsAnnotating r ↔ (r.head?.getD "").toList.head? = some '#' := by
  cases r with
  | nil => simp [IsAnnotating]
  | cons field fields =>
      rw [List.head?_cons, Option.getD_some, List.head?_eq_some_iff]
      constructor
      · rintro ⟨note, _, h⟩
        rw [(List.cons.inj h).1, String.toList_ofList]
        exact ⟨note, rfl⟩
      · rintro ⟨note, h⟩
        exact ⟨note, fields, by rw [← h, String.ofList_toList]⟩

/-- The code's test for a record without content. -/
theorem isBlank_iff : IsBlank r ↔ r.all (· = "") = true := by
  simp [IsBlank]

/-- The code's test for a header's two fields. -/
theorem namesColumns_iff : NamesColumns r
    ↔ (r.contains "result" && r.contains "table") = true := by
  simp [NamesColumns]

/-- What a record is for, taken apart once. -/
theorem kind_iff (r : Record) :
    (RecordKind.of r = .header ↔ IsHeader r)
      ∧ (RecordKind.of r = .data ↔ IsData r) := by
  have hheader : IsHeader r
      ↔ ¬ IsAnnotating r ∧ ¬ IsBlank r ∧ NamesColumns r :=
    ⟨fun h => ⟨h.annotation, h.blank, h.names⟩, fun h => ⟨h.1, h.2.1, h.2.2⟩⟩
  have hdata : IsData r
      ↔ ¬ IsAnnotating r ∧ ¬ IsBlank r ∧ ¬ NamesColumns r :=
    ⟨fun h => ⟨h.annotation, h.blank, h.names⟩, fun h => ⟨h.1, h.2.1, h.2.2⟩⟩
  rw [hheader, hdata, isAnnotating_iff, isBlank_iff, namesColumns_iff]
  unfold RecordKind.of
  by_cases hnote : (r.head?.getD "").toList.head? = some '#'
  · simp [hnote]
  · by_cases hblank : r.all (· = "") = true
    · simp [hnote, hblank]
    · by_cases hnames :
        (r.contains "result" && r.contains "table") = true
      · simp only [hnote, hblank, hnames]
        simp
      · simp only [hnote, hblank, hnames]
        simp

instance (r : Record) : Decidable (IsHeader r) :=
  decidable_of_iff _ (kind_iff r).1

instance (r : Record) : Decidable (IsData r) :=
  decidable_of_iff _ (kind_iff r).2

-- ============================================================ grouping

/-- The headers among records. -/
def headers (rs : List Record) : List Record := rs.filter (IsHeader ·)

/-- The number of the last header of records, counted from zero. -/
def lastHeader? (rs : List Record) : Option Nat :=
  match (headers rs).length with
  | 0 => none
  | n + 1 => some n

/-- The data records in order, each with the number of the header that it
belongs to, which is the last one before it. What comes before all headers
is left out. -/
def entries (rs : List Record) : List (Nat × Record) :=
  rs.zipIdx.filterMap fun (r, i) =>
    if IsData r then (lastHeader? (rs.take i)).map (·, r) else none

/-- The labels of the header with a number. -/
def labelsOf (rs : List Record) (n : Nat) : List String :=
  (headers rs)[n]?.getD []

/-- The name that a record has under labels: its field in the first column
`table`, or nothing where it is too short. -/
def nameIn (labels : List String) (r : Record) : String :=
  r[labels.idxOf "table"]?.getD ""

/-- The fields that a table shows: a first column without a label is
none. -/
def shown (labels fields : List String) : List String :=
  if labels.head? = some "" then fields.tail else fields

/-- The table that a data record belongs to: its header and its name. -/
def keyOf (rs : List Record) (e : Nat × Record) : Key :=
  (e.1, nameIn (labelsOf rs e.1) e.2)

/-- What a table shows of a data record. -/
def rowOf (rs : List Record) (e : Nat × Record) : List String :=
  shown (labelsOf rs e.1) e.2

/-- One table for each header and name of data records, in the order in
which they first come, with the labels of the header and its records in
order. -/
def referenceTables (rs : List Record) : List Table :=
  ((entries rs).map (keyOf rs)).eraseDups.map fun key => {
    columns := shown (labelsOf rs key.1) (labelsOf rs key.1)
    rows := ((entries rs).filter (keyOf rs · = key)).map (rowOf rs) }

-- ===================================================== one more record

/-- A record behind others is one more header or none. -/
theorem headers_concat (rs : List Record) (r : Record) :
    headers (rs ++ [r])
      = headers rs ++ if IsHeader r then [r] else [] := by
  unfold headers
  rw [List.filter_append, List.filter_singleton]
  by_cases h : IsHeader r <;> simp [h]

/-- A data record belongs to the last header among those before it, and
those before it keep theirs. -/
theorem entries_concat (rs : List Record) (r : Record) :
    entries (rs ++ [r]) = entries rs
      ++ (if IsData r then (lastHeader? rs).map (·, r) else none).toList := by
  unfold entries
  rw [List.zipIdx_append, List.filterMap_append]
  congr 1
  · -- the records before an old one are the same in the longer list
    refine List.filterMap_congr fun ⟨x, i⟩ h => ?_
    have hlt : i < rs.length := by simpa using List.snd_lt_of_mem_zipIdx h
    simp only [List.take_append_of_le_length (Nat.le_of_lt hlt)]
  · simp only [List.zipIdx_cons, List.zipIdx_nil, Nat.zero_add,
      List.filterMap_cons, List.filterMap_nil, List.take_left]
    cases (if IsData r then (lastHeader? rs).map (·, r) else none) <;> rfl

/-- The last header has the number of those before it. -/
theorem lastHeader?_eq_some_iff {n : Nat} :
    lastHeader? rs = some n ↔ (headers rs).length = n + 1 := by
  unfold lastHeader?
  cases (headers rs).length <;> simp

/-- The header of a data record is one of the headers. -/
theorem lt_length_headers {e : Nat × Record} (h : e ∈ entries rs) :
    e.1 < (headers rs).length := by
  -- on the last record: headers only grow, and a new entry names the last
  induction rs using List.reverseRecOn with
  | nil => cases h
  | append_singleton rs r ih =>
      rw [headers_concat, List.length_append]
      rw [entries_concat, List.mem_append] at h
      rcases h with hold | hnew
      · exact Nat.lt_add_right _ (ih hold)
      · rw [Option.mem_toList] at hnew
        split at hnew
        next =>
          obtain ⟨n, hn, rfl⟩ := Option.map_eq_some_iff.1 hnew
          rw [lastHeader?_eq_some_iff] at hn
          show n < _
          omega
        next => cases hnew

/-- The labels of a header stay when a record comes behind. -/
theorem labelsOf_concat {n : Nat} (h : n < (headers rs).length)
    (r : Record) : labelsOf (rs ++ [r]) n = labelsOf rs n := by
  unfold labelsOf
  rw [headers_concat, List.getElem?_append_left h]

/-- Every header has its labels, among them the column `table`. -/
theorem table_mem_labelsOf {n : Nat} (h : n < (headers rs).length) :
    "table" ∈ labelsOf rs n := by
  unfold labelsOf
  rw [List.getElem?_eq_getElem h, Option.getD_some]
  have hmem : (headers rs)[n] ∈ rs.filter (IsHeader ·) :=
    List.getElem_mem h
  exact (of_decide_eq_true (List.mem_filter.1 hmem).2).names.2

-- ============================================================= decoding

/-- The rows of data records under the keys of their tables. -/
def keyedRows (rs : List Record) : List (Key × List String) :=
  (entries rs).map fun e => (keyOf rs e, rowOf rs e)

/-- The columns of a table are the labels of its header, without an empty
first one. -/
def columnsOf (rs : List Record) (key : Key) : List String :=
  shown (labelsOf rs key.1) (labelsOf rs key.1)

/-- What is kept when records have been read: the last header with its
number, and their grouping. -/
def progressAfter (rs : List Record) : Progress where
  block := (lastHeader? rs).map fun n => ⟨n, labelsOf rs n⟩
  tables := grouped (columnsOf rs) (keyedRows rs)

/-- Cutting the first column off a row is what a table shows of it. -/
theorem cut_eq_shown (b : Block) (fields : List String) :
    b.cut fields = shown b.labels fields := by
  unfold Block.cut shown
  rw [List.drop_one]

/-- Under labels with a column `table` the code's search for it succeeds, so
its name for a row is the one meant. -/
theorem tableName_eq_nameIn {b : Block} (h : "table" ∈ b.labels)
    (r : Record) : b.tableName r = nameIn b.labels r := by
  have hfind : b.labels.findIdx? (· = "table")
      = some (b.labels.idxOf "table") :=
    List.findIdx?_eq_some_iff_findIdx_eq.2
      ⟨List.idxOf_lt_length_of_mem h, rfl⟩
  unfold Block.tableName nameIn
  rw [hfind]

/-- A data record behind a header adds one row, any other record none. -/
theorem keyedRows_concat (rs : List Record) (r : Record) :
    keyedRows (rs ++ [r]) = keyedRows rs
      ++ ((if IsData r then lastHeader? rs else none).map fun n =>
        ((n, nameIn (labelsOf rs n) r), shown (labelsOf rs n) r)).toList := by
  -- the old entries keep their rows, for their headers keep their labels
  have hold : (entries rs).map
      (fun e => (keyOf (rs ++ [r]) e, rowOf (rs ++ [r]) e))
      = keyedRows rs := by
    refine List.map_congr_left fun e he => ?_
    unfold keyOf rowOf
    rw [labelsOf_concat (lt_length_headers he)]
  unfold keyedRows at hold ⊢
  rw [entries_concat, List.map_append, hold]
  congr 1
  split
  · cases hlast : lastHeader? rs with
    | none => rfl
    | some n =>
        have hn : n < (headers rs).length := by
          rw [lastHeader?_eq_some_iff] at hlast
          omega
        simp [keyOf, rowOf, labelsOf_concat hn]
  · rfl

/-- The grouping so far stays when its headers get others behind them. -/
theorem grouped_columnsOf_concat (rs : List Record) (r : Record) :
    grouped (columnsOf (rs ++ [r])) (keyedRows rs)
      = grouped (columnsOf rs) (keyedRows rs) := by
  refine grouped_congr fun row hrow => ?_
  obtain ⟨e, he, rfl⟩ := List.mem_map.1 hrow
  unfold columnsOf keyOf
  rw [labelsOf_concat (lt_length_headers he)]

/-- A header becomes the last one; other records leave it. -/
theorem lastHeader?_concat (rs : List Record) (r : Record) :
    lastHeader? (rs ++ [r])
      = if IsHeader r then some (headers rs).length else lastHeader? rs := by
  unfold lastHeader?
  rw [headers_concat]
  by_cases h : IsHeader r
  · rw [if_pos h, if_pos h, List.length_append]
    rfl
  · rw [if_neg h, if_neg h, List.append_nil]

/-- A header is the last one, and has the number behind the others. -/
theorem progressAfter_concat_header (h : IsHeader r) :
    progressAfter (rs ++ [r])
      = { progressAfter rs with block := some ⟨(headers rs).length, r⟩ } := by
  have hlabels : labelsOf (rs ++ [r]) (headers rs).length = r := by
    unfold labelsOf
    rw [headers_concat, if_pos h]
    simp
  have hdata : ¬ IsData r := fun hd => hd.names h.names
  unfold progressAfter
  rw [lastHeader?_concat, if_pos h, Option.map_some, hlabels,
    keyedRows_concat, if_neg hdata, Option.map_none, Option.toList_none,
    List.append_nil, grouped_columnsOf_concat]

/-- A record that is no header leaves the labels, and can only add a row. -/
theorem progressAfter_concat_of_not_header (h : ¬ IsHeader r) :
    progressAfter (rs ++ [r])
      = { progressAfter rs with
          tables := grouped (columnsOf rs) (keyedRows (rs ++ [r])) } := by
  have hheaders : headers (rs ++ [r]) = headers rs := by
    rw [headers_concat, if_neg h, List.append_nil]
  have hlabels : labelsOf (rs ++ [r]) = labelsOf rs := by
    unfold labelsOf
    rw [hheaders]
  unfold progressAfter columnsOf
  rw [lastHeader?_concat, if_neg h, hlabels]

/-- What is kept is the grouping of what has been read. -/
theorem foldl_step_eq (rs : List Record) :
    rs.foldl Progress.step {} = progressAfter rs := by
  -- on the last record, by what it is: each kind is one equation for what
  -- is kept after it
  induction rs using List.reverseRecOn with
  | nil => rfl
  | append_singleton rs r ih =>
      rw [List.foldl_append, ih]
      show (progressAfter rs).step r = progressAfter (rs ++ [r])
      by_cases hheader : IsHeader r
      · rw [progressAfter_concat_header hheader]
        unfold Progress.step
        rw [(kind_iff r).1.2 hheader]
        unfold progressAfter lastHeader?
        cases (headers rs).length <;> rfl
      · rw [progressAfter_concat_of_not_header hheader, keyedRows_concat]
        by_cases hdata : IsData r
        · unfold Progress.step
          rw [(kind_iff r).2.2 hdata, if_pos hdata]
          cases hlast : lastHeader? rs with
          | none => simp [progressAfter, hlast]
          | some n =>
              have hn : n < (headers rs).length := by
                rw [lastHeader?_eq_some_iff] at hlast
                omega
              have hname := tableName_eq_nameIn
                (b := ⟨n, labelsOf rs n⟩) (table_mem_labelsOf hn) r
              have hadd := add_grouped (columnsOf rs) (keyedRows rs)
                (n, nameIn (labelsOf rs n) r) (shown (labelsOf rs n) r)
              simp only [progressAfter, hlast, Option.map_some, hname,
                cut_eq_shown]
              exact congrArg (Progress.mk _) hadd
        · have hother : RecordKind.of r = .annotating
              ∨ RecordKind.of r = .blank := by
            have hkind := kind_iff r
            cases hk : RecordKind.of r with
            | annotating => exact .inl rfl
            | blank => exact .inr rfl
            | header => exact absurd (hkind.1.1 hk) hheader
            | data => exact absurd (hkind.2.1 hk) hdata
          rw [if_neg hdata]
          unfold Progress.step
          rcases hother with hk | hk <;> simp [hk, progressAfter]

-- =============================================================== tables

/-- The tables of records are the grouping of their data. -/
theorem ofRecords_eq_referenceTables (rs : List Record) :
    ofRecords rs = referenceTables rs := by
  have hkeys : (keyedRows rs).map (·.1) = (entries rs).map (keyOf rs) := by
    unfold keyedRows
    rw [List.map_map]
    rfl
  unfold ofRecords referenceTables
  rw [foldl_step_eq]
  unfold progressAfter grouped
  rw [List.map_map, hkeys]
  refine List.map_congr_left fun key _ => ?_
  simp only [Function.comp_apply, tableOf, columnsOf, keyedRows,
    List.filter_map, List.map_map, Function.comp_def]

/-- No table is empty. -/
theorem rows_ne_nil_of_mem {t : Table} (h : t ∈ referenceTables rs) :
    t.rows ≠ [] := by
  obtain ⟨key, hkey, rfl⟩ := List.mem_map.1 h
  -- a key is listed only because some entry has it
  obtain ⟨e, he, rfl⟩ := List.mem_map.1 (List.mem_eraseDups.1 hkey)
  intro hnil
  rw [List.map_eq_nil_iff, List.filter_eq_nil_iff] at hnil
  exact hnil e he (decide_eq_true rfl)

/-- Every data record behind a header is shown once. -/
theorem allRows_referenceTables_perm (rs : List Record) :
    (allRows (referenceTables rs)).Perm ((entries rs).map (rowOf rs)) := by
  have hrows : (keyedRows rs).map (·.2) = (entries rs).map (rowOf rs) := by
    unfold keyedRows
    rw [List.map_map]
    rfl
  -- by the fold: adding a row to its table loses none and repeats none
  rw [← ofRecords_eq_referenceTables, ← hrows]
  unfold ofRecords
  rw [foldl_step_eq]
  show (allRows ((grouped (columnsOf rs) (keyedRows rs)).map (·.2))).Perm _
  rw [← addAll_nil]
  exact allRows_addAll_perm (columnsOf rs) (keyedRows rs) []

/-- The tables of a text are the grouping of its data: each record behind a
header is in one table and no table is empty. The labels that a record is
read under are those of a header, which has a column `table`. -/
theorem decode_eq_referenceTables (body : String) :
    decode body = referenceTables (Csv.records body)
      ∧ (allRows (decode body)).Perm
          ((entries (Csv.records body)).map (rowOf (Csv.records body)))
      ∧ (∀ t ∈ decode body, t.rows ≠ [])
      ∧ ∀ e ∈ entries (Csv.records body),
          e.1 < (headers (Csv.records body)).length
            ∧ "table" ∈ labelsOf (Csv.records body) e.1 := by
  have hdecode : decode body = referenceTables (Csv.records body) :=
    ofRecords_eq_referenceTables (Csv.records body)
  rw [hdecode]
  refine ⟨rfl, allRows_referenceTables_perm _, ?_, fun e he => ?_⟩
  · exact fun t ht => rows_ne_nil_of_mem ht
  · have hlt := lt_length_headers he
    exact ⟨hlt, table_mem_labelsOf hlt⟩

/-- Tables are interleaved, a row is short, and a name comes again under
another header. -/
example : decode ("0,early\n,result,table,v\n,,0,a\n,,1,b\n,,0\n"
      ++ "result,table\n,0,c,d\n")
    = [⟨["result", "table", "v"], [["", "0", "a"], ["", "0"]]⟩,
      ⟨["result", "table", "v"], [["", "1", "b"]]⟩,
      ⟨["result", "table"], [["", "0", "c", "d"]]⟩] := by
  decide +kernel

end FluxComposer.Table
