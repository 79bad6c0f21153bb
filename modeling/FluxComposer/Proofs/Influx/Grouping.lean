import FluxComposer.Influx.Table
import Mathlib.Data.List.Induction
import Mathlib.Data.List.Nodup
/-
What becomes of rows that are added to tables one after another: one table
for each key, in the order in which the keys first come, with the rows of
the key in their order (`addAll_nil`). Whatever the keys, no row is lost
and none comes twice (`allRows_addAll_perm`).

The table that a row is added to is searched for from the front, and this
is where the order of tables comes from: a row for a key that is there
goes into its table, wherever that stands (`add_append`), and a row for a
new key begins a table behind all others (`add_of_not_mem`).
-/
namespace FluxComposer.Table

/-- What a table is known by: its block and its name. -/
abbrev Key := Nat × String

variable {key : Key} {columns row : List String}

-- ================================================================= rows

/-- A row for a key that comes behind other keys is added there. -/
theorem add_append {front : Keyed} (other : key ∉ front.map (·.1))
    (back : Keyed) : Keyed.add (front ++ back) key columns row
      = front ++ Keyed.add back key columns row := by
  induction front with
  | nil => rfl
  | cons entry front ih =>
      obtain ⟨k, t⟩ := entry
      rw [List.map_cons, List.mem_cons, not_or] at other
      rw [List.cons_append, Keyed.add, if_neg (Ne.symm other.1),
        ih other.2, List.cons_append]

/-- A row for a new key begins a table behind all others. -/
theorem add_of_not_mem {ts : Keyed} (new : key ∉ ts.map (·.1)) :
    ts.add key columns row = ts ++ [(key, ⟨columns, [row]⟩)] := by
  calc ts.add key columns row
      = Keyed.add (ts ++ []) key columns row := by rw [List.append_nil]
    _ = ts ++ [(key, ⟨columns, [row]⟩)] := add_append new []

/-- Rows that are added one after another, each to the table of its key.
The labels of a table are a matter of its key. -/
def addAll (labels : Key → List String) (ts : Keyed)
    (rows : List (Key × List String)) : Keyed :=
  rows.foldl (fun ts r => ts.add r.1 (labels r.1) r.2) ts

variable (labels : Key → List String) (rows : List (Key × List String))

/-- Rows for keys that come behind other keys are added there. -/
theorem addAll_append {front : Keyed}
    (others : ∀ r ∈ rows, r.1 ∉ front.map (·.1)) (back : Keyed) :
    addAll labels (front ++ back) rows
      = front ++ addAll labels back rows := by
  unfold addAll
  induction rows generalizing back with
  | nil => rfl
  | cons r rows ih =>
      rw [List.foldl_cons, add_append (others r List.mem_cons_self),
        ih fun r hr => others r (List.mem_cons_of_mem _ hr)]
      rfl

/-- The rows of tables, table by table. -/
def allRows (ts : List Table) : List (List String) := ts.flatMap (·.rows)

/-- A row that is added comes to those that are there. -/
theorem allRows_add_perm (ts : Keyed) (key : Key)
    (columns row : List String) :
    (allRows ((ts.add key columns row).map (·.2))).Perm
      (allRows (ts.map (·.2)) ++ [row]) := by
  unfold allRows
  -- in the table that it goes to, the row comes before those of later
  -- tables
  induction ts with
  | nil => exact List.Perm.refl _
  | cons entry ts ih =>
      obtain ⟨k, t⟩ := entry
      unfold Keyed.add
      split
      · simp only [List.map_cons, List.flatMap_cons, List.append_assoc]
        exact List.perm_append_comm.append_left t.rows
      · simp only [List.map_cons, List.flatMap_cons, List.append_assoc]
        exact ih.append_left t.rows

/-- No row that is added is lost, and none is there twice. -/
theorem allRows_addAll_perm (ts : Keyed) :
    (allRows ((addAll labels ts rows).map (·.2))).Perm
      (allRows (ts.map (·.2)) ++ rows.map (·.2)) := by
  unfold addAll
  induction rows generalizing ts with
  | nil => rw [List.map_nil, List.append_nil, List.foldl_nil]
  | cons r rows ih =>
      have hrow := (allRows_add_perm ts r.1 (labels r.1) r.2).append_right
        (rows.map (·.2))
      rw [List.append_assoc, List.singleton_append] at hrow
      exact (ih _).trans hrow

/-- The number of rows in tables. -/
def rowCount (ts : List Table) : Nat := (ts.flatMap (·.rows)).length

/-- Rows are counted table by table. -/
theorem rowCount_append (ts ts' : List Table) :
    rowCount (ts ++ ts') = rowCount ts + rowCount ts' := by
  unfold rowCount
  rw [List.flatMap_append, List.length_append]

/-- One row is added. -/
theorem rowCount_add (ts : Keyed) (key : Key) (columns row : List String) :
    rowCount ((ts.add key columns row).map (·.2))
      = rowCount (ts.map (·.2)) + 1 := by
  have h := (allRows_add_perm ts key columns row).length_eq
  rwa [List.length_append] at h

/-- As many rows are added as there are. -/
theorem rowCount_addAll (ts : Keyed) :
    rowCount ((addAll labels ts rows).map (·.2))
      = rowCount (ts.map (·.2)) + rows.length := by
  have h := (allRows_addAll_perm labels rows ts).length_eq
  rwa [List.length_append, List.length_map] at h

-- =============================================================== groups

section Keys

variable {α : Type} [BEq α] [LawfulBEq α]

/-- What came before is not new. -/
theorem eraseDups_concat_of_mem {l : List α} {a : α} (h : a ∈ l) :
    (l ++ [a]).eraseDups = l.eraseDups := by
  rw [List.eraseDups_append]
  simp [List.removeAll, h]

/-- What is new comes last. -/
theorem eraseDups_concat_of_not_mem {l : List α} {a : α} (h : a ∉ l) :
    (l ++ [a]).eraseDups = l.eraseDups ++ [a] := by
  rw [List.eraseDups_append]
  simp [List.removeAll, h, List.eraseDups_cons]

/-- Names that are told apart are the same names after renaming. -/
theorem eraseDups_map {β : Type} [BEq β] [LawfulBEq β] {f : α → β}
    (injective : Function.Injective f) (l : List α) :
    (l.map f).eraseDups = l.eraseDups.map f := by
  -- from the end, where a name is new or has come before
  induction l using List.reverseRecOn with
  | nil => rfl
  | append_singleton l a ih =>
      rw [List.map_append, List.map_singleton]
      by_cases h : a ∈ l
      · rw [eraseDups_concat_of_mem h,
          eraseDups_concat_of_mem (List.mem_map_of_mem h), ih]
      · have hmap : f a ∉ l.map f := fun hf =>
          h ((List.mem_map_of_injective injective).1 hf)
        rw [eraseDups_concat_of_not_mem h,
          eraseDups_concat_of_not_mem hmap, ih, List.map_append,
          List.map_singleton]

/-- Nothing is left twice. -/
theorem nodup_eraseDups (l : List α) : l.eraseDups.Nodup := by
  induction l using List.reverseRecOn with
  | nil => exact List.nodup_nil
  | append_singleton l a ih =>
      by_cases h : a ∈ l
      · rwa [eraseDups_concat_of_mem h]
      · rw [eraseDups_concat_of_not_mem h]
        refine List.nodup_append.2 ⟨ih, List.nodup_singleton a, ?_⟩
        intro b hb c hc
        rw [List.mem_eraseDups] at hb
        rw [List.mem_singleton.1 hc]
        rintro rfl
        exact h hb

end Keys

/-- The table of a key: the rows under the key, in their order. -/
def tableOf (labels : Key → List String)
    (rows : List (Key × List String)) (key : Key) : Table where
  columns := labels key
  rows := (rows.filter (·.1 = key)).map (·.2)

/-- One table for each key, in the order in which the keys first come. -/
def grouped (labels : Key → List String)
    (rows : List (Key × List String)) : Keyed :=
  (rows.map (·.1)).eraseDups.map fun key => (key, tableOf labels rows key)

/-- The tables stand in the order in which their keys first come. -/
theorem map_fst_grouped :
    (grouped labels rows).map (·.1) = (rows.map (·.1)).eraseDups := by
  unfold grouped
  rw [List.map_map]
  exact List.map_id _

/-- A table has the labels of its key, so those of other keys do not
matter. -/
theorem grouped_congr {labels labels' : Key → List String}
    {rows : List (Key × List String)}
    (h : ∀ row ∈ rows, labels row.1 = labels' row.1) :
    grouped labels rows = grouped labels' rows := by
  refine List.map_congr_left fun key hkey => ?_
  obtain ⟨row, hrow, rfl⟩ := List.mem_map.1 (List.mem_eraseDups.1 hkey)
  unfold tableOf
  rw [h row hrow]

/-- A row goes to the end of its table. -/
theorem tableOf_concat_self (key : Key) (row : List String) :
    tableOf labels (rows ++ [(key, row)]) key
      = { tableOf labels rows key with
          rows := (tableOf labels rows key).rows ++ [row] } := by
  simp [tableOf]

/-- A row of another key does not come into a table. -/
theorem tableOf_concat_ne {key key' : Key} (other : key' ≠ key)
    (row : List String) : tableOf labels (rows ++ [(key, row)]) key'
      = tableOf labels rows key' := by
  simp [tableOf, Ne.symm other]

/-- Behind the other keys, one more row changes nothing. -/
theorem map_tableOf_concat {keys : List Key} (other : key ∉ keys)
    (row : List String) :
    (keys.map fun k => (k, tableOf labels (rows ++ [(key, row)]) k))
      = keys.map fun k => (k, tableOf labels rows k) := by
  refine List.map_congr_left fun k hk => ?_
  rw [tableOf_concat_ne]
  rintro rfl
  exact other hk

/-- A row that is added goes to the table of its key. -/
theorem add_grouped (key : Key) (row : List String) :
    (grouped labels rows).add key (labels key) row
      = grouped labels (rows ++ [(key, row)]) := by
  by_cases hkey : key ∈ rows.map (·.1)
  · -- the table stands between those of other keys
    have hkeys : (rows.map (·.1)).eraseDups.Nodup := nodup_eraseDups _
    obtain ⟨front, back, hsplit⟩ :=
      List.append_of_mem (List.mem_eraseDups.2 hkey)
    rw [hsplit] at hkeys
    have hothers := (List.nodup_cons.1 (List.nodup_middle.1 hkeys)).1
    rw [List.mem_append, not_or] at hothers
    have hfront : key ∉ (front.map fun k =>
        (k, tableOf labels rows k)).map (·.1) := by
      rw [List.map_map]
      exact fun h => hothers.1 (by simpa using h)
    unfold grouped
    rw [List.map_append, List.map_singleton, eraseDups_concat_of_mem hkey,
      hsplit, List.map_append, List.map_append, List.map_cons,
      List.map_cons, add_append hfront, Keyed.add, if_pos rfl,
      tableOf_concat_self, map_tableOf_concat labels rows hothers.1,
      map_tableOf_concat labels rows hothers.2]
  · have hnew : key ∉ (grouped labels rows).map (·.1) := by
      rwa [map_fst_grouped, List.mem_eraseDups]
    have hnone : rows.filter (·.1 = key) = [] := by
      refine List.filter_eq_nil_iff.2 fun entry hentry hkey' => hkey ?_
      exact List.mem_map.2 ⟨entry, hentry, of_decide_eq_true hkey'⟩
    rw [add_of_not_mem hnew]
    unfold grouped
    rw [List.map_append, List.map_singleton,
      eraseDups_concat_of_not_mem hkey, List.map_append,
      map_tableOf_concat labels rows fun h =>
        hkey (List.mem_eraseDups.1 h)]
    simp [tableOf, hnone]

/-- Rows that are added one after another are grouped by their keys. -/
theorem addAll_nil : addAll labels [] rows = grouped labels rows := by
  unfold addAll
  -- from the end of the rows: the last one goes to a table that is grouped
  -- already
  induction rows using List.reverseRecOn with
  | nil => rfl
  | append_singleton rows row ih =>
      rw [List.foldl_append, ih]
      exact add_grouped labels rows row.1 row.2

end FluxComposer.Table
