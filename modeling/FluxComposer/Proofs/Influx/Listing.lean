import FluxComposer.Influx.Schema
import FluxComposer.Proofs.Influx.Grouping
import Mathlib.Data.List.Pairwise
/-
What a listing offers. A name stands in a row of a table, in the first
column `_value`, or where a table has none in the first column that is
listed. Going through the tables row by row gives every name with its
places in order (`occurrences`), and collecting keeps each name at the
first of them, so the names are listed once and by their first places.
There is only one such list (`isListing_distinctValues`), and listing more
tables puts what is new behind.
-/
namespace FluxComposer.Schema

variable {tables : List Table} {t : Table} {label name : String} {i : Nat}

-- ============================================================== places

/-- Where a name stands: the number of the table and that of the row in
it. -/
abbrev Place := Nat × Nat

/-- The table is earlier, or it is the same and the row is earlier. -/
def Place.Before (p q : Place) : Prop :=
  p.1 < q.1 ∨ p.1 = q.1 ∧ p.2 < q.2

/-- Of two places at most one comes before the other. -/
theorem Place.Before.asymm {p q : Place} (h : p.Before q) :
    ¬ q.Before p := by
  unfold Place.Before at h ⊢
  omega

/-- A column is the first one with its label. -/
structure IsFirst (t : Table) (label : String) (i : Nat) : Prop where
  labelled : t.columns[i]? = some label
  first : ∀ j < i, t.columns[j]? ≠ some label

/-- A column holds the names of a listing: the first one labelled
`_value`, or that of the label where no column is. -/
def IsSource (t : Table) (label : String) (i : Nat) : Prop :=
  IsFirst t "_value" i ∨ "_value" ∉ t.columns ∧ IsFirst t label i

/-- A cell that a listing reads. -/
def NamedAt (tables : List Table) (label : String) (place : Place)
    (name : String) : Prop :=
  ∃ t row i, tables[place.1]? = some t ∧ t.rows[place.2]? = some row
    ∧ IsSource t label i ∧ row[i]? = some name

/-- The first of the places with a property. -/
structure IsFirstPlace (stands : Place → Prop) (place : Place) : Prop where
  here : stands place
  first : ∀ earlier : Place, earlier.Before place → ¬ stands earlier

/-- The first place of a name comes before that of another, by the places
where names stand. -/
def FirstBefore (stands : String → Place → Prop) (name later : String) :
    Prop :=
  ∃ p q : Place, IsFirstPlace (stands name) p
    ∧ IsFirstPlace (stands later) q ∧ p.Before q

/-- The names that tables list: those that stand somewhere and are not
empty, each once, by their first places. -/
structure IsListing (tables : List Table) (label : String)
    (names : List String) : Prop where
  nodup : names.Nodup
  mem_iff : ∀ name, name ∈ names
    ↔ name ≠ "" ∧ ∃ place, NamedAt tables label place name
  ordered : names.Pairwise
    (FirstBefore fun name place => NamedAt tables label place name)

/-- There is only one first place. -/
theorem IsFirstPlace.unique {stands : Place → Prop} {p q : Place}
    (hp : IsFirstPlace stands p) (hq : IsFirstPlace stands q) : p = q := by
  -- neither is before the other, so table and row agree
  have hle : ¬ p.Before q := fun h => hq.first p h hp.here
  have hge : ¬ q.Before p := fun h => hp.first q h hq.here
  unfold Place.Before at hle hge
  refine Prod.ext ?_ ?_ <;> omega

/-- Of two names at most one comes first. -/
theorem FirstBefore.asymm {stands : String → Place → Prop}
    {name later : String} (h : FirstBefore stands name later) :
    ¬ FirstBefore stands later name := by
  rintro ⟨q', p', hq', hp', hback⟩
  obtain ⟨p, q, hp, hq, hless⟩ := h
  rw [hp'.unique hp, hq'.unique hq] at hback
  exact hless.asymm hback

/-- There is no other listing. -/
theorem IsListing.unique {names names' : List String}
    (h : IsListing tables label names)
    (h' : IsListing tables label names') : names = names' := by
  have hperm : names.Perm names' :=
    (List.perm_ext_iff_of_nodup h.nodup h'.nodup).2 fun name =>
      (h.mem_iff name).trans (h'.mem_iff name).symm
  refine hperm.eq_of_pairwise (fun _ _ _ _ hless hback => ?_)
    h.ordered h'.ordered
  exact absurd hback hless.asymm

-- ============================================================= columns

/-- The code's search for a column finds the first with the label. -/
theorem columnIndex?_eq_some_iff :
    t.columnIndex? label = some i ↔ IsFirst t label i := by
  unfold Table.columnIndex?
  rw [List.findIdx?_eq_some_iff_getElem]
  constructor
  · rintro ⟨hlt, hlabel, hfirst⟩
    refine ⟨?_, fun j hj => ?_⟩
    · rw [List.getElem?_eq_getElem hlt, of_decide_eq_true hlabel]
    · rw [List.getElem?_eq_getElem (Nat.lt_trans hj hlt)]
      simpa using hfirst j hj
  · rintro ⟨hlabel, hfirst⟩
    obtain ⟨hlt, hlabel⟩ := List.getElem?_eq_some_iff.1 hlabel
    refine ⟨hlt, decide_eq_true hlabel, fun j hj => ?_⟩
    have hne := hfirst j hj
    rw [List.getElem?_eq_getElem (Nat.lt_trans hj hlt)] at hne
    simpa using hne

/-- The search succeeds where some column has the label. -/
theorem columnIndex?_isSome_iff :
    (t.columnIndex? label).isSome ↔ label ∈ t.columns := by
  unfold Table.columnIndex?
  simp

/-- The column that is read is the source of the names. -/
theorem columnIndex?_sourceLabel_iff :
    t.columnIndex? (sourceLabel t label) = some i ↔ IsSource t label i := by
  unfold sourceLabel IsSource
  -- by whether the table has a column `_value`
  split
  case isTrue h =>
    rw [columnIndex?_eq_some_iff]
    rw [columnIndex?_isSome_iff] at h
    simp [h]
  case isFalse h =>
    rw [columnIndex?_eq_some_iff]
    rw [columnIndex?_isSome_iff] at h
    have hnone : ¬ IsFirst t "_value" i := fun hfirst =>
      h (List.mem_of_getElem? hfirst.labelled)
    simp [h, hnone]

-- ========================================================= occurrences

/-- The name that a row of a table gives, if it gives one. -/
def nameIn? (t : Table) (label : String) (row : List String) :
    Option String :=
  ((t.columnIndex? (sourceLabel t label)).bind (row[·]?)).filter (· ≠ "")

/-- A row gives the cell of its table's source column, unless that is
empty. -/
theorem nameIn?_eq_some_iff {row : List String} :
    nameIn? t label row = some name
      ↔ name ≠ "" ∧ ∃ i, IsSource t label i ∧ row[i]? = some name := by
  unfold nameIn?
  rw [Option.filter_eq_some_iff, Option.bind_eq_some_iff]
  simp only [columnIndex?_sourceLabel_iff, decide_eq_true_eq]
  exact and_comm

/-- What the code collects from a table is what its rows give, in their
order. -/
theorem columnValues_sourceLabel (t : Table) (label : String) :
    t.columnValues (sourceLabel t label)
      = t.rows.filterMap (nameIn? t label) := by
  unfold Table.columnValues nameIn?
  cases t.columnIndex? (sourceLabel t label) with
  | none => simp
  | some i =>
      show (t.rows.filterMap (·[i]?)).filter (· ≠ "") = _
      rw [← List.filterMap_eq_filter, List.filterMap_filterMap]
      refine List.filterMap_congr fun row _ => ?_
      rw [Option.bind_some]
      cases row[i]? <;> rfl

/-- The names that one table gives, with their places. -/
def occurrencesIn (label : String) (k : Nat) (t : Table) :
    List (Place × String) :=
  t.rows.zipIdx.filterMap fun (row, r) =>
    (nameIn? t label row).map ((k, r), ·)

/-- All names that tables give, in the order of their places. -/
def occurrences (tables : List Table) (label : String) :
    List (Place × String) :=
  tables.zipIdx.flatMap fun (t, k) => occurrencesIn label k t

/-- Without their places, the names of one table are what the code collects
from it. -/
theorem map_snd_occurrencesIn (label : String) (k : Nat) (t : Table) :
    (occurrencesIn label k t).map (·.2)
      = t.columnValues (sourceLabel t label) := by
  unfold occurrencesIn
  rw [columnValues_sourceLabel, List.map_filterMap]
  simp only [Option.map_map]
  conv => rhs; rw [← List.zipIdx_map_fst 0 t.rows, List.filterMap_map]
  refine List.filterMap_congr fun ⟨row, r⟩ _ => ?_
  simp [Function.comp_def]

/-- Without their places, all names are what the code goes through. -/
theorem map_snd_occurrences (tables : List Table) (label : String) :
    (occurrences tables label).map (·.2)
      = tables.flatMap fun t => t.columnValues (sourceLabel t label) := by
  unfold occurrences
  rw [List.map_flatMap]
  simp only [map_snd_occurrencesIn]
  conv => rhs; rw [← List.zipIdx_map_fst 0 tables, List.flatMap_map]

/-- A name is listed with a place of a table exactly if the row there gives
it. -/
theorem mem_occurrencesIn_iff {k : Nat} {place : Place} :
    (place, name) ∈ occurrencesIn label k t ↔ place.1 = k ∧
      ∃ row, t.rows[place.2]? = some row
        ∧ nameIn? t label row = some name := by
  unfold occurrencesIn
  simp only [List.mem_filterMap, Prod.exists, Option.map_eq_some_iff,
    Prod.mk.injEq, List.mk_mem_zipIdx_iff_getElem?]
  constructor
  · rintro ⟨row, r, hrow, name', hname, rfl, rfl⟩
    exact ⟨rfl, row, hrow, hname⟩
  · rintro ⟨rfl, row, hrow, hname⟩
    exact ⟨row, place.2, hrow, name, hname, rfl, rfl⟩

/-- The names stand where they stand. -/
theorem mem_occurrences_iff {place : Place} :
    (place, name) ∈ occurrences tables label
      ↔ name ≠ "" ∧ NamedAt tables label place name := by
  unfold occurrences NamedAt
  simp only [List.mem_flatMap, Prod.exists, List.mk_mem_zipIdx_iff_getElem?,
    mem_occurrencesIn_iff, nameIn?_eq_some_iff]
  constructor
  · rintro ⟨t, _, ht, rfl, row, hrow, hne, i, hi, hname⟩
    exact ⟨hne, t, row, i, ht, hrow, hi, hname⟩
  · rintro ⟨hne, t, row, i, ht, hrow, hi, hname⟩
    exact ⟨t, place.1, ht, rfl, row, hrow, hne, i, hi, hname⟩

/-- Numbered elements stand in the order of their numbers. -/
theorem pairwise_zipIdx {α : Type} (l : List α) :
    l.zipIdx.Pairwise fun a b => a.2 < b.2 := by
  have h : (l.zipIdx.map (·.2)).Pairwise (· < ·) := by
    rw [List.zipIdx_map_snd]
    exact List.pairwise_lt_range'
  exact List.pairwise_map.1 h

/-- The occurrences stand in the order of their places. -/
theorem pairwise_occurrences (tables : List Table) (label : String) :
    (occurrences tables label).Pairwise fun a b => a.1.Before b.1 := by
  unfold occurrences
  rw [List.pairwise_flatMap]
  -- within a table by rows, across tables by the tables' numbers
  constructor
  · rintro ⟨t, k⟩ -
    refine (pairwise_zipIdx t.rows).filterMap _ ?_
    rintro ⟨row, r⟩ ⟨row', r'⟩ hless a ha b hb
    obtain ⟨_, _, rfl⟩ := Option.map_eq_some_iff.1 ha
    obtain ⟨_, _, rfl⟩ := Option.map_eq_some_iff.1 hb
    exact .inr ⟨rfl, hless⟩
  · refine (pairwise_zipIdx tables).imp ?_
    rintro ⟨t, k⟩ ⟨t', k'⟩ hless ⟨p, name⟩ hp ⟨q, later⟩ hq
    left
    rw [(mem_occurrencesIn_iff.1 hp).1, (mem_occurrencesIn_iff.1 hq).1]
    exact hless

-- ========================================================== first places

/-- The places that a name has in a list of them. -/
abbrev PlacesIn (l : List (Place × String)) (name : String)
    (place : Place) : Prop := (place, name) ∈ l

variable {l : List (Place × String)} {q : Place} {new : String}

/-- A name that comes behind others takes the first place of none. -/
theorem isFirstPlace_concat {p : Place}
    (behind : ∀ a ∈ l, a.1.Before q)
    (h : IsFirstPlace (PlacesIn l name) p) :
    IsFirstPlace (PlacesIn (l ++ [(q, new)]) name) p where
  here := List.mem_append_left _ h.here
  first earlier hearlier hmem := by
    rcases List.mem_append.1 hmem with hold | hnew
    · exact h.first earlier hearlier hold
    · rw [List.mem_singleton, Prod.mk.injEq] at hnew
      rw [hnew.1] at hearlier
      exact (behind _ h.here).asymm hearlier

/-- A name that was not there has its first place at the end. -/
theorem isFirstPlace_last (other : new ∉ l.map (·.2)) :
    IsFirstPlace (PlacesIn (l ++ [(q, new)]) new) q where
  here := List.mem_append_right _ (List.mem_singleton_self _)
  first earlier hearlier hmem := by
    rcases List.mem_append.1 hmem with hold | hnew
    · exact other (List.mem_map_of_mem hold)
    · rw [List.mem_singleton, Prod.mk.injEq] at hnew
      rw [hnew.1] at hearlier
      exact hearlier.asymm hearlier

/-- Names that are collected from places in order have first places, and
stand by them. -/
theorem pairwise_eraseDups
    (order : l.Pairwise fun a b => a.1.Before b.1) :
    (∀ name ∈ l.map (·.2), ∃ p, IsFirstPlace (PlacesIn l name) p)
      ∧ (l.map (·.2)).eraseDups.Pairwise (FirstBefore (PlacesIn l)) := by
  -- on the last occurrence: it is behind all others, so it takes no first
  -- place from them, and has one itself only if its name is new
  induction l using List.reverseRecOn with
  | nil => exact ⟨fun name h => absurd h List.not_mem_nil, .nil⟩
  | append_singleton l last ih =>
      obtain ⟨q, new⟩ := last
      obtain ⟨hl, -, hlast⟩ := List.pairwise_append.1 order
      have hbehind : ∀ a ∈ l, a.1.Before q :=
        fun a ha => hlast a ha _ (List.mem_singleton_self _)
      obtain ⟨hfirst, hpairs⟩ := ih hl
      have hfirst' : ∀ name ∈ l.map (·.2),
          ∃ p, IsFirstPlace (PlacesIn (l ++ [(q, new)]) name) p :=
        fun name hname => (hfirst name hname).imp fun _ =>
          isFirstPlace_concat hbehind
      have hpairs' : (l.map (·.2)).eraseDups.Pairwise
          (FirstBefore (PlacesIn (l ++ [(q, new)]))) :=
        hpairs.imp fun ⟨p, p', hp, hp', hless⟩ =>
          ⟨p, p', isFirstPlace_concat hbehind hp,
            isFirstPlace_concat hbehind hp', hless⟩
      rw [List.map_append, List.map_singleton]
      by_cases hold : new ∈ l.map (·.2)
      · rw [Table.eraseDups_concat_of_mem hold]
        refine ⟨fun name hname => hfirst' name ?_, hpairs'⟩
        rcases List.mem_append.1 hname with h | h
        · exact h
        · rwa [List.mem_singleton.1 h]
      · rw [Table.eraseDups_concat_of_not_mem hold]
        refine ⟨fun name hname => ?_, List.pairwise_append.2
          ⟨hpairs', List.pairwise_singleton _ _, fun name hname _ h => ?_⟩⟩
        · rcases List.mem_append.1 hname with h | h
          · exact hfirst' name h
          · exact ⟨q, List.mem_singleton.1 h ▸ isFirstPlace_last hold⟩
        · obtain ⟨p, hp⟩ := hfirst name (List.mem_eraseDups.1 hname)
          rw [List.mem_singleton.1 h]
          exact ⟨p, q, isFirstPlace_concat hbehind hp,
            isFirstPlace_last hold, hbehind _ hp.here⟩

-- ============================================================ collecting

/-- Adding names one after another keeps the first of each. -/
theorem foldl_addName (names : List String) :
    names.foldl addName [] = names.eraseDups := by
  induction names using List.reverseRecOn with
  | nil => rfl
  | append_singleton names name ih =>
      rw [List.foldl_append, ih]
      show addName names.eraseDups name = _
      unfold addName
      by_cases h : name ∈ names
      · rw [Table.eraseDups_concat_of_mem h, if_pos (by simpa using h)]
      · rw [Table.eraseDups_concat_of_not_mem h, if_neg (by simpa using h)]

/-- Of what comes behind, only what is new is kept. -/
theorem eraseDups_append_filter (names others : List String) :
    (names ++ others).eraseDups = names.eraseDups
      ++ others.eraseDups.filter (· ∉ names.eraseDups) := by
  -- by where the last name was before: in front, behind, or nowhere
  induction others using List.reverseRecOn with
  | nil => simp
  | append_singleton others name ih =>
      rw [← List.append_assoc]
      by_cases hnames : name ∈ names
      · have hmem : name ∈ names ++ others := List.mem_append_left _ hnames
        rw [Table.eraseDups_concat_of_mem hmem, ih]
        by_cases hothers : name ∈ others
        · rw [Table.eraseDups_concat_of_mem hothers]
        · rw [Table.eraseDups_concat_of_not_mem hothers]
          simp [hnames]
      · by_cases hothers : name ∈ others
        · have hmem : name ∈ names ++ others :=
            List.mem_append_right _ hothers
          rw [Table.eraseDups_concat_of_mem hmem,
            Table.eraseDups_concat_of_mem hothers, ih]
        · have hmem : name ∉ names ++ others := by simp [hnames, hothers]
          rw [Table.eraseDups_concat_of_not_mem hmem,
            Table.eraseDups_concat_of_not_mem hothers, ih]
          simp [hnames]

/-- The names that are collected are those of the occurrences, each at its
first one. -/
theorem distinctValues_eq (tables : List Table) (label : String) :
    distinctValues tables label
      = ((occurrences tables label).map (·.2)).eraseDups := by
  unfold distinctValues
  rw [foldl_addName, map_snd_occurrences]

/-- Where names are, they are with all their places. -/
theorem firstBefore_of_occurrences {later : String}
    (h : FirstBefore (PlacesIn (occurrences tables label)) name later) :
    FirstBefore (fun name place => NamedAt tables label place name)
      name later := by
  obtain ⟨p, q, hp, hq, hless⟩ := h
  -- the occurrences of a name are all its places, as it is not empty
  have hfirst : ∀ {name place},
      IsFirstPlace (PlacesIn (occurrences tables label) name) place →
      IsFirstPlace (fun place => NamedAt tables label place name) place := by
    intro name place h
    have hnamed := mem_occurrences_iff.1 h.here
    exact ⟨hnamed.2, fun earlier hearlier hstands =>
      h.first earlier hearlier (mem_occurrences_iff.2 ⟨hnamed.1, hstands⟩)⟩
  exact ⟨p, q, hfirst hp, hfirst hq, hless⟩

/-- What is collected is a listing. -/
theorem isListing_occurrences (tables : List Table) (label : String) :
    IsListing tables label (distinctValues tables label) := by
  rw [distinctValues_eq]
  refine ⟨Table.nodup_eraseDups _, fun name => ?_, ?_⟩
  · rw [List.mem_eraseDups, List.mem_map]
    simp [mem_occurrences_iff]
  · exact (pairwise_eraseDups (pairwise_occurrences tables label)).2.imp
      firstBefore_of_occurrences

/-- The names that are collected are the ones that tables list: those that
stand in some row of some table and are not empty, each once, by their
first places. More tables put behind them the names that are new. -/
theorem isListing_distinctValues (tables others : List Table)
    (label : String) :
    (∀ names, names = distinctValues tables label
        ↔ IsListing tables label names)
      ∧ distinctValues (tables ++ others) label
        = distinctValues tables label
          ++ (distinctValues others label).filter
            (· ∉ distinctValues tables label) := by
  have hlisting := isListing_occurrences tables label
  refine ⟨fun names => ⟨?_, fun h => h.unique hlisting⟩, ?_⟩
  · rintro rfl
    exact hlisting
  · unfold distinctValues
    rw [List.flatMap_append]
    simp only [foldl_addName]
    exact eraseDups_append_filter _ _

/-- A short row, an empty cell, and a table that has no column `_value`. -/
example : distinctValues [
      ⟨["_value", "_field", "_value"], [["b", "x"], [], ["", "y"], ["a"]]⟩,
      ⟨["_field", "_field"], [["a", "z"], ["c"]]⟩] "_field"
    = ["b", "a", "c"] := by
  decide

end FluxComposer.Schema
