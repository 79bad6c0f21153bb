import FluxComposer.Proofs.Text.Search
import FluxComposer.Query.Recognizer
/-
The grammar of the calls, and that the readers accept it exactly. A
reader answers with a call and the text behind it if and only if the text
is one of the call's texts with that text behind it. Nothing later opens
a reader: rendered lines are read by giving their derivation, and a line
that was read is taken apart along its derivation.

The relations follow the readers: a call's text is its literals in order,
with a gap wherever tokens may stand apart.

    bucket   from(bucket: GAP "NAME" )
    range    range(start: GAP START [GAP , GAP stop: GAP STOP] )
    filter   filter(fn: GAP (r) GAP => GAP CLAUSE (GAP or GAP CLAUSE)* )
    clause   r. COLUMN GAP == GAP "VALUE"
-/
namespace FluxComposer.Recognizer

open Text

variable {s g w rest : List Char}

-- ============================================================= classes

/-- A gap, which may be empty. -/
def IsGapRun (s : List Char) : Prop := ∀ c ∈ s, isGap c = true

/-- What may stand between double quotes. -/
def IsQuotable (s : List Char) : Prop := s ≠ [] ∧ '"' ∉ s

/-- What may be the first bound of a range. -/
def IsStart (s : List Char) : Prop := s ≠ [] ∧ ∀ c ∈ s, isStartChar c = true

/-- What may be the second bound of a range. -/
def IsStop (s : List Char) : Prop :=
  ')' ∉ s ∧ ∃ c tail, s = c :: tail ∧ isGap c = false

/-- A text that does not begin with a character of a class. -/
def StopsAt (p : Char → Bool) (s : List Char) : Prop :=
  ∀ c, s.head? = some c → p c = false

/-- A gap is blank. -/
theorem isBlank_of_isGap {c : Char} (h : isGap c = true) :
    isBlank c = true := by
  simp only [isGap, Bool.or_eq_true, beq_iff_eq] at h
  rcases h with ((rfl | rfl) | rfl) | rfl <;> decide

/-- A first bound does not begin with a gap. -/
theorem isGap_of_isStartChar {c : Char} (h : isStartChar c = true) :
    isGap c = false := by
  cases hc : isGap c with
  | false => rfl
  | true => simp [isStartChar, isBlank_of_isGap hc] at h

/-- A gap may have no characters. -/
theorem isGapRun_nil : IsGapRun [] := fun _ h => nomatch h

/-- A space is a gap. -/
theorem isGapRun_space : IsGapRun [' '] := by
  intro c hc
  rw [List.mem_singleton.1 hc]
  decide

/-- A text does not begin with a character of a class if its first character
is none. -/
theorem stopsAt_cons {p : Char → Bool} {c : Char}
    (h : p c = false := by decide) : StopsAt p (c :: s) := by
  intro d hd
  rwa [← Option.some.inj hd]

/-- What is left behind a run does not begin with a character of it. -/
theorem stopsAt_dropWhile (p : Char → Bool) (s : List Char) :
    StopsAt p (s.dropWhile p) := by
  intro c hc
  have h := List.head?_dropWhile_not p s
  rwa [hc] at h

/-- A run ends where a text begins that is none. -/
theorem dropWhile_append_of_stopsAt {p : Char → Bool}
    (hw : ∀ c ∈ w, p c = true) (hs : StopsAt p s) :
    (w ++ s).dropWhile p = s := by
  rw [List.dropWhile_append_of_pos hw]
  cases s with
  | nil => rfl
  | cons c s => simp [hs c rfl]

/-- A run reaches as far as its characters do. -/
theorem takeWhile_append_of_stopsAt {p : Char → Bool}
    (hw : ∀ c ∈ w, p c = true) (hs : StopsAt p s) :
    (w ++ s).takeWhile p = w := by
  rw [List.takeWhile_append_of_pos hw]
  cases s with
  | nil => simp
  | cons c s => simp [hs c rfl]

-- ============================================================== tokens

/-- A gap is skipped up to what does not belong to it. -/
theorem skipGap_append (hg : IsGapRun g) (hs : StopsAt isGap s) :
    skipGap (g ++ s) = s :=
  dropWhile_append_of_stopsAt hg hs

/-- Every text is a gap with a text behind it that begins with none. -/
theorem exists_gap (s : List Char) :
    ∃ g, IsGapRun g ∧ s = g ++ skipGap s ∧ StopsAt isGap (skipGap s) :=
  ⟨s.takeWhile isGap,
    fun c hc => List.all_eq_true.1 List.all_takeWhile c hc,
    List.takeWhile_append_dropWhile.symm, stopsAt_dropWhile isGap s⟩

/-- A run is read up to what does not belong to it. -/
theorem run?_append {p : Char → Bool} (hne : w ≠ [])
    (hw : ∀ c ∈ w, p c = true) (hs : StopsAt p s) :
    run? p (w ++ s) = some (w, s) := by
  rw [run?, takeWhile_append_of_stopsAt hw hs,
    dropWhile_append_of_stopsAt hw hs]
  cases w with
  | nil => exact absurd rfl hne
  | cons c w => rfl

/-- What a run takes belongs to it, and what it leaves begins with
something else. -/
theorem run?_eq_some {p : Char → Bool} (h : run? p s = some (w, rest)) :
    w ≠ [] ∧ (∀ c ∈ w, p c = true) ∧ s = w ++ rest ∧ StopsAt p rest := by
  rw [run?] at h
  split at h
  next => cases h
  next hne =>
    obtain ⟨rfl, rfl⟩ := Prod.mk.inj (Option.some.inj h)
    exact ⟨hne, fun c hc => List.all_eq_true.1 List.all_takeWhile c hc,
      List.takeWhile_append_dropWhile.symm, stopsAt_dropWhile p s⟩

/-- Characters that are not the separator are a run of such. -/
theorem forall_ne_of_not_mem {q : Char} (h : q ∉ w) :
    ∀ c ∈ w, (c != q) = true := by
  intro c hc
  have hne : c ≠ q := fun e => h (e ▸ hc)
  simpa using hne

/-- Quotes hold what may stand between them, up to the next quote. -/
theorem quoted?_eq_some_iff {value : String} :
    quoted? s = some (value, rest) ↔
      IsQuotable value.toList ∧ s = '"' :: (value.toList ++ '"' :: rest) := by
  constructor
  · intro h
    simp only [quoted?, Option.bind_eq_bind, Option.bind_eq_some_iff,
      Prod.exists] at h
    obtain ⟨s₁, h₁, v, s₂, h₂, s₃, h₃, h⟩ := h
    obtain ⟨rfl, rfl⟩ := Prod.mk.inj (Option.some.inj h)
    obtain ⟨hne, hv, rfl, -⟩ := run?_eq_some h₂
    rw [after_eq_some_iff] at h₁ h₃
    subst h₃
    rw [String.toList_ofList]
    refine ⟨⟨hne, fun hm => ?_⟩, h₁⟩
    simpa using hv _ hm
  · rintro ⟨⟨hne, hv⟩, rfl⟩
    have hrun : run? (· != '"') (value.toList ++ '"' :: rest)
        = some (value.toList, '"' :: rest) :=
      run?_append hne (forall_ne_of_not_mem hv) stopsAt_cons
    simp [quoted?, after, hrun, String.ofList_toList]

-- ============================================================== bucket

/-- The texts of the call that reads a bucket. -/
inductive BucketText : Bucket → List Char → Prop
  | call {gap : List Char} {name : String} (hgap : IsGapRun gap)
      (hname : IsQuotable name.toList) :
      BucketText (.named name) ("from(bucket:".toList
        ++ (gap ++ '"' :: (name.toList ++ ['"', ')'])))

/-- What is read as a bucket is one, and is read whatever stands behind
it. -/
theorem bucketCall?_eq_some_iff {b : Bucket} :
    bucketCall? s = some (b, rest) ↔ ∃ t, BucketText b t ∧ s = t ++ rest := by
  constructor
  · intro h
    simp only [bucketCall?, Option.bind_eq_bind, Option.bind_eq_some_iff,
      Prod.exists] at h
    obtain ⟨s₁, h₁, name, s₂, h₂, s₃, h₃, h⟩ := h
    obtain ⟨rfl, rfl⟩ := Prod.mk.inj (Option.some.inj h)
    obtain ⟨hname, hquoted⟩ := quoted?_eq_some_iff.1 h₂
    obtain ⟨gap, hgap, hs₁, -⟩ := exists_gap s₁
    rw [after_eq_some_iff] at h₁ h₃
    refine ⟨_, .call hgap hname, ?_⟩
    rw [h₁, hs₁, hquoted, h₃]
    simp
  · rintro ⟨_, @⟨gap, name, hgap, hname⟩, rfl⟩
    have hskip : skipGap (gap ++ '"' :: (name.toList ++ '"' :: ')' :: rest))
        = '"' :: (name.toList ++ '"' :: ')' :: rest) :=
      skipGap_append hgap stopsAt_cons
    have hread := quoted?_eq_some_iff.2
      ⟨hname, rfl (a := '"' :: (name.toList ++ '"' :: ')' :: rest))⟩
    -- read forward, each token answers with the text behind it
    simp only [bucketCall?, List.append_assoc, List.cons_append,
      List.nil_append, after_append, Option.bind_eq_bind, Option.bind_some,
      hskip, hread, after_cons]
    rfl

-- =============================================================== range

/-- The texts of the second bound of a range, with the comma before
it. -/
inductive StopText : String → List Char → Prop
  | bound {g₁ g₂ g₃ : List Char} {stop : String} (h₁ : IsGapRun g₁)
      (h₂ : IsGapRun g₂) (h₃ : IsGapRun g₃) (hstop : IsStop stop.toList) :
      StopText stop (g₁ ++ ',' :: (g₂ ++ ("stop:".toList
        ++ (g₃ ++ stop.toList))))

/-- The texts of the call that bounds the time. -/
inductive RangeText : DateRange → List Char → Prop
  | since {gap : List Char} {start : String} (hgap : IsGapRun gap)
      (hstart : IsStart start.toList) :
      RangeText ⟨start, none⟩ ("range(start:".toList
        ++ (gap ++ (start.toList ++ [')'])))
  | between {gap t : List Char} {start stop : String} (hgap : IsGapRun gap)
      (hstart : IsStart start.toList) (hstop : StopText stop t) :
      RangeText ⟨start, some stop⟩ ("range(start:".toList
        ++ (gap ++ (start.toList ++ (t ++ [')']))))

/-- What is read as a second bound is one. -/
theorem stopBound?_eq_some {stop : String}
    (h : stopBound? s = some (stop, rest)) :
    ∃ t, StopText stop t ∧ s = t ++ rest := by
  simp only [stopBound?, Option.bind_eq_bind, Option.bind_eq_some_iff,
    Prod.exists] at h
  obtain ⟨s₁, h₁, s₂, h₂, w, s₃, h₃, h⟩ := h
  obtain ⟨rfl, rfl⟩ := Prod.mk.inj (Option.some.inj h)
  obtain ⟨hne, hw, hs₂, -⟩ := run?_eq_some h₃
  obtain ⟨g₁, hg₁, hs, -⟩ := exists_gap s
  obtain ⟨g₂, hg₂, hs₁, -⟩ := exists_gap s₁
  obtain ⟨g₃, hg₃, hs₃, hhead⟩ := exists_gap s₂
  rw [after_eq_some_iff] at h₁ h₂
  have hstop : IsStop (String.ofList w).toList := by
    rw [String.toList_ofList]
    refine ⟨fun hm => ?_, ?_⟩
    · simpa using hw _ hm
    · obtain ⟨c, w, rfl⟩ := List.exists_cons_of_ne_nil hne
      exact ⟨c, w, rfl, hhead c (by rw [hs₂]; rfl)⟩
  refine ⟨_, .bound hg₁ hg₂ hg₃ hstop, ?_⟩
  rw [hs, h₁, hs₁, h₂, hs₃, hs₂, String.toList_ofList]
  simp

/-- A second bound is read up to the parenthesis that closes the call. -/
theorem stopBound?_append {stop : String} {t : List Char}
    (h : StopText stop t) (s : List Char) :
    stopBound? (t ++ ')' :: s) = some (stop, ')' :: s) := by
  obtain @⟨g₁, g₂, g₃, stop, hg₁, hg₂, hg₃, hclose, c, tail, hstop, hc⟩ := h
  have hskip₁ : skipGap (g₁ ++ ',' :: (g₂ ++ ("stop:".toList
        ++ (g₃ ++ (stop.toList ++ ')' :: s)))))
      = ',' :: (g₂ ++ ("stop:".toList
        ++ (g₃ ++ (stop.toList ++ ')' :: s)))) :=
    skipGap_append hg₁ stopsAt_cons
  have hskip₂ : skipGap (g₂ ++ ("stop:".toList
        ++ (g₃ ++ (stop.toList ++ ')' :: s))))
      = "stop:".toList ++ (g₃ ++ (stop.toList ++ ')' :: s)) :=
    skipGap_append hg₂ stopsAt_cons
  -- a gap ends before a second bound, which begins with none
  have hskip₃ : skipGap (g₃ ++ (stop.toList ++ ')' :: s))
      = stop.toList ++ ')' :: s :=
    skipGap_append hg₃ (hstop ▸ stopsAt_cons hc)
  have hrun : run? (· != ')') (stop.toList ++ ')' :: s)
      = some (stop.toList, ')' :: s) :=
    run?_append (by simp [hstop]) (forall_ne_of_not_mem hclose)
      stopsAt_cons
  simp only [stopBound?, List.append_assoc, List.cons_append, hskip₁,
    after_cons, Option.bind_eq_bind, Option.bind_some, hskip₂, after_append,
    hskip₃, hrun, String.ofList_toList]
  rfl

/-- A call that closes has no second bound. -/
theorem stopBound?_close (s : List Char) : stopBound? (')' :: s) = none :=
  rfl

/-- A first bound is not read beyond the comma or the parenthesis behind
it. -/
theorem stopsAt_stopText {stop : String} {t : List Char}
    (h : StopText stop t) (s : List Char) :
    StopsAt isStartChar (t ++ s) := by
  obtain @⟨g₁, g₂, g₃, stop, hg₁, -, -, -⟩ := h
  cases g₁ with
  | nil => exact stopsAt_cons
  | cons c g₁ =>
      have hc := isBlank_of_isGap (hg₁ c (List.mem_cons_self ..))
      exact stopsAt_cons (by simp [isStartChar, hc])

/-- What is read as a range is one. -/
theorem rangeCall?_eq_some {r : DateRange}
    (h : rangeCall? s = some (r, rest)) :
    ∃ t, RangeText r t ∧ s = t ++ rest := by
  simp only [rangeCall?, Option.bind_eq_bind, Option.bind_eq_some_iff,
    Prod.exists] at h
  obtain ⟨s₁, h₁, w, s₂, h₂, h⟩ := h
  obtain ⟨hne, hw, hs₁, -⟩ := run?_eq_some h₂
  obtain ⟨gap, hgap, hskip, -⟩ := exists_gap s₁
  have hstart : IsStart (String.ofList w).toList := by
    rw [String.toList_ofList]
    exact ⟨hne, hw⟩
  rw [after_eq_some_iff] at h₁
  -- with a second bound behind the first one, and without
  split at h
  next stop s₃ hstop =>
    obtain ⟨s₄, h₄, h⟩ := Option.bind_eq_some_iff.1 h
    obtain ⟨rfl, rfl⟩ := Prod.mk.inj (Option.some.inj h)
    obtain ⟨t, ht, hs₂⟩ := stopBound?_eq_some hstop
    rw [after_eq_some_iff] at h₄
    refine ⟨_, .between hgap hstart ht, ?_⟩
    rw [h₁, hskip, hs₁, hs₂, h₄, String.toList_ofList]
    simp
  next =>
    obtain ⟨s₄, h₄, h⟩ := Option.bind_eq_some_iff.1 h
    obtain ⟨rfl, rfl⟩ := Prod.mk.inj (Option.some.inj h)
    rw [after_eq_some_iff] at h₄
    refine ⟨_, .since hgap hstart, ?_⟩
    rw [h₁, hskip, hs₁, h₄, String.toList_ofList]
    simp

/-- A first bound is read from behind the gap before it. -/
theorem skipGap_start {gap start : List Char} (hgap : IsGapRun gap)
    (hstart : IsStart start) (s : List Char) :
    skipGap (gap ++ (start ++ s)) = start ++ s := by
  refine skipGap_append hgap fun c hc => ?_
  obtain ⟨d, tail, rfl⟩ := List.exists_cons_of_ne_nil hstart.1
  obtain rfl : d = c := Option.some.inj hc
  exact isGap_of_isStartChar (hstart.2 d (List.mem_cons_self ..))

/-- A range is read whatever stands behind it. -/
theorem rangeCall?_append {r : DateRange} {t : List Char}
    (ht : RangeText r t) (rest : List Char) :
    rangeCall? (t ++ rest) = some (r, rest) := by
  cases ht with
  | since hgap hstart =>
      have hrun := run?_append hstart.1 hstart.2
        (stopsAt_cons (s := rest) (c := ')'))
      simp only [rangeCall?, List.append_assoc, List.cons_append,
        List.nil_append, after_append, Option.bind_eq_bind,
        Option.bind_some, skipGap_start hgap hstart, hrun, stopBound?_close,
        after_cons, String.ofList_toList]
      rfl
  | between hgap hstart hstop =>
      have hrun := run?_append hstart.1 hstart.2
        (stopsAt_stopText hstop (')' :: rest))
      simp only [rangeCall?, List.append_assoc, List.cons_append,
        List.nil_append, after_append, Option.bind_eq_bind,
        Option.bind_some, skipGap_start hgap hstart, hrun,
        stopBound?_append hstop, after_cons, String.ofList_toList]
      rfl

/-- A range is read exactly where one of its texts stands. -/
theorem rangeCall?_eq_some_iff {r : DateRange} :
    rangeCall? s = some (r, rest) ↔ ∃ t, RangeText r t ∧ s = t ++ rest := by
  refine ⟨rangeCall?_eq_some, ?_⟩
  rintro ⟨t, ht, rfl⟩
  exact rangeCall?_append ht rest

-- ============================================================== filter

/-- The texts of one comparison. -/
inductive ClauseText : Column × String → List Char → Prop
  | equals {column : Column} {g₁ g₂ : List Char} {value : String}
      (h₁ : IsGapRun g₁) (h₂ : IsGapRun g₂)
      (hvalue : IsQuotable value.toList) :
      ClauseText (column, value) ("r.".toList ++ (column.name.toList
        ++ (g₁ ++ ("==".toList
          ++ (g₂ ++ '"' :: (value.toList ++ ['"']))))))

/-- The texts of the comparisons behind a first one. -/
inductive MoreText : List (Column × String) → List Char → Prop
  | nil : MoreText [] []
  | cons {c : Column × String} {cs : List (Column × String)}
      {g₁ g₂ t u : List Char} (hne₁ : g₁ ≠ []) (h₁ : IsGapRun g₁)
      (hne₂ : g₂ ≠ []) (h₂ : IsGapRun g₂) (hc : ClauseText c t)
      (hcs : MoreText cs u) :
      MoreText (c :: cs) (g₁ ++ ("or".toList ++ (g₂ ++ (t ++ u))))

/-- The texts of the call that filters one column. -/
inductive FilterText : Filter → List Char → Prop
  | call {g₁ g₂ g₃ t u : List Char} {first : Column × String}
      {more : List (Column × String)} {f : Filter} (h₁ : IsGapRun g₁)
      (h₂ : IsGapRun g₂) (h₃ : IsGapRun g₃) (hfirst : ClauseText first t)
      (hmore : MoreText more u) (hf : filterOf? first more = some f) :
      FilterText f ("filter(fn:".toList ++ (g₁ ++ ("(r)".toList
        ++ (g₂ ++ ("=>".toList ++ (g₃ ++ (t ++ (u ++ [')']))))))))

/-- A column is known by its name alone. -/
theorem ofName?_eq_some_iff {name : String} {column : Column} :
    Column.ofName? name = some column ↔ name = column.name := by
  constructor
  · intro h
    rw [Column.ofName?] at h
    split at h
    next hm => rw [hm, ← Option.some.inj h]; rfl
    next =>
      split at h
      next hf => rw [hf, ← Option.some.inj h]; rfl
      next => cases h
  · rintro rfl
    cases column <;> rfl

/-- What is read as a comparison is one. -/
theorem clause?_eq_some {c : Column × String}
    (h : clause? s = some (c, rest)) :
    ∃ t, ClauseText c t ∧ s = t ++ rest := by
  simp only [clause?, Option.bind_eq_bind, Option.bind_eq_some_iff,
    Prod.exists] at h
  obtain ⟨s₁, h₁, name, s₂, h₂, column, hcolumn, s₃, h₃, value, s₄, h₄, h⟩ :=
    h
  obtain ⟨rfl, rfl⟩ := Prod.mk.inj (Option.some.inj h)
  obtain ⟨-, -, hs₁, -⟩ := run?_eq_some h₂
  obtain ⟨hvalue, hquoted⟩ := quoted?_eq_some_iff.1 h₄
  obtain ⟨g₁, hg₁, hs₂, -⟩ := exists_gap s₂
  obtain ⟨g₂, hg₂, hs₃, -⟩ := exists_gap s₃
  rw [ofName?_eq_some_iff] at hcolumn
  rw [after_eq_some_iff] at h₁ h₃
  have hname : name = column.name.toList := by
    rw [← hcolumn, String.toList_ofList]
  refine ⟨_, .equals hg₁ hg₂ hvalue, ?_⟩
  rw [h₁, hs₁, hs₂, h₃, hs₃, hquoted, hname]
  simp

/-- A comparison is read whatever stands behind it. -/
theorem clause?_append {c : Column × String} {t : List Char}
    (h : ClauseText c t) (s : List Char) :
    clause? (t ++ s) = some (c, s) := by
  obtain @⟨column, g₁, g₂, value, hg₁, hg₂, hvalue⟩ := h
  have hrun : run? isColumnChar (column.name.toList ++ (g₁ ++ ("==".toList
        ++ (g₂ ++ '"' :: (value.toList ++ '"' :: s)))))
      = some (column.name.toList, g₁ ++ ("==".toList
        ++ (g₂ ++ '"' :: (value.toList ++ '"' :: s)))) := by
    refine run?_append ?_ ?_ ?_
    · cases column <;> decide
    · refine List.all_eq_true.1 ?_
      cases column <;> decide
    · -- the name of the column ends at the gap behind it, or at the sign of
      -- the comparison if there is none
      cases g₁ with
      | nil => exact stopsAt_cons
      | cons d g₁ =>
          have hd := hg₁ d (List.mem_cons_self ..)
          simp only [isGap, Bool.or_eq_true, beq_iff_eq] at hd
          rcases hd with ((rfl | rfl) | rfl) | rfl <;>
            exact stopsAt_cons
  have hcolumn : Column.ofName? column.name = some column :=
    ofName?_eq_some_iff.2 rfl
  have hskip₁ : skipGap (g₁ ++ ("==".toList
        ++ (g₂ ++ '"' :: (value.toList ++ '"' :: s))))
      = "==".toList ++ (g₂ ++ '"' :: (value.toList ++ '"' :: s)) :=
    skipGap_append hg₁ stopsAt_cons
  have hskip₂ : skipGap (g₂ ++ '"' :: (value.toList ++ '"' :: s))
      = '"' :: (value.toList ++ '"' :: s) :=
    skipGap_append hg₂ stopsAt_cons
  have hquoted := quoted?_eq_some_iff.2
    ⟨hvalue, rfl (a := '"' :: (value.toList ++ '"' :: s))⟩
  simp only [clause?, List.append_assoc, List.cons_append, List.nil_append,
    after_append, Option.bind_eq_bind, Option.bind_some, hrun,
    String.ofList_toList, hcolumn, hskip₁, hskip₂, hquoted]
  rfl

/-- A gap that must not be empty is one that has a character. -/
theorem gap?_eq_some (h : gap? s = some rest) :
    ∃ g, g ≠ [] ∧ IsGapRun g ∧ s = g ++ rest := by
  cases s with
  | nil => cases h
  | cons c s =>
      simp only [gap?] at h
      split at h
      next hc =>
        obtain ⟨g, hg, hs, -⟩ := exists_gap s
        rw [Option.some.inj h] at hs
        refine ⟨c :: g, by simp, ?_, by rw [hs]; rfl⟩
        intro d hd
        rcases List.mem_cons.1 hd with rfl | hd
        · exact hc
        · exact hg d hd
      next => cases h

/-- A gap is skipped if it has a character. -/
theorem gap?_append (hne : g ≠ []) (hg : IsGapRun g)
    (hs : StopsAt isGap s) : gap? (g ++ s) = some s := by
  cases g with
  | nil => exact absurd rfl hne
  | cons c g =>
      have hc := hg c (List.mem_cons_self ..)
      have hskip : skipGap (g ++ s) = s :=
        skipGap_append (fun d hd => hg d (List.mem_cons_of_mem _ hd)) hs
      simp [gap?, hc, hskip]

/-- What comparisons are read behind a first one is written there. -/
theorem moreClauses_eq {limit : Nat} {cs : List (Column × String)}
    (h : moreClauses limit s = (cs, rest)) :
    ∃ u, MoreText cs u ∧ s = u ++ rest := by
  -- the limit is the fuel of the loop; that it suffices is shown where the
  -- texts are read
  induction limit generalizing s cs with
  | zero =>
      obtain ⟨rfl, rfl⟩ := Prod.mk.inj h
      exact ⟨[], .nil, rfl⟩
  | succ limit ih =>
      rw [moreClauses] at h
      split at h
      next c s₁ hread =>
        obtain ⟨s₂, hor, hclause⟩ := Option.bind_eq_some_iff.1 hread
        simp only [orWord?, Option.bind_eq_bind, Option.bind_eq_some_iff]
          at hor
        obtain ⟨s₃, h₃, s₄, h₄, h₂⟩ := hor
        cases hmore : moreClauses limit s₁ with
        | mk cs₁ rest₁ =>
        rw [hmore] at h
        obtain ⟨rfl, rfl⟩ := Prod.mk.inj h
        obtain ⟨g₁, hne₁, hg₁, rfl⟩ := gap?_eq_some h₃
        obtain ⟨g₂, hne₂, hg₂, rfl⟩ := gap?_eq_some h₂
        obtain ⟨t, ht, rfl⟩ := clause?_eq_some hclause
        obtain ⟨u, hu, rfl⟩ := ih hmore
        rw [after_eq_some_iff.1 h₄]
        exact ⟨_, .cons hne₁ hg₁ hne₂ hg₂ ht hu, by simp⟩
      next =>
        obtain ⟨rfl, rfl⟩ := Prod.mk.inj h
        exact ⟨[], .nil, rfl⟩

/-- All comparisons are read if nothing behind them looks like one
more. -/
theorem moreClauses_append {limit : Nat} {cs : List (Column × String)}
    {u : List Char} (h : MoreText cs u) (hlimit : cs.length ≤ limit)
    (hs : gap? s = none) : moreClauses limit (u ++ s) = (cs, s) := by
  induction h generalizing limit with
  | nil =>
      cases limit with
      | zero => rfl
      | succ limit => simp [moreClauses, orWord?, hs]
  | @cons c cs g₁ g₂ t u hne₁ hg₁ hne₂ hg₂ hc hcs ih =>
      obtain ⟨limit, rfl⟩ : ∃ n, limit = n + 1 :=
        ⟨limit - 1, by simp only [List.length_cons] at hlimit; omega⟩
      have hgap₁ : gap? (g₁ ++ ("or".toList ++ (g₂ ++ (t ++ (u ++ s)))))
          = some ("or".toList ++ (g₂ ++ (t ++ (u ++ s)))) :=
        gap?_append hne₁ hg₁ stopsAt_cons
      have hgap₂ : gap? (g₂ ++ (t ++ (u ++ s))) = some (t ++ (u ++ s)) := by
        refine gap?_append hne₂ hg₂ ?_
        -- a comparison begins with a letter
        obtain ⟨-, -, -⟩ := hc
        exact stopsAt_cons
      have hread : orWord? (g₁ ++ ("or".toList ++ (g₂ ++ (t ++ u))) ++ s)
          >>= clause? = some (c, u ++ s) := by
        simp only [orWord?, List.append_assoc, hgap₁, Option.bind_eq_bind,
          Option.bind_some, after_append, hgap₂, clause?_append hc]
      rw [moreClauses, hread]
      simp only [ih (by simpa using hlimit)]

/-- Every comparison takes room, so the length of a text bounds the
number of the comparisons in it. -/
theorem length_le_of_moreText {cs : List (Column × String)} {u : List Char}
    (h : MoreText cs u) : cs.length ≤ u.length := by
  induction h with
  | nil => exact Nat.le_refl _
  | cons =>
      simp only [List.length_cons, List.length_append]
      have hor : "or".toList.length = 2 := rfl
      omega

/-- What is read as a filter is one. -/
theorem filterCall?_eq_some {f : Filter}
    (h : filterCall? s = some (f, rest)) :
    ∃ t, FilterText f t ∧ s = t ++ rest := by
  simp only [filterCall?, Option.bind_eq_bind, Option.bind_eq_some_iff,
    Prod.exists] at h
  obtain ⟨s₁, h₁, s₂, h₂, s₃, h₃, column, value, s₄, h₄, filter, hf, s₅,
    h₅, h⟩ := h
  obtain ⟨rfl, rfl⟩ := Prod.mk.inj (Option.some.inj h)
  obtain ⟨g₁, hg₁, hs₁, -⟩ := exists_gap s₁
  obtain ⟨g₂, hg₂, hs₂, -⟩ := exists_gap s₂
  obtain ⟨g₃, hg₃, hs₃, -⟩ := exists_gap s₃
  obtain ⟨t, ht, hclause⟩ := clause?_eq_some h₄
  cases hmore : moreClauses s₄.length s₄ with
  | mk more s₆ =>
  rw [hmore] at hf h₅
  obtain ⟨u, hu, hs₄⟩ := moreClauses_eq hmore
  rw [after_eq_some_iff] at h₁ h₂ h₃
  have hclose : s₆ = [')'] ++ s₅ := after_eq_some_iff.1 h₅
  refine ⟨_, .call hg₁ hg₂ hg₃ ht hu hf, ?_⟩
  rw [h₁, hs₁, h₂, hs₂, h₃, hs₃, hclause, hs₄, hclose]
  simp

/-- A filter is read whatever stands behind it. -/
theorem filterCall?_append {f : Filter} {t : List Char}
    (ht : FilterText f t) (rest : List Char) :
    filterCall? (t ++ rest) = some (f, rest) := by
  obtain @⟨g₁, g₂, g₃, t, u, first, more, f, hg₁, hg₂, hg₃, hfirst,
    hmore, hf⟩ := ht
  have hskip₁ : skipGap (g₁ ++ ("(r)".toList ++ (g₂ ++ ("=>".toList
        ++ (g₃ ++ (t ++ (u ++ ')' :: rest)))))))
      = "(r)".toList ++ (g₂ ++ ("=>".toList
        ++ (g₃ ++ (t ++ (u ++ ')' :: rest))))) :=
    skipGap_append hg₁ stopsAt_cons
  have hskip₂ : skipGap (g₂ ++ ("=>".toList
        ++ (g₃ ++ (t ++ (u ++ ')' :: rest)))))
      = "=>".toList ++ (g₃ ++ (t ++ (u ++ ')' :: rest))) :=
    skipGap_append hg₂ stopsAt_cons
  have hskip₃ : skipGap (g₃ ++ (t ++ (u ++ ')' :: rest)))
      = t ++ (u ++ ')' :: rest) := by
    refine skipGap_append hg₃ ?_
    obtain ⟨-, -, -⟩ := hfirst
    exact stopsAt_cons
  -- the loop is given the length of the text as its fuel
  have hlimit : more.length ≤ (u ++ ')' :: rest).length := by
    have := length_le_of_moreText hmore
    simp only [List.length_append]
    omega
  have hread := moreClauses_append (s := ')' :: rest) hmore hlimit rfl
  simp only [filterCall?, List.append_assoc, List.cons_append,
    List.nil_append, after_append, Option.bind_eq_bind, Option.bind_some,
    hskip₁, hskip₂, hskip₃, clause?_append hfirst, hread, hf, after_cons]
  rfl

/-- A filter is read exactly where one of its texts stands. -/
theorem filterCall?_eq_some_iff {f : Filter} :
    filterCall? s = some (f, rest) ↔
      ∃ t, FilterText f t ∧ s = t ++ rest := by
  refine ⟨filterCall?_eq_some, ?_⟩
  rintro ⟨t, ht, rfl⟩
  exact filterCall?_append ht rest

-- ============================================================ searches

section Search

variable {α : Type} {read : List Char → Option (α × List Char)}
  {literal a : List Char} {q : Char}

/-- Whether a reader asks for a literal before anything else. -/
def BeginsWith (literal : List Char)
    (read : List Char → Option (α × List Char)) : Prop :=
  ∀ s, after literal s = none → read s = none

/-- A bucket is not read before its literal. -/
theorem bucketCall?_beginsWith :
    BeginsWith "from(bucket:".toList bucketCall? := by
  intro s h
  simp only [bucketCall?, h, Option.bind_eq_bind, Option.bind_none]

/-- A range is not read before its literal. -/
theorem rangeCall?_beginsWith :
    BeginsWith "range(start:".toList rangeCall? := by
  intro s h
  simp only [rangeCall?, h, Option.bind_eq_bind, Option.bind_none]

/-- A filter is not read before its literal. -/
theorem filterCall?_beginsWith :
    BeginsWith "filter(fn:".toList filterCall? := by
  intro s h
  simp only [filterCall?, h, Option.bind_eq_bind, Option.bind_none]

/-- A line has no call if the call can be read at no place of it. -/
theorem call?_eq_none_iff :
    call? read s = none ↔ ∀ u v, s = u ++ v → read v = none := by
  simp only [call?, leftmost_eq_none_iff, Option.map_eq_none_iff]

/-- A line has no call of a kind if no text of that kind stands in it. -/
theorem call?_eq_none_iff_of_texts {text : α → List Char → Prop}
    (hread : ∀ {s x rest}, read s = some (x, rest)
      ↔ ∃ t, text x t ∧ s = t ++ rest) {line : List Char} :
    call? read line = none ↔ ∀ x t, text x t → ¬ t <:+: line := by
  rw [call?_eq_none_iff]
  constructor
  · rintro h x t ht ⟨u, v, rfl⟩
    have hnone := h u (t ++ v) (List.append_assoc u t v)
    rw [hread.2 ⟨t, ht, rfl⟩] at hnone
    cases hnone
  · intro h u v huv
    rw [Option.eq_none_iff_forall_ne_some]
    rintro ⟨x, rest⟩ hsome
    obtain ⟨t, ht, rfl⟩ := hread.1 hsome
    exact h x t ht ⟨u, rest, by rw [huv, List.append_assoc]⟩

/-- What is read at the head of a line is leftmost in it. -/
theorem call?_of_read {x : α} (h : read s = some (x, rest)) :
    call? read s = some x :=
  leftmost_of_read (by simp [h])

theorem call?_of_bucketText {b : Bucket} (h : BucketText b s) :
    call? bucketCall? s = some b :=
  call?_of_read (bucketCall?_eq_some_iff.2 ⟨s, h, (List.append_nil s).symm⟩)

theorem call?_of_rangeText {r : DateRange} (h : RangeText r s) :
    call? rangeCall? s = some r :=
  call?_of_read (rangeCall?_eq_some_iff.2 ⟨s, h, (List.append_nil s).symm⟩)

theorem call?_of_filterText {f : Filter} (h : FilterText f s) :
    call? filterCall? s = some f :=
  call?_of_read (filterCall?_eq_some_iff.2 ⟨s, h, (List.append_nil s).symm⟩)

/-- What a line says was read at some place of it. -/
theorem exists_read_of_call? {x : α} (h : call? read s = some x) :
    ∃ u v rest, s = u ++ v ∧ read v = some (x, rest) := by
  obtain ⟨u, v, hs, hv⟩ := exists_read_of_leftmost h
  obtain ⟨⟨y, rest⟩, hread, rfl⟩ := Option.map_eq_some_iff.1 hv
  exact ⟨u, v, rest, hs, hread⟩

/-- No call begins in a stretch, up to a separator, in which its literal
does not stand. -/
theorem call?_append_cons (hread : BeginsWith literal read)
    (hq : q ∉ literal) (ha : occursIn literal a = false) (s : List Char) :
    call? read (a ++ q :: s) = call? read s :=
  leftmost_append_cons hq (fun s h => by simp [hread s h]) ha s

/-- A line in which the literal of a call does not stand has no such
call. -/
theorem call?_eq_none_of_not_occursIn (hread : BeginsWith literal read)
    (hs : occursIn literal s = false) : call? read s = none :=
  leftmost_eq_none_of_not_occursIn (fun s h => by simp [hread s h]) hs

end Search

end FluxComposer.Recognizer
