import FluxComposer.Text.Search
/-
Where things stand in a text. A literal that lacks some character is
found on one side of that character or on the other, never across it.
All that later files say about needles and calls inside rendered lines
comes down to this: quotes, spaces, commas and parentheses separate what
a line holds from what was written into it.

Facts that later files use:

- `append_cons_inj`, `prefix_of_prefix_append_cons`: a text is cut in
  one way only at its first separator.
- `after_append_cons`, `occursIn_append_cons`: a literal without the
  separator is matched, or found, on one side of it.
- `leftmost_eq_none_iff`, `leftmost_append_cons`: a search fails if the
  reader fails at every place, and passes over a stretch in which the
  literal that the reader asks for does not stand.
-/
namespace FluxComposer.Text

variable {α : Type} {a b s t needle literal : List Char} {q : Char}

-- ========================================================= separators

/-- The first separator of a text is in one place. -/
theorem append_cons_inj (ha : q ∉ a) (hb : q ∉ b)
    (h : a ++ q :: s = b ++ q :: t) : a = b ∧ s = t := by
  rcases List.append_eq_append_iff.1 h with ⟨u, rfl, hu⟩ | ⟨u, rfl, hu⟩
  · cases u with
    | nil => exact ⟨by simp, by simpa using hu⟩
    | cons c u =>
        obtain ⟨rfl, -⟩ := List.cons.inj hu
        exact absurd (by simp) hb
  · cases u with
    | nil => exact ⟨by simp, by simpa using hu.symm⟩
    | cons c u =>
        obtain ⟨rfl, -⟩ := List.cons.inj hu
        exact absurd (by simp) ha

/-- A separator that ends a text and stands nowhere else in it is the
only one at which the text can be cut. -/
theorem append_singleton_inj (ha : q ∉ a) (h : a ++ [q] = b ++ q :: t) :
    a = b ∧ t = [] := by
  rcases List.append_eq_append_iff.1 h with ⟨u, rfl, hu⟩ | ⟨u, rfl, hu⟩
  · obtain ⟨rfl, ht⟩ : u = [] ∧ t = [] := by
      have := congrArg List.length hu
      simp only [List.length_append, List.length_cons, List.length_nil]
        at this
      exact ⟨List.length_eq_zero_iff.1 (by omega),
        List.length_eq_zero_iff.1 (by omega)⟩
    exact ⟨by simp, ht⟩
  · cases u with
    | nil => exact ⟨by simp, by simpa using hu⟩
    | cons c u =>
        obtain ⟨rfl, -⟩ := List.cons.inj hu
        exact absurd (by simp) ha

/-- What stands at the head of a text and lacks the separator stands
before it. -/
theorem prefix_of_prefix_append_cons (ha : q ∉ a)
    (h : a <+: b ++ q :: s) : a <+: b := by
  obtain ⟨r, hr⟩ := h
  rcases List.append_eq_append_iff.1 hr with ⟨u, rfl, -⟩ | ⟨u, rfl, hu⟩
  · exact List.prefix_append a u
  · cases u with
    | nil => simp
    | cons c u =>
        obtain ⟨rfl, -⟩ := List.cons.inj hu
        exact absurd (by simp) ha

-- =========================================================== literals

/-- A literal without the separator is matched before it or not at
all. -/
theorem after_append_cons (hq : q ∉ literal) (a s : List Char) :
    after literal (a ++ q :: s)
      = (after literal a).map (· ++ q :: s) := by
  induction literal generalizing a with
  | nil => simp [after]
  | cons c literal ih =>
      have hc : c ≠ q := fun e => hq (e ▸ List.mem_cons_self ..)
      have hrest : q ∉ literal := fun m => hq (List.mem_cons_of_mem _ m)
      cases a with
      | nil => simp [after, hc]
      | cons d a =>
          by_cases h : c = d
          · simp [after, h, ih hrest]
          · simp [after, h]

theorem after_append (literal s : List Char) :
    after literal (literal ++ s) = some s :=
  after_eq_some_iff.2 rfl

theorem after_cons (q : Char) (s : List Char) :
    after [q] (q :: s) = some s :=
  after_eq_some_iff.2 rfl

-- ============================================================ needles

/-- A needle that is found is a stretch of the text. -/
theorem occursIn_iff : occursIn needle s = true ↔ needle <:+: s := by
  induction s with
  | nil => simp [occursIn]
  | cons c s ih =>
      simp [occursIn, ih, List.infix_cons_iff]

/-- A needle without the separator stands before it or behind it. -/
theorem occursIn_append_cons (hq : q ∉ needle) (a s : List Char) :
    occursIn needle (a ++ q :: s)
      = (occursIn needle a || occursIn needle s) := by
  rw [Bool.eq_iff_iff, Bool.or_eq_true, occursIn_iff, occursIn_iff,
    occursIn_iff]
  constructor
  · rintro ⟨u, v, h⟩
    rw [List.append_assoc] at h
    rcases List.append_eq_append_iff.1 h with ⟨w, rfl, hw⟩ | ⟨w, rfl, hw⟩
    · have hpre : needle <+: w :=
        prefix_of_prefix_append_cons hq ⟨v, hw⟩
      exact Or.inl (hpre.isInfix.trans (List.suffix_append u w).isInfix)
    · right
      cases w with
      | nil =>
          cases needle with
          | nil => exact List.nil_infix
          | cons c needle =>
              obtain ⟨rfl, -⟩ := List.cons.inj hw
              exact absurd (by simp) hq
      | cons c w =>
          obtain ⟨rfl, rfl⟩ := List.cons.inj hw
          exact ⟨w, v, by simp⟩
  · rintro (h | h)
    · exact h.trans (List.prefix_append a _).isInfix
    · exact h.trans
        ((List.suffix_cons q s).trans (List.suffix_append a _)).isInfix

/-- A needle that stands in a part of a text stands in the text. -/
theorem occursIn_of_stretch (hst : s <:+: t) (h : occursIn needle s = true) :
    occursIn needle t = true :=
  occursIn_iff.2 ((occursIn_iff.1 h).trans hst)

/-- A needle that does not stand in a text stands in no part of it. -/
theorem not_occursIn_of_stretch (hst : s <:+: t)
    (h : occursIn needle t = false) : occursIn needle s = false := by
  rw [Bool.eq_false_iff] at h ⊢
  exact fun hs => h (occursIn_of_stretch hst hs)

-- =========================================================== searches

variable {read : List Char → Option α}

/-- A reader that succeeds at the head is not searched any further. -/
theorem leftmost_of_read {x : α} (h : read s = some x) :
    leftmost read s = some x := by
  cases s with
  | nil => exact h
  | cons c s => simp [leftmost, h]

/-- A search fails if the reader fails at every place. -/
theorem leftmost_eq_none_iff :
    leftmost read s = none ↔ ∀ u v, s = u ++ v → read v = none := by
  induction s with
  | nil => simp [leftmost]
  | cons c s ih =>
      constructor
      · intro h u v huv
        cases hr : read (c :: s) with
        | some x => simp [leftmost, hr] at h
        | none =>
            simp only [leftmost, hr] at h
            cases u with
            | nil => rw [← hr, huv]; rfl
            | cons d u => exact ih.1 h u v (List.cons.inj huv).2
      · intro h
        have hhead : read (c :: s) = none := h [] _ rfl
        simp only [leftmost, hhead]
        exact ih.2 fun u v huv => h (c :: u) v (by rw [huv]; rfl)

/-- What a search finds, the reader reads at some place. -/
theorem exists_read_of_leftmost {x : α} (h : leftmost read s = some x) :
    ∃ u v, s = u ++ v ∧ read v = some x := by
  induction s with
  | nil => exact ⟨[], [], rfl, h⟩
  | cons c s ih =>
      cases hr : read (c :: s) with
      | some y =>
          simp only [leftmost, hr] at h
          exact ⟨[], c :: s, rfl, hr.trans h⟩
      | none =>
          simp only [leftmost, hr] at h
          obtain ⟨u, v, rfl, hv⟩ := ih h
          exact ⟨c :: u, v, rfl, hv⟩

/-- What a search finds is read at the leftmost place where the reader
succeeds. -/
theorem leftmost_eq_some_iff {x : α} :
    leftmost read s = some x ↔ ∃ u v, s = u ++ v ∧ read v = some x
      ∧ ∀ u' v', s = u' ++ v' → u'.length < u.length → read v' = none := by
  induction s with
  | nil =>
      refine ⟨fun h => ⟨[], [], rfl, h, fun _ _ _ hlt => by simp at hlt⟩, ?_⟩
      rintro ⟨u, v, huv, hread, -⟩
      obtain ⟨rfl, rfl⟩ := List.append_eq_nil_iff.1 huv.symm
      exact hread
  | cons c s ih =>
      cases hr : read (c :: s) with
      | some y =>
          simp only [leftmost, hr]
          constructor
          · intro h
            exact ⟨[], c :: s, rfl, hr.trans h,
              fun _ _ _ hlt => by simp at hlt⟩
          · rintro ⟨u, v, huv, hread, hbefore⟩
            cases u with
            | nil => rw [← hr, ← hread, huv]; rfl
            | cons d u =>
                have hnone := hbefore [] (c :: s) rfl (by simp)
                rw [hr] at hnone
                cases hnone
      | none =>
          simp only [leftmost, hr, ih]
          constructor
          · rintro ⟨u, v, rfl, hread, hbefore⟩
            refine ⟨c :: u, v, rfl, hread, fun u' v' huv hlt => ?_⟩
            cases u' with
            | nil => rw [← hr, huv]; rfl
            | cons d u' =>
                exact hbefore u' v' (List.cons.inj huv).2 (by simpa using hlt)
          · rintro ⟨u, v, huv, hread, hbefore⟩
            cases u with
            | nil =>
                rw [← show c :: s = v from huv, hr] at hread
                cases hread
            | cons d u =>
                obtain ⟨rfl, rfl⟩ := List.cons.inj huv
                exact ⟨u, v, rfl, hread, fun u' v' huv hlt =>
                  hbefore (c :: u') v' (by rw [huv]; rfl) (by simpa using hlt)⟩

/-- A search passes over a stretch, up to a separator, in which the
literal that the reader asks for does not stand. -/
theorem leftmost_append_cons (hq : q ∉ literal)
    (hread : ∀ s, after literal s = none → read s = none)
    (ha : occursIn literal a = false) (s : List Char) :
    leftmost read (a ++ q :: s) = leftmost read s := by
  have hskip : ∀ u, occursIn literal u = false →
      read (u ++ q :: s) = none := by
    intro u hu
    refine hread _ ?_
    rw [after_append_cons hq, Option.map_eq_none_iff,
      Option.eq_none_iff_forall_not_mem]
    intro v hv
    have hpre : literal <+: u := ⟨v, (after_eq_some_iff.1 hv).symm⟩
    rw [occursIn_iff.2 hpre.isInfix] at hu
    cases hu
  induction a with
  | nil =>
      have hnil : read (q :: s) = none := hskip [] ha
      simp [leftmost, hnil]
  | cons c a ih =>
      have hhead : read (c :: (a ++ q :: s)) = none := hskip (c :: a) ha
      have hrest : occursIn literal a = false :=
        not_occursIn_of_stretch (List.suffix_cons c a).isInfix ha
      simp only [List.cons_append, leftmost, hhead]
      exact ih hrest

/-- A search fails in a text whose every stretch lacks the literal that
the reader asks for. -/
theorem leftmost_eq_none_of_not_occursIn
    (hread : ∀ s, after literal s = none → read s = none)
    (hs : occursIn literal s = false) : leftmost read s = none := by
  refine leftmost_eq_none_iff.2 fun u v huv => hread _ ?_
  rw [Option.eq_none_iff_forall_not_mem]
  intro w hw
  have hin : literal <:+: s := ⟨u, w, by
    rw [huv, after_eq_some_iff.1 hw, List.append_assoc]⟩
  rw [occursIn_iff.2 hin] at hs
  cases hs

/-- Two texts begin alike. A search that fails in one fails in the other,
as long as this is so of what follows, and the reader succeeds in the
common part of the other only where it does in the first. -/
theorem leftmost_append_eq_none {x y : List Char}
    (hhead : ∀ w, w <:+ a → read (w ++ y) = none → read (w ++ x) = none)
    (htail : leftmost read y = none → leftmost read x = none)
    (h : leftmost read (a ++ y) = none) : leftmost read (a ++ x) = none := by
  rw [leftmost_eq_none_iff] at h ⊢
  intro u v huv
  rcases List.append_eq_append_iff.1 huv with ⟨w, rfl, hw⟩ | ⟨w, rfl, rfl⟩
  · have hy : leftmost read y = none :=
      leftmost_eq_none_iff.2 fun u' v' h' => h (a ++ u') v' (by
        rw [h', List.append_assoc])
    exact leftmost_eq_none_iff.1 (htail hy) w v hw
  · exact hhead w (List.suffix_append u w) (h u (w ++ y) (by simp))

/-- A search that fails in a text fails in its end. -/
theorem leftmost_eq_none_of_suffix (hst : s <:+ t)
    (h : leftmost read t = none) : leftmost read s = none := by
  obtain ⟨r, rfl⟩ := hst
  exact leftmost_eq_none_iff.2 fun u v huv =>
    leftmost_eq_none_iff.1 h (r ++ u) v (by rw [huv, List.append_assoc])

end FluxComposer.Text
