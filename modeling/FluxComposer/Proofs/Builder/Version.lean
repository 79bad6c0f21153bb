import FluxComposer.Builder.InPlace
import FluxComposer.Proofs.Builder.Revision
import Mathlib.Data.Nat.Init
/-
The revision as a version number. An operation that is carried out step by
step on a builder that is kept gives up before it assigns anything or not
at all (`perform_eq_apply`), so a refusal changes nothing. Every other
operation counts one revision or keeps query and revision, and the
revision of a run is the number of its changes (`toNat_revision_take`).
Where two states of a run have the same revision there is no change
between them: the query is one all the way, and a listing differs only
where one was taken over.

A listing is no part of the query, and taking one over counts no revision.
So where the theorem speaks of equal revisions it says of listings only
that they were taken over in between (`Unversioned`), and nothing else can
have changed.
-/
namespace FluxComposer.Builder

variable {b b' : Builder} {e : Edit} {o : Outcome} {edits : List Edit}

-- ============================================================ in place

section InPlace

open Steps

variable {α : Type}

/-- What steps look at is the builder as it stands. -/
theorem run_get (next : Builder → Steps α) (b : Builder) :
    (get >>= next).run.run b = (next b).run.run b := rfl

/-- The bucket is looked up before the builder is touched. -/
theorem perform_selectBucket (b : Builder) (position : Nat) :
    b.perform (.selectBucket position)
      = b.apply (.selectBucket position) := by
  unfold perform ofEdit Steps.selectBucket
  rw [run_get]
  cases hlisted : b.buckets[position]? with
  | none =>
      have hnone : b.selectBucket position = none := by
        simp [selectBucket, hlisted]
      rw [apply, hnone]
      rfl
  | some bucket =>
      have hsome : b.selectBucket position
          = some (bucket, (b.withQuery (.ofParts [.bucket bucket,
            .dateRange defaultRange])).forgetListings) := by
        simp [selectBucket, hlisted]
      rw [apply, hsome]
      rfl

/-- The measurement is looked up first, and then the bucket it is selected
in. -/
theorem perform_selectMeasurement (b : Builder) (position : Nat) :
    b.perform (.selectMeasurement position)
      = b.apply (.selectMeasurement position) := by
  unfold perform ofEdit Steps.selectMeasurement
  rw [run_get]
  cases hlisted : b.measurements[position]? with
  | none =>
      rw [apply, selectMeasurement_eq_none (.inl hlisted)]
      rfl
  | some measurement =>
      dsimp only
      rw [run_get]
      cases hbucket : b.bucket? with
      | none =>
          rw [apply, selectMeasurement_eq_none (.inr hbucket)]
          rfl
      | some bucket =>
          rw [apply, selectMeasurement_eq_some hlisted hbucket]
          rfl

/-- Fields are looked up first unless there are no positions, where nothing
can be refused. -/
theorem perform_selectFields (b : Builder) (positions : List Nat) :
    b.perform (.selectFields positions)
      = b.apply (.selectFields positions) := by
  cases positions with
  | nil => rfl
  | cons first others =>
      unfold perform ofEdit Steps.selectFields
      rw [run_get]
      dsimp only [List.isEmpty_cons]
      rw [if_neg Bool.false_ne_true, run_get]
      cases hnames : (first :: others).filterMap (b.fields[·]?) with
      | nil =>
          rw [apply, selectFields_eq_none (List.cons_ne_nil _ _) hnames]
          rfl
      | cons name names =>
          rw [apply, selectFields_eq_some hnames (List.cons_ne_nil _ _)]
          rfl

/-- A range is never refused. -/
theorem perform_selectDateRange (b : Builder) (start : String)
    (stop : Option String) : b.perform (.selectDateRange start stop)
      = b.apply (.selectDateRange start stop) := by
  unfold perform ofEdit Steps.selectDateRange
  rw [run_get]
  show _ = (Outcome.done, b.selectDateRange start stop)
  unfold selectDateRange
  dsimp only
  cases b.query.position? Part.isDateRange <;> rfl

/-- The part is looked up first, and what is forgotten with it depends on
its kind. -/
theorem perform_removePart (b : Builder) (index : Nat) :
    b.perform (.removePart index) = b.apply (.removePart index) := by
  unfold perform ofEdit Steps.removePart
  rw [run_get]
  cases hfound : b.query.parts[index]? with
  | none =>
      have hnone : b.removePart index = none := by
        simp [removePart, hfound]
      rw [apply, hnone]
      rfl
  | some part =>
      have hsome : b.removePart index = some (part,
          (b.withQuery (b.query.removeAt index)).forgetFor part) := by
        simp [removePart, hfound]
      rw [apply, hsome]
      rcases part with _ | _ | ⟨_ | _, _⟩ <;> rfl

/-- Steps go on only where the revision is the current one. -/
theorem run_requireRevision (revision : UInt64)
    (next : Unit → Steps α) (b : Builder) :
    (requireRevision revision >>= next).run.run b
      = if revision = b.revision then (next ()).run.run b
        else (none, b) := by
  have hrun : (requireRevision revision).run.run b
      = (if revision ≠ b.revision then (failure : Steps Unit)
        else pure ()).run.run b := run_get _ b
  simp only [OptionT.run_bind, Option.elimM, StateT.run_bind, hrun]
  -- the steps behind are taken, or they are given up with the builder as it
  -- is
  by_cases h : revision = b.revision
  · rw [if_pos h, if_neg (not_not_intro h)]
    rfl
  · rw [if_neg h, if_pos h]
    rfl

/-- A listing that was fetched is assigned or given up. -/
theorem perform_takeOver (revision : UInt64) (assign : Builder → Builder)
    (b : Builder) :
    (match (do
        requireRevision revision
        modify assign
        return Outcome.done : Steps Outcome).run.run b with
      | (some outcome, b') => (outcome, b')
      | (none, b') => (.refused, b'))
      = b.doneOrRefused
        (if revision = b.revision then some (assign b) else none) := by
  rw [run_requireRevision]
  by_cases h : revision = b.revision
  · rw [if_pos h, if_pos h]
    rfl
  · rw [if_neg h, if_neg h]
    rfl

/-- Carried out step by step, an operation gives up before it assigns
anything, or not at all. -/
theorem perform_eq_apply (b : Builder) (e : Edit) :
    b.perform e = b.apply e := by
  -- operations that are never refused assign at once
  cases e with
  | setBuckets | updateText | reset => rfl
  | selectBucket position => exact perform_selectBucket b position
  | selectMeasurement position => exact perform_selectMeasurement b position
  | selectFields positions => exact perform_selectFields b positions
  | selectDateRange start stop => exact perform_selectDateRange b start stop
  | removePart index => exact perform_removePart b index
  | applyMeasurements revision names =>
      exact perform_takeOver revision ({ · with measurements := names }) b
  | applyFields revision names =>
      exact perform_takeOver revision ({ · with fields := names }) b

end InPlace

-- =============================================================== changes

/-- The number of operations of a run that change the query. -/
def changes (b : Builder) : List Edit → Nat
  | [] => 0
  | e :: edits =>
    (if e.changesQuery (b.apply e).1 then 1 else 0)
      + changes (b.apply e).2 edits

/-- Changes are counted one run after another. -/
theorem changes_append (b : Builder) (early late : List Edit) :
    changes b (early ++ late)
      = changes b early + changes (b.applyAll early) late := by
  induction early generalizing b with
  | nil => exact (Nat.zero_add _).symm
  | cons e early ih =>
      rw [List.cons_append, changes, changes, ih, Nat.add_assoc]
      rfl

/-- The revision counts the changes. -/
theorem revision_applyAll (b : Builder) (edits : List Edit) :
    (b.applyAll edits).revision
      = b.revision + UInt64.ofNat (changes b edits) := by
  -- counting from the front, where the words add up as numbers do
  induction edits generalizing b with
  | nil => exact (UInt64.add_zero _).symm
  | cons e edits ih =>
      have hnext : b.applyAll (e :: edits)
          = (b.apply e).2.applyAll edits := rfl
      rw [hnext, ih, revision_transition (transition_apply b e),
        UInt64.add_assoc, ← UInt64.ofNat_add]
      rfl

/-- In a run of a new builder that has no more changes than there are
revisions, a revision is the number of changes so far. -/
theorem toNat_revision_take (few : changes {} edits < UInt64.size)
    (n : Nat) : (applyAll {} (edits.take n)).revision.toNat
      = changes {} (edits.take n) := by
  have hle : changes {} (edits.take n) ≤ changes {} edits := by
    conv => rhs; rw [← List.take_append_drop n edits, changes_append]
    exact Nat.le_add_right _ _
  rw [revision_applyAll]
  show (0 + UInt64.ofNat _).toNat = _
  rw [UInt64.zero_add]
  exact UInt64.toNat_ofNat_of_lt' (Nat.lt_of_le_of_lt hle few)

/-- One more operation counts one change at most. -/
theorem changes_take_succ {n : Nat} (h : edits[n]? = some e) :
    changes {} (edits.take (n + 1)) = changes {} (edits.take n)
      + if e.changesQuery ((applyAll {} (edits.take n)).apply e).1
        then 1 else 0 := by
  rw [List.take_add_one, h, Option.toList_some, changes_append]
  rfl

/-- Changes are not uncounted. -/
theorem changes_take_mono (edits : List Edit) {m n : Nat} (h : m ≤ n) :
    changes {} (edits.take m) ≤ changes {} (edits.take n) := by
  rw [← Nat.add_sub_cancel' h, List.take_add, changes_append]
  exact Nat.le_add_right _ _

-- =============================================================== states

/-- What an operation may do where no revision is counted: the query
stays, and a listing stays or is taken over. -/
structure Unversioned (b : Builder) (e : Edit) (o : Outcome)
    (b' : Builder) : Prop where
  query : b'.query = b.query
  measurements : b'.measurements = b.measurements
    ∨ o = .done ∧ e = .applyMeasurements b.revision b'.measurements
  fields : b'.fields = b.fields
    ∨ o = .done ∧ e = .applyFields b.revision b'.fields

/-- An operation that does not count is refused or is about listings. -/
theorem unversioned_transition (h : Transition b e o b')
    (unchanged : e.changesQuery o = false) : Unversioned b e o b' := by
  cases h with
  | refused | setBuckets => exact ⟨rfl, .inl rfl, .inl rfl⟩
  | applyMeasurements => exact ⟨rfl, .inr ⟨rfl, rfl⟩, .inl rfl⟩
  | applyFields => exact ⟨rfl, .inl rfl, .inr ⟨rfl, rfl⟩⟩
  | selectBucket | selectMeasurement | dropFields | selectFields
  | replaceRange | appendRange | updateText | removePart | reset =>
      cases unchanged

/-- A refusal changes nothing. -/
theorem eq_of_refused (h : b.apply e = (.refused, b')) : b' = b := by
  generalize hrefused : Outcome.refused = o at h
  cases transition_of_apply h with
  | refused => rfl
  | setBuckets | selectBucket | selectMeasurement | dropFields
  | selectFields | replaceRange | appendRange | updateText | removePart
  | reset | applyMeasurements | applyFields => cases hrefused

section Runs

variable (few : changes {} edits < UInt64.size) {m k n : Nat}

include few

/-- An operation keeps query and revision, or counts one revision. -/
theorem counted_step (h : edits[n]? = some e)
    (hb : (applyAll {} (edits.take n)).apply e = (o, b)) :
    (b.query = (applyAll {} (edits.take n)).query
        ∧ b.revision = (applyAll {} (edits.take n)).revision)
      ∨ b.revision.toNat
        = (applyAll {} (edits.take n)).revision.toNat + 1 := by
  -- the count goes up with the step or does not
  by_cases hchange : e.changesQuery o = true
  · right
    have hstate : applyAll {} (edits.take (n + 1)) = b :=
      (applyAll_take_succ {} h).trans (congrArg Prod.snd hb)
    have hcount := changes_take_succ h
    rw [hb, if_pos hchange] at hcount
    rw [← hstate, toNat_revision_take few, toNat_revision_take few, hcount]
  · left
    have htransition := transition_of_apply hb
    refine ⟨query_transition htransition (by simpa using hchange), ?_⟩
    rw [revision_transition htransition, if_neg hchange]
    exact UInt64.add_zero _

variable (same : (applyAll {} (edits.take m)).revision
  = (applyAll {} (edits.take n)).revision)

include same

/-- Between two states with the same revision nothing is counted. -/
theorem unversioned_between (hm : m ≤ k) (hn : k < n)
    (h : edits[k]? = some e) :
    Unversioned (applyAll {} (edits.take k)) e
      ((applyAll {} (edits.take k)).apply e).1
      (applyAll {} (edits.take (k + 1))) := by
  have hcount := congrArg UInt64.toNat same
  rw [toNat_revision_take few, toNat_revision_take few] at hcount
  have hbefore := changes_take_mono edits hm
  have hbehind := changes_take_mono edits hn
  rw [Nat.succ_eq_add_one, changes_take_succ h] at hbehind
  rw [applyAll_take_succ _ h]
  refine unversioned_transition (transition_apply _ e) ?_
  -- a change at this step would have raised the count for good
  by_contra hchange
  rw [if_pos (by simpa using hchange)] at hbehind
  omega

/-- So the query is the same all the way between them. -/
theorem query_between (hm : m ≤ k) (hn : k ≤ n) :
    (applyAll {} (edits.take k)).query
      = (applyAll {} (edits.take m)).query := by
  -- state by state, up from the earlier one
  induction k, hm using Nat.le_induction with
  | base => rfl
  | succ k hm ih =>
      rw [← ih (Nat.le_of_succ_le hn)]
      cases he : edits[k]? with
      | none =>
          have hend := List.getElem?_eq_none_iff.1 he
          rw [List.take_of_length_le hend,
            List.take_of_length_le (Nat.le_succ_of_le hend)]
      | some e => exact (unversioned_between few same hm hn he).query

end Runs

/-- In a run of a new builder with fewer changes than there are revisions,
every operation, carried out step by step, leaves the builder as it was
where it is refused, and keeps query and revision or counts one revision.
From a state on up to another one with the same revision the query is the
same, and of the listings below a bucket only those were changed that were
taken over. -/
theorem revision_isVersion (few : changes {} edits < UInt64.size) :
    let state n := applyAll {} (edits.take n)
    (∀ n e o b, edits[n]? = some e → (state n).perform e = (o, b) →
        b = state (n + 1)
          ∧ (o = .refused → b = state n)
          ∧ (b.query = (state n).query ∧ b.revision = (state n).revision
            ∨ b.revision.toNat = (state n).revision.toNat + 1))
      ∧ ∀ m n, (state m).revision = (state n).revision →
        (∀ k, m ≤ k → k ≤ n → (state k).query = (state m).query)
          ∧ ∀ k e, m ≤ k → k < n → edits[k]? = some e →
            ∃ o, (state k).perform e = (o, state (k + 1))
              ∧ Unversioned (state k) e o (state (k + 1)) := by
  intro state
  refine ⟨fun n e o b he hb => ?_, fun m n same => ⟨?_, ?_⟩⟩
  · rw [perform_eq_apply] at hb
    have hstate : state (n + 1) = b :=
      (applyAll_take_succ {} he).trans (congrArg Prod.snd hb)
    exact ⟨hstate.symm, fun ho => eq_of_refused (ho ▸ hb),
      counted_step few he hb⟩
  · exact fun k hm hn => query_between few same hm hn
  · intro k e hm hn he
    refine ⟨_, ?_, unversioned_between few same hm hn he⟩
    simp only [state]
    rw [perform_eq_apply, applyAll_take_succ _ he]

/-- A run that takes over a listing for its bucket, and is refused another
bucket and a listing that came late. -/
def offeredRun : List Edit :=
  [.setBuckets [.named "metrics"], .selectBucket 0, .selectBucket 1,
    .applyMeasurements 1 ["cpu"], .applyMeasurements 0 ["mem"]]

/-- The refused bucket leaves the state, and the listing that is taken over
leaves query and revision. -/
theorem revision_isVersion_offeredRun :
    changes {} offeredRun < UInt64.size
      ∧ applyAll {} (offeredRun.take 3) = applyAll {} (offeredRun.take 2)
      ∧ (applyAll {} (offeredRun.take 2)).revision
        = (applyAll {} (offeredRun.take 5)).revision
      ∧ (applyAll {} (offeredRun.take 4)).query
        = (applyAll {} (offeredRun.take 2)).query
      ∧ (applyAll {} (offeredRun.take 4)).measurements = ["cpu"] := by
  have few : changes {} offeredRun < UInt64.size := by decide
  have same : (applyAll {} (offeredRun.take 2)).revision
      = (applyAll {} (offeredRun.take 5)).revision := by decide
  obtain ⟨hsteps, hsame⟩ := revision_isVersion few
  obtain ⟨hnext, hrefused, -⟩ :=
    hsteps 2 (.selectBucket 1) .refused _ rfl rfl
  exact ⟨few, hnext.symm.trans (hrefused rfl), same,
    (hsame 2 5 same).1 4 (by decide) (by decide), by decide⟩

end FluxComposer.Builder
