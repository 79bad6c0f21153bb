import FluxComposer.Proofs.Builder.Transition
/-
The revision of a builder. An operation on the query that is carried out
counts as a change of the query, whether or not the new query is another
one, and raises the revision by one; everything else leaves query and
revision alone. So two equal revisions have either no change between
them, and then the same query, or as many changes as there are revisions.
-/
namespace FluxComposer.Builder

variable {b b' : Builder} {e : Edit} {o : Outcome}

/-- Whether an operation is one on the query, and not only on what is
listed. -/
def Edit.isOnQuery : Edit → Bool
  | .setBuckets _ | .applyMeasurements .. | .applyFields .. => false
  | _ => true

/-- Whether an operation that ends with an outcome has changed the
query. -/
def Edit.changesQuery (e : Edit) (o : Outcome) : Bool :=
  e.isOnQuery && o ≠ .refused

/-- A change raises the revision by one. -/
theorem revision_transition (h : Transition b e o b') :
    b'.revision
      = b.revision + UInt64.ofNat (if e.changesQuery o then 1 else 0) := by
  cases h with
  | refused =>
      have hsame : e.changesQuery .refused = false := by
        simp [Edit.changesQuery]
      rw [hsame]
      exact (UInt64.add_zero _).symm
  | setBuckets | applyMeasurements | applyFields =>
      exact (UInt64.add_zero _).symm
  -- the parts that are forgotten with a removed one do not count again
  | removePart =>
      rw [revision_forgetFor]
      rfl
  | selectBucket | selectMeasurement | dropFields | selectFields
  | replaceRange | appendRange | updateText | reset => rfl

/-- Without a change the query stays. -/
theorem query_transition (h : Transition b e o b')
    (unchanged : e.changesQuery o = false) : b'.query = b.query := by
  cases h with
  | refused | setBuckets | applyMeasurements | applyFields => rfl
  | selectBucket | selectMeasurement | dropFields | selectFields
  | replaceRange | appendRange | updateText | removePart | reset =>
      cases unchanged

/-- Fewer changes than there are revisions lead to the same revision only
if there are none. -/
theorem eq_zero_of_revision {revision : UInt64} {changes : Nat}
    (few : changes < UInt64.size)
    (same : revision = revision + UInt64.ofNat changes) : changes = 0 := by
  -- revisions are words, so this fails once they have gone round
  have hzero : UInt64.ofNat changes = 0 := by simpa using same
  have hnat := congrArg UInt64.toNat hzero
  rwa [UInt64.toNat_ofNat_of_lt' few] at hnat

end FluxComposer.Builder
