import FluxComposer.Session.Store
/-
Sessions without their secrets. A store is masked by taking the API
tokens of its sessions away, and an operation on the store by taking away
the one that it brings. Masking commutes with every operation
(`SessionOp.run_masked`): what an operation does to masked sessions is
what it does to the sessions, masked. So the secrets decide nothing, and
of all answers only the credentials of a session hold one.
-/
namespace FluxComposer

/-- Credentials without their API token. -/
def Credentials.masked (c : Credentials) : Credentials :=
  { c with apiToken := "" }

/-- Of masked credentials only the organization is left. -/
theorem Credentials.masked_eq_iff {c c' : Credentials} :
    c.masked = c'.masked ↔ c.organization = c'.organization := by
  simp [masked]

/-- A session without its API token. -/
def Session.masked (s : Session) : Session :=
  { s with credentials := s.credentials.masked }

@[simp]
theorem Session.isExpired_masked (s : Session) (now : Instant) :
    s.masked.isExpired now = s.isExpired now := rfl

namespace SessionStore

/-- A store without the API tokens of its sessions. -/
def masked (store : SessionStore) : SessionStore where
  lifetime := store.lifetime
  sessions := store.sessions.map fun entry => (entry.1, entry.2.masked)

variable (store : SessionStore) (now : Instant) (token : String)

/-- A session is found under the same token, masked. -/
theorem find?_masked :
    store.masked.find? token = (store.find? token).map Session.masked := by
  obtain ⟨lifetime, sessions⟩ := store
  show (sessions.map _).lookup token = (sessions.lookup token).map _
  induction sessions with
  | nil => rfl
  | cons entry sessions ih =>
      rw [List.map_cons, List.lookup_cons, List.lookup_cons, ih]
      cases token == entry.1 <;> rfl

theorem erase_masked :
    store.masked.erase token = (store.erase token).masked := by
  simp only [erase, masked, List.filter_map]
  rfl

theorem insert_masked (s : Session) :
    store.masked.insert token s.masked = (store.insert token s).masked := by
  simp only [insert, erase_masked]
  rfl

theorem purge_masked :
    store.masked.purge now = (store.purge now).masked := by
  simp only [purge, masked, List.filter_map]
  rfl

theorem size_masked : store.masked.size = store.size := by
  simp only [size, masked, List.length_map]

/-- A session is opened at the same times for masked credentials. -/
theorem create_masked (c : Credentials) (issuedAt : Instant) :
    store.masked.create now token c.masked issuedAt
      = ((store.create now token c issuedAt).1,
        (store.create now token c issuedAt).2.masked) := by
  have hlifetime : store.masked.lifetime = store.lifetime := rfl
  unfold create
  rw [hlifetime]
  cases issuedAt.after? store.lifetime with
  | none => rfl
  | some expiresAt =>
      have hinsert := (store.purge now).insert_masked token
        { credentials := c, expiresAt }
      rw [← purge_masked] at hinsert
      exact congrArg (Prod.mk _) hinsert

/-- Touching a masked session, in a way to which masking is nothing. -/
theorem touch_masked {α : Type} (use : Session → α × Session)
    (mask : α → α)
    (uses : ∀ s, use s.masked = (mask (use s).1, (use s).2.masked)) :
    store.masked.touch now token use
      = ((store.touch now token use).1.map mask,
        (store.touch now token use).2.masked) := by
  unfold touch
  rw [find?_masked]
  cases store.find? token with
  | none => rfl
  | some s =>
      cases hexpired : s.isExpired now with
      | true =>
          simp only [Option.map_some, Session.isExpired_masked, hexpired,
            if_true, erase_masked]
          rfl
      | false =>
          simp only [Option.map_some, Session.isExpired_masked, hexpired,
            uses, insert_masked]
          rfl

/-- An answer to touching that holds no secret stays as it is. -/
theorem touch_masked_id {α : Type} (use : Session → α × Session)
    (uses : ∀ s, use s.masked = ((use s).1, (use s).2.masked)) :
    store.masked.touch now token use
      = ((store.touch now token use).1,
        (store.touch now token use).2.masked) := by
  have htouch := store.touch_masked now token use id uses
  rwa [Except.map_id] at htouch

end SessionStore

-- ========================================================= operations

namespace SessionOp

/-- An operation without the API token that it brings. -/
def masked {α : Type} : SessionOp α → SessionOp α
  | .create c => .create c.masked
  | op => op

/-- The answer to an operation without the API token in it. -/
def maskedAnswer {α : Type} : SessionOp α → α → α
  | .credentials _ => fun answer => answer.map Credentials.masked
  | _ => id

/-- An operation on masked sessions. -/
theorem run_masked {α : Type} (op : SessionOp α) (now : Instant)
    (fresh : String) (store : SessionStore) (issuedAt : Instant) :
    op.masked.run now fresh store.masked issuedAt
      = (op.maskedAnswer (op.run now fresh store issuedAt).1,
        (op.run now fresh store issuedAt).2.masked) := by
  -- three operations touch a session, of which one answers with its secret
  cases op with
  | create c => exact store.create_masked now fresh c issuedAt
  | credentials token =>
      exact store.touch_masked now token
        (fun s => (s.credentials, s)) Credentials.masked fun _ => rfl
  | edit token e =>
      exact store.touch_masked_id now token
        (fun s =>
          (s.builder.apply e, { s with builder := (s.builder.apply e).2 }))
        fun _ => rfl
  | view token =>
      exact store.touch_masked_id now token
        (fun s => (s.builder, { s with builder := s.builder }))
        fun _ => rfl
  | remove token =>
      show ((store.masked.find? token).isSome, store.masked.erase token) = _
      rw [store.find?_masked, Option.isSome_map, store.erase_masked]
      rfl
  | purge =>
      show (store.masked.size - (store.masked.purge now).size,
        store.masked.purge now) = _
      rw [store.purge_masked, store.size_masked,
        (store.purge now).size_masked]
      rfl
  | size =>
      show (store.masked.size, store.masked) = _
      rw [store.size_masked]
      rfl

/-- Operations that differ only in secrets do to sessions that differ only
in secrets what differs only in secrets. -/
theorem run_eq_of_masked {α : Type} {op op' : SessionOp α}
    {store store' : SessionStore} (ops : op.masked = op'.masked)
    (stores : store.masked = store'.masked) (now : Instant)
    (fresh : String) (issuedAt : Instant) :
    op.maskedAnswer (op.run now fresh store issuedAt).1
        = op'.maskedAnswer (op'.run now fresh store' issuedAt).1
      ∧ (op.run now fresh store issuedAt).2.masked
        = (op'.run now fresh store' issuedAt).2.masked := by
  have hrun := op.run_masked now fresh store issuedAt
  rw [ops, stores, op'.run_masked] at hrun
  exact ⟨(congrArg Prod.fst hrun).symm, (congrArg Prod.snd hrun).symm⟩

end SessionOp
end FluxComposer
