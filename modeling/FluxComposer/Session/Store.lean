import FluxComposer.Builder.Edit
import FluxComposer.Influx.Credentials
import FluxComposer.Session.Clock
/-
The sessions that are open. A session is known by its token, and holds
the credentials it was opened with and a builder of its own. It ends when
it is closed or when its time is over; then it is dropped as soon as it
is touched again, or when sessions that are over are purged, as happens
whenever one is opened.

Each operation is one step of the store, and an operation given as data
is `SessionOp`. Opening a session fails where the clock does not reach to
its end. The clock is read twice for it: the session ends a lifetime after
the first reading, which is taken before the store is free, and what is
over at the second one is purged.
-/
namespace FluxComposer

/-- An open session. -/
structure Session where
  credentials : Credentials
  builder : Builder := {}
  expiresAt : Instant
  deriving DecidableEq

/-- Whether the time of a session is over. -/
def Session.isExpired (s : Session) (now : Instant) : Bool :=
  s.expiresAt ≤ now

/-- Why a token gives no session. -/
inductive SessionError where
  | unknown
  | expired
  deriving DecidableEq, Repr

/-- The wording of an error. -/
def SessionError.message : SessionError → String
  | .unknown => "Unknown session token"
  | .expired => "Session expired"

/-- The sessions by their tokens, and the lifetime of new ones in
seconds. -/
structure SessionStore where
  lifetime : Nat
  sessions : List (String × Session) := []

/-- A session that was just opened. -/
structure Issued where
  token : String
  expiresAt : Instant
  deriving DecidableEq, Repr

namespace SessionStore

/-- A store without sessions, for a setting of the lifetime. -/
def ofLifetime (setting : UInt64) : SessionStore where
  lifetime := lifetimeOf setting

/-- The session with a token. -/
def find? (store : SessionStore) (token : String) : Option Session :=
  store.sessions.lookup token

/-- The store without the session with a token. -/
def erase (store : SessionStore) (token : String) : SessionStore :=
  { store with sessions := store.sessions.filter (·.1 ≠ token) }

/-- The store with a session under a token, in the place of any other. -/
def insert (store : SessionStore) (token : String) (s : Session) :
    SessionStore :=
  { store with sessions := (token, s) :: (store.erase token).sessions }

/-- The store without the sessions whose time is over. -/
def purge (store : SessionStore) (now : Instant) : SessionStore :=
  { store with
    sessions := store.sessions.filter fun s => !s.2.isExpired now }

/-- The number of sessions, with those that are over but not dropped. -/
def size (store : SessionStore) : Nat := store.sessions.length

/-- Opens a session under a new token. Its lifetime begins when it is
issued, which may be before the store is reached. -/
def create (store : SessionStore) (now : Instant) (token : String)
    (credentials : Credentials) (issuedAt : Instant := now) :
    Option Issued × SessionStore :=
  match issuedAt.after? store.lifetime with
  | none => (none, store)
  | some expiresAt =>
    (some ⟨token, expiresAt⟩,
      (store.purge now).insert token { credentials, expiresAt })

/-- Touches the session with a token: gives what `use` makes of it and
keeps it changed. One whose time is over is dropped instead. -/
def touch {α : Type} (store : SessionStore) (now : Instant)
    (token : String) (use : Session → α × Session) :
    Except SessionError α × SessionStore :=
  match store.find? token with
  | none => (.error .unknown, store)
  | some s =>
    if s.isExpired now then (.error .expired, store.erase token)
    else
      let (a, s) := use s
      (.ok a, store.insert token s)

/-- The credentials of a session. -/
def credentials (store : SessionStore) (now : Instant) (token : String) :
    Except SessionError Credentials × SessionStore :=
  store.touch now token fun s => (s.credentials, s)

/-- Works on the builder of a session. -/
def withBuilder {α : Type} (store : SessionStore) (now : Instant)
    (token : String) (use : Builder → α × Builder) :
    Except SessionError α × SessionStore :=
  store.touch now token fun s =>
    let (a, builder) := use s.builder
    (a, { s with builder })

/-- Closes a session: whether there was one. -/
def remove (store : SessionStore) (token : String) :
    Bool × SessionStore :=
  ((store.find? token).isSome, store.erase token)

end SessionStore

-- ========================================================= operations

/-- An operation on the store, with the type of its answer. Edits answer
with their outcome and the builder after it. -/
inductive SessionOp : Type → Type where
  | create (credentials : Credentials) : SessionOp (Option Issued)
  | credentials (token : String) : SessionOp (Except SessionError Credentials)
  | edit (token : String) (edit : Builder.Edit) :
      SessionOp (Except SessionError (Builder.Outcome × Builder))
  | view (token : String) : SessionOp (Except SessionError Builder)
  | remove (token : String) : SessionOp Bool
  | purge : SessionOp Nat
  | size : SessionOp Nat

/-- Carries an operation out, at a point in time and with a token that
was never issued before. A session that it opens was issued at a time of
its own. -/
def SessionOp.run {α : Type} (op : SessionOp α) (now : Instant)
    (fresh : String) (store : SessionStore) (issuedAt : Instant := now) :
    α × SessionStore :=
  match op with
  | .create c => store.create now fresh c issuedAt
  | .credentials token => store.credentials now token
  | .edit token e =>
    store.withBuilder now token fun b =>
      let (o, b) := b.apply e
      ((o, b), b)
  | .view token => store.withBuilder now token fun b => (b, b)
  | .remove token => store.remove token
  | .purge => (store.size - (store.purge now).size, store.purge now)
  | .size => (store.size, store)

end FluxComposer
