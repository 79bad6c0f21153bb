import FluxComposer.Http.Exchange
import FluxComposer.Influx.Client
import FluxComposer.Service.Error
/-
How a request is carried out. A flow is the sequence of steps of one
request: operations on the session store, each of which happens at once,
calls of the database and the dashboard server, during which other
requests go on, and readings of the clock. What a step answers decides
how the flow goes on. So the steps of several requests can be interleaved
in any order, and a flow knows nothing but the answers to its own steps.
-/
namespace FluxComposer

/-- A call of another server, with the type of its answer. -/
inductive Remote : Type → Type where
  | buckets (credentials : Credentials) :
      Remote (Except InfluxError (List Bucket))
  | query (credentials : Credentials) (flux : String) :
      Remote (Except InfluxError (List Table))
  | analyze (credentials : Credentials) (flux : String) :
      Remote (Except InfluxError (List Problem))
  | grafana (request : Http.Request) : Remote Http.Exchange

/-- The steps of a request, up to a result. -/
inductive Flow (α : Type) : Type 1 where
  | done (result : α)
  /-- The request ends without an answer. -/
  | crash
  | session {β : Type} (op : SessionOp β) (next : β → Flow α)
  | remote {β : Type} (call : Remote β) (next : β → Flow α)
  | clock (next : Instant → Flow α)

namespace Flow

/-- Continues with what the result of a flow leads to. -/
def bind {α β : Type} (flow : Flow α) (f : α → Flow β) : Flow β :=
  match flow with
  | .done a => f a
  | .crash => .crash
  | .session op next => .session op fun r => (next r).bind f
  | .remote call next => .remote call fun r => (next r).bind f
  | .clock next => .clock fun t => (next t).bind f

instance : Monad Flow where
  pure := .done
  bind := bind

/-- The steps of a talk with the dashboard server. -/
def ofTalk {α : Type} : Http.Talk α → Flow α
  | .done a => .done a
  | .send r next => .remote (.grafana r) fun e => ofTalk (next e)

/-- Takes the steps that need no other server, up to the first call of
one or the end of the flow. -/
def advance {α : Type} (now : Instant) (fresh : String) :
    Flow α → SessionStore → Flow α × SessionStore
  | .session op next, store =>
    let (r, store) := op.run now fresh store
    (next r).advance now fresh store
  | .clock next, store => (next now).advance now fresh store
  | flow, store => (flow, store)

end Flow

-- =========================================================== handlers

/-- The steps of a request that may be refused. -/
abbrev Handler := ExceptT ApiError Flow

namespace Handler

/-- A result that is known already, good or bad. -/
def require {α : Type} (result : Except ApiError α) : Handler α :=
  .mk (.done result)

/-- An operation on the session store. -/
def session {α : Type} (op : SessionOp α) : Handler α :=
  .mk (.session op fun r => .done (.ok r))

/-- An operation on a session, refused where there is none. -/
def within {α : Type} (op : SessionOp (Except SessionError α)) :
    Handler α :=
  .mk (.session op fun r => .done (r.mapError .session))

/-- A call of the database with its result, good or bad. -/
def attempt {α : Type} (call : Remote (Except InfluxError α)) :
    Handler (Except InfluxError α) :=
  .mk (.remote call fun r => .done (.ok r))

/-- A call of the database, refused where it fails. -/
def database {α : Type} (call : Remote (Except InfluxError α)) :
    Handler α :=
  .mk (.remote call fun r => .done (r.mapError .influx))

/-- A talk with the dashboard server, refused where it fails. -/
def publish {α : Type} (talk : Http.Talk (Except GrafanaError α)) :
    Handler α :=
  .mk ((fun r => r.mapError .grafana) <$> Flow.ofTalk talk)

/-- The current time. -/
def now : Handler Instant := .mk (.clock fun t => .done (.ok t))

/-- The end of a request without an answer. -/
def crash {α : Type} : Handler α := .mk .crash

end Handler
end FluxComposer
