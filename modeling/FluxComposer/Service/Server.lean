import FluxComposer.Service.Handle
/-
The service with requests in flight. Requests come at any time and each
of them stands somewhere in its flow; the next step of any of them can be
the next one to happen. A step on the sessions happens at once, and what
a step finds there is what the steps before it have left, whosever they
were.

A log keeps what has happened, with the sessions before and after, so
that statements can be made about a whole run. Nothing reads it.
-/
namespace FluxComposer

/-- A step that a request has taken, with its answer. -/
inductive Deed : Type 1 where
  | session {β : Type} (op : SessionOp β) (answer : β)
  | remote {β : Type} (call : Remote β) (answer : β)
  | clock (now : Instant)

/-- What a step finds outside the service: the time, a token for a new
session, what other servers answer, and the time at which a session that
it opens was issued. -/
structure World : Type 1 where
  now : Instant
  fresh : String
  answer : {β : Type} → Remote β → β
  issuedAt : Instant := now

/-- The next step of a flow, if there is one: the step with its answer,
the flow behind it, and the sessions. -/
def Flow.step? {α : Type} (world : World) (store : SessionStore) :
    Flow α → Option (Deed × Flow α × SessionStore)
  | .done _ | .crash => none
  | .session op next =>
    let (answer, store) :=
      op.run world.now world.fresh store world.issuedAt
    some (.session op answer, next answer, store)
  | .remote call next =>
    let answer := world.answer call
    some (.remote call answer, next answer, store)
  | .clock next => some (.clock world.now, next world.now, store)

/-- A step in a log: of which request, and the sessions before and after
it. -/
structure Entry : Type 1 where
  request : Nat
  deed : Deed
  before : SessionStore
  after : SessionStore

/-- The service in the middle of its work. Requests are numbered in the
order in which they come. -/
structure Server : Type 1 where
  store : SessionStore
  flows : List (Flow Response) := []
  log : List Entry := []

/-- What happens next. -/
inductive Move : Type 1 where
  | arrive (requestId : String) (request : Request)
  | step (request : Nat) (world : World)

namespace Server

/-- A move. A request that has ended, or that never came, takes no
step. -/
def move (svc : Service) (server : Server) : Move → Server
  | .arrive requestId request =>
    { server with
      flows := server.flows ++ [svc.respond requestId request] }
  | .step i world =>
    match server.flows[i]? with
    | none => server
    | some flow =>
      match flow.step? world server.store with
      | none => server
      | some (deed, flow, store) =>
        { store
          flows := server.flows.set i flow
          log := server.log ++ [⟨i, deed, server.store, store⟩] }

/-- The service after a list of moves. -/
def run (svc : Service) (server : Server) (moves : List Move) : Server :=
  moves.foldl (move svc) server

end Server
end FluxComposer
