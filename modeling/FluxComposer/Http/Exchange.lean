import FluxComposer.Json.Printer
import FluxComposer.Json.Decode
/-
Talking to other servers. A talk is what a client does: it sends
requests one after another, each next one decided by the answers so far,
and ends with a result. The transport is not part of it, so a talk can be
held with any server, or with a list of answers.
-/
namespace FluxComposer.Http

/-- A request to another server. -/
structure Request where
  method : String
  url : String
  query : Option String := none
  authorization : Option String := none
  accept : String := "*/*"
  body : Option Json := none

/-- An answer from another server. -/
structure Reply where
  status : Nat
  body : String

/-- What becomes of a request. -/
inductive Exchange where
  | replied (reply : Reply)
  /-- No connection. -/
  | refused
  /-- No answer in time. -/
  | timedOut
  /-- The request could not be made, or the connection broke. -/
  | failed (reason : String)

/-- Whether an answer reports success. -/
def Reply.isSuccess (r : Reply) : Bool := 200 ≤ r.status && r.status < 300

/-- The value that the body of an answer is decoded into. -/
def Reply.decode? {α : Type} (r : Reply) (decode : Json.Decoder α) :
    Option α :=
  (Json.Decode.whole decode r.body.toList).toOption

-- ============================================================== talks

/-- A sequence of requests that ends with a result. -/
inductive Talk (α : Type) where
  | done (result : α)
  | send (request : Request) (next : Exchange → Talk α)

namespace Talk

/-- Continues with what the result of a talk leads to. -/
def bind {α β : Type} (t : Talk α) (f : α → Talk β) : Talk β :=
  match t with
  | .done a => f a
  | .send r next => .send r fun e => (next e).bind f

instance : Monad Talk where
  pure := .done
  bind := bind

/-- One request. -/
def ask (r : Request) : Talk Exchange := .send r .done

/-- The result of a talk with a server that never changes, and the
requests it took. -/
def run {α : Type} (server : Request → Exchange) : Talk α → α × List Request
  | .done a => (a, [])
  | .send r next =>
    let (a, rs) := (next (server r)).run server
    (a, r :: rs)

end Talk
end FluxComposer.Http
