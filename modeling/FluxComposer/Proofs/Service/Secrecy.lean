import FluxComposer.Proofs.Service.Access
import FluxComposer.Proofs.Service.Alike
import FluxComposer.Proofs.Service.Staleness
import Mathlib.Data.List.Permutation
/-
API tokens do not leak. Two runs get requests that are the same but for
the API tokens in the bodies of logins; the clock, the tokens of new
sessions and what other servers answer are the same. Then all requests
end the same, with the same answers (`responses_eq_of_alike`).

The first part reads the bodies: two bodies of which one has another token
than the other ask for actions that are alike, or are rejected with the
same status. The second carries likeness through a run: the sessions are
the same but for their secrets and the requests stand in flows that are
alike (`Server.Alike`), and each move keeps that.
-/
namespace FluxComposer

-- ============================================================= bodies

open Json (Reading)

/-- Two members of an object are the same, or both give an API token. -/
inductive Json.MembersAlike :
    Option String × Reading → Option String × Reading → Prop where
  | same (m : Option String × Reading) : MembersAlike m m
  | token {t t' : String} (tokens : TokensAlike t t') :
      MembersAlike (some "apiToken", .string (some t))
        (some "apiToken", .string (some t'))

/-- Two bodies of a login are the same but for the strings that they give
as the API token. A login may be written as an object, or as an array, in
which the token comes first. -/
inductive Json.Reading.LoginsAlike : Reading → Reading → Prop where
  | same (r : Reading) : LoginsAlike r r
  | object {ms ms' : List (Option String × Reading)}
      (members : List.Forall₂ Json.MembersAlike ms ms') :
      LoginsAlike (.object ms) (.object ms')
  | array {t t' : String} (tokens : TokensAlike t t')
      (rest : List Reading) :
      LoginsAlike (.array (.string (some t) :: rest))
        (.array (.string (some t') :: rest))

namespace Json.Decode

variable {σ : Type} {rel : σ → σ → Prop} {f : Field σ}
  {fields : List (Field σ)}

/-- What is read into related states are related states, also where the
field is that of the token and the tokens are alike. -/
structure Field.Keeps (rel : σ → σ → Prop) (f : Field σ) : Prop where
  same : ∀ r s s', rel s s' →
    ResultsAlike rel (f.store r s) (f.store r s')
  token : f.key = "apiToken" → ∀ t t' s s', TokensAlike t t' →
    rel s s' → ResultsAlike rel (f.store (.string (some t)) s)
      (f.store (.string (some t')) s')

/-- As far as members were read, the keys are the same and the states
related. -/
def SeenAlike (rel : σ → σ → Prop) (state state' : List String × σ) :
    Prop := state.1 = state'.1 ∧ rel state.2 state'.2

/-- A value is stored in a field that was not met before. -/
theorem alike_store {state state' : List String × σ} {r r' : Reading}
    (states : SeenAlike rel state state') (key : String)
    (stored : ResultsAlike rel (f.store r state.2) (f.store r' state'.2)) :
    ResultsAlike (SeenAlike rel)
      (if state.1.contains key then .error .mismatch
        else do return (key :: state.1, ← f.store r state.2))
      (if state'.1.contains key then .error .mismatch
        else do return (key :: state'.1, ← f.store r' state'.2)) := by
  rw [states.1]
  split
  · exact .error _
  · exact .bind stored fun _ _ h => .ok ⟨rfl, h⟩

theorem alike_member {state state' : List String × σ}
    {m m' : Option String × Reading} (keep : ∀ f ∈ fields, f.Keeps rel)
    (states : SeenAlike rel state state') (members : MembersAlike m m') :
    ResultsAlike (SeenAlike rel) (member fields state m)
      (member fields state' m') := by
  cases members with
  | same =>
      unfold member
      split
      · exact .error _
      split
      case h_1 => exact .bind (.refl _) fun _ _ _ => .ok states
      case h_2 f hf =>
        have hkeep := keep f (List.mem_of_find?_eq_some hf)
        exact alike_store states _ (hkeep.same _ _ _ states.2)
  | token tokens =>
      unfold member
      dsimp only
      split
      case h_1 => exact .ok states
      case h_2 f hf =>
        have hkeep := keep f (List.mem_of_find?_eq_some hf)
        have hkey : f.key = "apiToken" := by
          simpa using List.find?_some hf
        exact alike_store states _
          (hkeep.token hkey _ _ _ _ tokens states.2)

theorem alike_foldlM {ms ms' : List (Option String × Reading)}
    {state state' : List String × σ} (keep : ∀ f ∈ fields, f.Keeps rel)
    (states : SeenAlike rel state state')
    (members : List.Forall₂ MembersAlike ms ms') :
    ResultsAlike (SeenAlike rel) (ms.foldlM (member fields) state)
      (ms'.foldlM (member fields) state') := by
  -- on the members, which are alike one by one, for any states that are
  induction members generalizing state state' with
  | nil => exact .ok states
  | cons first _ ih =>
      rw [List.foldlM_cons, List.foldlM_cons]
      exact .bind (alike_member keep states first) fun _ _ h => ih h

theorem alike_positional {s s' : σ} (keep : ∀ f ∈ fields, f.Keeps rel)
    (states : rel s s') (items : List Reading) :
    ResultsAlike rel (positional fields items s)
      (positional fields items s') := by
  induction fields generalizing items s s' with
  | nil =>
      cases items with
      | nil => exact .ok states
      | cons => exact .error _
  | cons f fields ih =>
      have hrest := fun f hf => keep f (List.mem_cons_of_mem _ hf)
      cases items with
      | nil =>
          unfold positional
          split
          · exact ih hrest states []
          · exact .error _
      | cons r items =>
          refine .bind ((keep f (by simp)).same r s s' states) ?_
          exact fun _ _ h => ih hrest h items

/-- Reading a record whose first field is the token. -/
theorem alike_record {r r' : Reading} {start : σ} (first : Field σ)
    (isToken : first.key = "apiToken")
    (keep : ∀ f ∈ first :: fields, f.Keeps rel) (refl : rel start start)
    (readings : r.LoginsAlike r') :
    ResultsAlike rel (record (first :: fields) start r)
      (record (first :: fields) start r') := by
  have hobject : ∀ {ms ms'}, List.Forall₂ MembersAlike ms ms' →
      ResultsAlike rel (record (first :: fields) start (.object ms))
        (record (first :: fields) start (.object ms')) := by
    intro ms ms' members
    refine .bind (alike_foldlM keep ⟨rfl, refl⟩ members) ?_
    rintro ⟨seen, s⟩ ⟨_, s'⟩ ⟨rfl, hs⟩
    dsimp only
    split
    · exact .ok hs
    · exact .error _
  cases readings with
  | object members => exact hobject members
  | array tokens rest =>
      refine .bind ((keep first (by simp)).token isToken _ _ _ _ tokens refl) ?_
      exact fun _ _ h => alike_positional
        (fun f hf => keep f (List.mem_cons_of_mem _ hf)) h rest
  | same =>
      cases r with
      | object ms =>
          exact hobject (List.forall₂_same.2 fun m _ => .same m)
      | array items => exact alike_positional keep refl items
      | null | bool | number | string | broken => exact .error _

end Json.Decode

namespace Action

/-- What is read of two logins: the same organization, and tokens that are
alike. -/
def LoginsAlike (login login' : String × String) : Prop :=
  TokensAlike login.1 login'.1 ∧ login.2 = login'.2

theorem alike_loginBody {r r' : Reading} (readings : r.LoginsAlike r') :
    ResultsAlike Action.Alike (loginBody r) (loginBody r') := by
  refine .bind (show ResultsAlike LoginsAlike _ _ from
    Json.Decode.alike_record _ rfl ?_ ⟨rfl, rfl⟩ readings) ?_
  · intro f hf
    rcases List.mem_cons.1 hf with rfl | hf
    · refine ⟨fun r s s' hs => ?_, fun _ t t' s s' ht hs => ?_⟩
      · exact .bind (.refl _) fun _ _ heq => .ok ⟨by rw [heq]; rfl, hs.2⟩
      · exact .ok ⟨ht, hs.2⟩
    · obtain rfl := List.mem_singleton.1 hf
      refine ⟨fun r s s' hs => ?_, fun hkey => ?_⟩
      · exact .bind (.refl _) fun _ _ heq => .ok ⟨hs.1, heq⟩
      · exact absurd hkey (by decide)
  · rintro ⟨t, o⟩ ⟨t', _⟩ ⟨ht, rfl⟩
    exact .ok (.login o ht)

end Action

-- =========================================================== requests

/-- Two requests are the same, or logins that differ in nothing but the
API tokens in their bodies, which are small enough to be read. -/
inductive Request.Alike : Request → Request → Prop where
  | same (r : Request) : Alike r r
  | login {r : Request} {body : String}
      (path : Action.segments r.path = ["api", "v1", "auth", "login"])
      (small : r.body.utf8ByteSize ≤ Action.bodyLimit)
      (small' : body.utf8ByteSize ≤ Action.bodyLimit)
      (bodies : (Json.read r.body.toList).1.LoginsAlike
        (Json.read body.toList).1) :
      Alike r { r with body }

/-- Reading a body that is alike. -/
theorem Action.alike_body {α : Type} {post : α → α → Prop} {r : Request}
    {body : String} {decode : Json.Decoder α}
    (small : r.body.utf8ByteSize ≤ bodyLimit)
    (small' : body.utf8ByteSize ≤ bodyLimit)
    (decoded : ResultsAlike post (decode (Json.read r.body.toList).1)
      (decode (Json.read body.toList).1)) :
    ResultsAlike post (Action.body r decode)
      (Action.body { r with body } decode) := by
  unfold Action.body Json.Decode.head
  simp only [Nat.not_lt.2 small, Nat.not_lt.2 small', if_false]
  split
  · exact .error _
  generalize decode (Json.read r.body.toList).1 = result at decoded
  generalize decode (Json.read body.toList).1 = result' at decoded
  cases decoded with
  | ok related => exact .ok related
  | error e => cases e <;> exact .error _

/-- Requests that are alike ask for actions that are alike. -/
theorem Request.alike_action {r r' : Request} (h : r.Alike r') :
    ResultsAlike Action.Alike r.action r'.action := by
  -- only the path of a login has a body that may differ
  cases h with
  | same =>
      cases r.action with
      | ok action => exact .ok (.same action)
      | error status => exact .error status
  | @login body path small small' bodies =>
      have hendpoint : Action.endpoint? r.path
          = some (Action.withBody "POST" Action.loginBody id) := by
        unfold Action.endpoint?
        rw [path]
        rfl
      have hread := Action.alike_body small small'
        (Action.alike_loginBody bodies)
      have hpath : Request.path { r with body } = r.path := rfl
      unfold Request.action
      rw [hpath, hendpoint]
      dsimp only
      split
      · exact hread.map fun _ _ => id
      · exact .error _

/-- Requests that are alike go on alike. -/
theorem Service.alike_respond (svc : Service) (id : String)
    {r r' : Request} (h : r.Alike r') :
    Flow.Alike Eq (svc.respond id r) (svc.respond id r') := by
  have hmethod : r'.method = r.method := by cases h <;> rfl
  have hauthorization : r'.authorization = r.authorization := by
    cases h <;> rfl
  have haction := r.alike_action h
  unfold Service.respond
  rw [hmethod, hauthorization]
  split
  · exact .done rfl
  generalize r.action = result at haction
  generalize r'.action = result' at haction
  cases haction with
  | error status => exact .done rfl
  | ok actions =>
      refine (svc.alike_handle r.authorization actions).run.bind ?_
      intro answer answer' hanswer
      cases hanswer with
      | ok related =>
          subst related
          dsimp only
          split <;> exact .done rfl
      | error e =>
          dsimp only
          split <;> exact .done rfl

-- =============================================================== steps

/-- Two deeds are not calls that are alike but were answered
differently. -/
def Deed.AnsweredAlike (deed deed' : Deed) : Prop :=
  ∀ (β : Type) (call call' : Remote β) (answer answer' : β),
    deed = .remote call answer → deed' = .remote call' answer' →
    call.Alike call' → answer = answer'

/-- One step of two flows that are alike, over sessions that are the same
but for their secrets: both have ended, or both take a step, and where it
was answered alike they go on alike. -/
inductive Flow.StepAlike {α : Type} (post : α → α → Prop) :
    Option (Deed × Flow α × SessionStore) →
    Option (Deed × Flow α × SessionStore) → Prop where
  | ended : StepAlike post none none
  | stepped {deed deed' : Deed} {flow flow' : Flow α}
      {store store' : SessionStore} (stores : store.masked = store'.masked)
      (rest : deed.AnsweredAlike deed' → Alike post flow flow') :
      StepAlike post (some (deed, flow, store)) (some (deed', flow', store'))

/-- Flows that are alike take steps that are alike. -/
theorem Flow.Alike.step? {α : Type} {post : α → α → Prop}
    {flow flow' : Flow α} {world world' : World}
    {store store' : SessionStore} (h : Alike post flow flow')
    (now : world.now = world'.now) (fresh : world.fresh = world'.fresh)
    (issuedAt : world.issuedAt = world'.issuedAt)
    (stores : store.masked = store'.masked) :
    StepAlike post (flow.step? world store)
      (flow'.step? world' store') := by
  cases h with
  | done | crash => exact .ended
  | session ops rest =>
      obtain ⟨hanswer, hstore⟩ :=
        SessionOp.run_eq_of_masked ops stores world.now world.fresh
          world.issuedAt
      unfold Flow.step?
      rw [← now, ← fresh, ← issuedAt]
      exact .stepped hstore fun _ => rest _ _ hanswer
  | remote calls rest =>
      refine .stepped stores fun hanswered => ?_
      rw [hanswered _ _ _ _ _ rfl rfl calls]
      exact rest _
  | clock rest =>
      unfold Flow.step?
      rw [← now]
      exact .stepped stores fun _ => rest _

-- ================================================================ runs

/-- Wherever two logs tell of calls that are alike, they were answered the
same. -/
def AnsweredAlike (log log' : List Entry) : Prop :=
  ∀ (n : Nat) (entry entry' : Entry), log[n]? = some entry →
    log'[n]? = some entry' → entry.deed.AnsweredAlike entry'.deed

theorem AnsweredAlike.of_prefix {early late early' late' : List Entry}
    (h : AnsweredAlike late late') (first : early <+: late)
    (first' : early' <+: late') : AnsweredAlike early early' := by
  have hlonger : ∀ {log log' : List Entry} {n : Nat} {entry : Entry},
      log <+: log' → log[n]? = some entry → log'[n]? = some entry := by
    rintro log _ n entry ⟨rest, rfl⟩ hentry
    obtain ⟨hlt, -⟩ := List.getElem?_eq_some_iff.1 hentry
    rwa [List.getElem?_append_left hlt]
  exact fun n entry entry' hentry hentry' =>
    h n entry entry' (hlonger first hentry) (hlonger first' hentry')

/-- Two moves are the same but for secrets: the same request comes, but
for its API token, or the same request takes a step at the same time, with
the same token for a new session. -/
inductive Move.Alike : Move → Move → Prop where
  | arrive (id : String) {r r' : Request} (requests : r.Alike r') :
      Alike (.arrive id r) (.arrive id r')
  | step (i : Nat) {world world' : World} (now : world.now = world'.now)
      (fresh : world.fresh = world'.fresh)
      (issuedAt : world.issuedAt = world'.issuedAt) :
      Alike (.step i world) (.step i world')

theorem Move.Alike.refl (m : Move) : m.Alike m := by
  cases m with
  | arrive id r => exact .arrive id (.same r)
  | step i world => exact .step i rfl rfl rfl

namespace Server

/-- Two services stand where they do but for secrets. -/
structure Alike (server server' : Server) : Prop where
  stores : server.store.masked = server'.store.masked
  count : server.flows.length = server'.flows.length
  flows : ∀ (i : Nat) (flow flow' : Flow Response),
    server.flows[i]? = some flow → server'.flows[i]? = some flow' →
    Flow.Alike Eq flow flow'
  log : server.log.length = server'.log.length

variable {svc : Service} {server server' : Server} {m m' : Move}
  {moves moves' : List Move}

/-- A request that has come stands in flows that are alike. -/
theorem Alike.exists_flow {i : Nat} {flow : Flow Response}
    (h : server.Alike server') (standing : server.flows[i]? = some flow) :
    ∃ flow', server'.flows[i]? = some flow' ∧ Flow.Alike Eq flow flow' := by
  obtain ⟨hlt, -⟩ := List.getElem?_eq_some_iff.1 standing
  rw [h.count] at hlt
  have hflow' := List.getElem?_eq_getElem hlt
  exact ⟨_, hflow', h.flows i _ _ standing hflow'⟩

theorem Alike.arrive {requestId : String} {r r' : Request}
    (h : server.Alike server') (requests : r.Alike r') :
    (server.move svc (.arrive requestId r)).Alike
      (server'.move svc (.arrive requestId r')) where
  stores := h.stores
  count := by simp [move, h.count]
  flows i flow flow' hflow hflow' := by
    have hflow : (server.flows ++ [svc.respond requestId r])[i]?
        = some flow := hflow
    have hflow' : (server'.flows ++ [svc.respond requestId r'])[i]?
        = some flow' := hflow'
    rw [List.getElem?_append] at hflow hflow'
    rw [h.count] at hflow
    split at hflow
    case isTrue hlt =>
      rw [if_pos hlt] at hflow'
      exact h.flows i flow flow' hflow hflow'
    case isFalse hlt =>
      rw [if_neg hlt] at hflow'
      generalize i - server'.flows.length = k at hflow hflow'
      cases k with
      | zero =>
          cases hflow
          cases hflow'
          exact svc.alike_respond requestId requests
      | succ => cases hflow
  log := h.log

theorem Alike.step {i : Nat} {world world' : World}
    (h : server.Alike server') (now : world.now = world'.now)
    (fresh : world.fresh = world'.fresh)
    (issuedAt : world.issuedAt = world'.issuedAt)
    (answers : AnsweredAlike (server.move svc (.step i world)).log
      (server'.move svc (.step i world')).log) :
    (server.move svc (.step i world)).Alike
      (server'.move svc (.step i world')) := by
  cases hflow : server.flows[i]? with
  | none =>
      have hflow' : server'.flows[i]? = none := by
        rw [List.getElem?_eq_none_iff, ← h.count]
        exact List.getElem?_eq_none_iff.1 hflow
      simp only [move, hflow, hflow']
      exact h
  | some flow =>
      obtain ⟨flow', hflow', halike⟩ := h.exists_flow hflow
      have hlt := (List.getElem?_eq_some_iff.1 hflow).1
      have hlt' := (List.getElem?_eq_some_iff.1 hflow').1
      have hstep := halike.step? now fresh issuedAt h.stores
      simp only [move, hflow, hflow'] at answers ⊢
      generalize flow.step? world server.store = next at hstep answers
      generalize flow'.step? world' server'.store = next'
        at hstep answers
      cases hstep with
      | ended => exact h
      | @stepped deed deed' rest rest' store store' stores alike =>
          have hdeeds := answers server.log.length
            ⟨i, deed, server.store, store⟩
            ⟨i, deed', server'.store, store'⟩
            List.getElem?_concat_length
            (h.log ▸ List.getElem?_concat_length)
          refine ⟨stores, by simp [h.count], fun j f f' hf hf' => ?_,
            by simp [h.log]⟩
          by_cases hj : i = j
          · subst hj
            rw [List.getElem?_set_self hlt] at hf
            rw [List.getElem?_set_self hlt'] at hf'
            cases hf
            cases hf'
            exact alike hdeeds
          · rw [List.getElem?_set_ne hj] at hf hf'
            exact h.flows j f f' hf hf'

theorem Alike.move (h : server.Alike server') (moves : m.Alike m')
    (answers : AnsweredAlike (server.move svc m).log
      (server'.move svc m').log) :
    (server.move svc m).Alike (server'.move svc m') := by
  cases moves with
  | arrive id requests => exact h.arrive requests
  | step i now fresh issuedAt => exact h.step now fresh issuedAt answers

/-- Two services that stand alike do so after moves that are alike. -/
theorem alike_run (h : server.Alike server')
    (alike : List.Forall₂ Move.Alike moves moves')
    (answers : AnsweredAlike (server.run svc moves).log
      (server'.run svc moves').log) :
    (server.run svc moves).Alike (server'.run svc moves') := by
  -- on the moves, from the first, for any two services that stand alike
  induction alike generalizing server server' with
  | nil => exact h
  | cons first _ ih =>
      refine ih (h.move first ?_) answers
      exact answers.of_prefix (log_prefix_run ..) (log_prefix_run ..)

end Server

/-- What a flow has come to, if it has ended: its result, or nothing where
it ends without an answer. -/
def Flow.ended? {α : Type} : Flow α → Option (Option α)
  | .done a => some (some a)
  | .crash => some none
  | .session .. | .remote .. | .clock _ => none

/-- Flows that are alike have ended alike. -/
theorem Flow.Alike.ended? {α : Type} {flow flow' : Flow α}
    (h : Alike Eq flow flow') : flow.ended? = flow'.ended? := by
  cases h with
  | done related => rw [related]
  | crash | session | remote | clock => rfl

/-- Whatever the API tokens of logins are, as long as they are not blank:
all requests get the same answers at the same time, if the clock, the
tokens of new sessions and what other servers answer are the same. -/
theorem responses_eq_of_alike (svc : Service) (store : SessionStore)
    (moves moves' : List Move)
    (requests : List.Forall₂ Move.Alike moves moves')
    (answers : AnsweredAlike (Server.run svc { store } moves).log
      (Server.run svc { store } moves').log) :
    (Server.run svc { store } moves).flows.map Flow.ended?
      = (Server.run svc { store } moves').flows.map Flow.ended? := by
  have hstart : Server.Alike { store } { store } :=
    ⟨rfl, rfl, fun _ _ _ => nofun, rfl⟩
  have hrun := Server.alike_run hstart requests answers
  refine List.ext_getElem? fun i => ?_
  rw [List.getElem?_map, List.getElem?_map]
  cases hflow : (Server.run svc { store } moves).flows[i]? with
  | none =>
      have hflow' := List.getElem?_eq_none_iff.1 hflow
      rw [hrun.count] at hflow'
      rw [List.getElem?_eq_none hflow']
  | some flow =>
      obtain ⟨flow', hflow', halike⟩ := hrun.exists_flow hflow
      rw [hflow', Option.map_some, Option.map_some, halike.ended?]

-- ===================================================== plain servers

/-- A call is answered as the world of its step answers it. -/
theorem Flow.answer_of_step? {α β : Type} {flow flow' : Flow α}
    {world : World} {store store' : SessionStore} {call : Remote β}
    {answer : β}
    (next : flow.step? world store
      = some (.remote call answer, flow', store')) :
    answer = world.answer call := by
  cases flow with
  | done | crash | session | clock => cases next
  | remote =>
      cases next
      rfl

/-- Servers that do not look at API tokens answer two runs alike. -/
theorem answeredAlike_of_worlds {svc : Service} {store : SessionStore}
    {moves moves' : List Move} (answer : {β : Type} → Remote β → β)
    (plain : ∀ (β : Type) (call call' : Remote β), call.Alike call' →
      answer call = answer call')
    (worlds : ∀ i world, .step i world ∈ moves →
      @World.answer world = @answer)
    (worlds' : ∀ i world, .step i world ∈ moves' →
      @World.answer world = @answer) :
    AnsweredAlike (Server.run svc { store } moves).log
      (Server.run svc { store } moves').log := by
  have hanswer : ∀ {moves : List Move} {n : Nat} {entry : Entry} {β : Type}
      {call : Remote β} {a : β},
      (∀ i world, .step i world ∈ moves →
        @World.answer world = @answer) →
      (Server.run svc { store } moves).log[n]? = some entry →
      entry.deed = .remote call a → a = answer call := by
    intro moves n entry β call a hworlds hentry hdeed
    obtain ⟨early, world, flow, flow', hmoves, -, -, -, next⟩ :=
      Server.exists_step_of_split (split_at hentry)
    rw [hdeed] at next
    rw [Flow.answer_of_step? next,
      hworlds entry.request world (hmoves.subset (by simp))]
  intro n entry entry' hentry hentry' β call call' a a' hdeed hdeed' calls
  rw [hanswer worlds hentry hdeed, hanswer worlds' hentry' hdeed',
    plain β call call' calls]

/-- A database with one bucket, and a dashboard server without a
datasource, which creates what it is asked for. -/
def plainAnswer {β : Type} : Remote β → β
  | .buckets _ => .ok [.named "metrics"]
  | .query .. => .ok []
  | .analyze .. => .ok []
  | .grafana request =>
    if request.method = "GET" then .replied ⟨404, ""⟩
    else .replied ⟨200, "\x7b\"id\": 1, \"uid\": \"d1\", "
      ++ "\"name\": \"flux\", \"url\": \"/d/1\"\x7d"⟩

/-- The body of a login with an API token. -/
def loginText (apiToken : String) : String :=
  "\x7b\"apiToken\": \"" ++ apiToken ++ "\", \"organization\": \"acme\"\x7d"

/-- A session is opened with an API token, lists the buckets and publishes
a query. -/
def publishingRun (apiToken : String) : List Move :=
  let steps (i n : Nat) (request : Request) : List Move :=
    .arrive (toString i) request
      :: List.replicate n
        (.step i { now := ⟨0⟩, fresh := "bob", answer := plainAnswer })
  let post (target body : String) : Request :=
    ⟨"POST", target, ["Bearer bob"], some "application/json", body⟩
  steps 0 2 (post "/api/v1/auth/login" (loginText apiToken))
    ++ steps 1 4 (post "/api/v1/builder/buckets/refresh" "")
    ++ steps 2 4 (post "/api/v1/grafana/dashboard"
      "\x7b\"fluxQuery\": \"buckets()\", \"title\": \"Buckets\"\x7d")

/-- A service with a dashboard server, after a run. -/
def publishingServer (moves : List Move) : Server :=
  Server.run { sampleService with
      grafana := some ⟨"http://localhost:3000", "http://localhost:3000",
        "Bearer editor"⟩ }
    { store := .ofLifetime 3600 } moves

theorem answer_of_mem_publishingRun {apiToken : String} (i : Nat)
    (world : World) (h : .step i world ∈ publishingRun apiToken) :
    @World.answer world = @plainAnswer := by
  simp only [publishingRun, List.mem_append, List.mem_cons,
    List.mem_replicate, reduceCtorEq, false_or, Move.step.injEq] at h
  rcases h with (⟨-, -, rfl⟩ | ⟨-, -, rfl⟩) | ⟨-, -, rfl⟩ <;> rfl

theorem responses_eq_publishingRun :
    let server := publishingServer (publishingRun "one")
    let server' := publishingServer (publishingRun "two")
    List.Forall₂ Move.Alike (publishingRun "one") (publishingRun "two")
      ∧ AnsweredAlike server.log server'.log
      ∧ ((server.store.find? "bob").map (·.credentials.apiToken)
          = some "one"
        ∧ (server'.store.find? "bob").map (·.credentials.apiToken)
          = some "two"
        ∧ (server.flows.map Flow.ended?).map
            (Option.map (Option.map Response.status))
          = [some (some 200), some (some 200), some (some 200)])
      ∧ server.flows.map Flow.ended? = server'.flows.map Flow.ended? := by
  intro server server'
  have hone : (Json.read (loginText "one").toList).1
      = .object [(some "apiToken", .string (some "one")),
        (some "organization", .string (some "acme"))] := by cbv
  have htwo : (Json.read (loginText "two").toList).1
      = .object [(some "apiToken", .string (some "two")),
        (some "organization", .string (some "acme"))] := by cbv
  have htokens : TokensAlike "one" "two" :=
    show Text.isBlankText "one" = Text.isBlankText "two" by decide +kernel
  have hbodies : (Json.read (loginText "one").toList).1.LoginsAlike
      (Json.read (loginText "two").toList).1 := by
    rw [hone, htwo]
    exact .object (.cons (.token htokens) (.cons (.same _) .nil))
  have hmoves : List.Forall₂ Move.Alike (publishingRun "one")
      (publishingRun "two") := by
    refine .cons (.arrive _ (.login ?_ ?_ ?_ hbodies))
      (List.forall₂_same.2 fun m _ => .refl m)
    all_goals decide +kernel
  have hanswers : AnsweredAlike server.log server'.log := by
    refine answeredAlike_of_worlds plainAnswer (fun β call call' h => ?_)
      answer_of_mem_publishingRun answer_of_mem_publishingRun
    cases h <;> rfl
  refine ⟨hmoves, hanswers, by decide +kernel, ?_⟩
  exact responses_eq_of_alike _ _ _ _ hmoves hanswers

end FluxComposer
