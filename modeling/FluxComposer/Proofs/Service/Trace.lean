import FluxComposer.Proofs.Builder.Revision
import FluxComposer.Proofs.Session.Store
import FluxComposer.Service.Server
import Mathlib.Data.List.Induction
/-
What the log of a run says about the sessions. Requests take turns in any
order, but each of their steps is one operation of the store, so the log
is a chain of such operations from the first store to the last one
(`traces_run`), and what holds of a session in the end is found by going
back through the log.

The file has three parts. `Moved` lists what a move can do to the
service, and `run_advance` says that a request that is carried on alone
takes such moves. `Effect` lists what an entry can do to one session.
`builder_traces` follows the builder of a session through a part of a
log: as long as its token is not issued again, it is the same session,
its revision counts the changes in that part of the log, and without any
its query is the same.
-/
namespace FluxComposer

-- ================================================================ moves

/-- The request of which a move is a step. -/
def Move.request? : Move → Option Nat
  | .arrive .. => none
  | .step request _ => some request

namespace Server

/-- What a move does to the service. -/
inductive Moved (svc : Service) (server : Server) : Move → Server → Prop where
  | arrive (requestId : String) (request : Request) :
      Moved svc server (.arrive requestId request)
        { server with
          flows := server.flows ++ [svc.respond requestId request] }
  | idle (m : Move) : Moved svc server m server
  | step {i : Nat} {world : World} {flow flow' : Flow Response}
      {deed : Deed} {store : SessionStore}
      (standing : server.flows[i]? = some flow)
      (next : flow.step? world server.store = some (deed, flow', store)) :
      Moved svc server (.step i world)
        { store
          flows := server.flows.set i flow'
          log := server.log ++ [⟨i, deed, server.store, store⟩] }

theorem move_step {svc : Service} {server : Server} {i : Nat}
    {world : World} {flow flow' : Flow Response} {deed : Deed}
    {store : SessionStore} (standing : server.flows[i]? = some flow)
    (next : flow.step? world server.store = some (deed, flow', store)) :
    server.move svc (.step i world)
      = ⟨store, server.flows.set i flow',
        server.log ++ [⟨i, deed, server.store, store⟩]⟩ := by
  simp only [move, standing, next]

/-- What a move does is one of the three. -/
theorem moved_move (svc : Service) (server : Server) (m : Move) :
    Moved svc server m (server.move svc m) := by
  cases m with
  | arrive requestId request => exact .arrive requestId request
  | step i world =>
      cases hflow : server.flows[i]? with
      | none =>
          have hidle : server.move svc (.step i world) = server := by
            simp only [move, hflow]
          rw [hidle]
          exact .idle _
      | some flow =>
          cases hnext : flow.step? world server.store with
          | none =>
              have hidle : server.move svc (.step i world) = server := by
                simp only [move, hflow, hnext]
              rw [hidle]
              exact .idle _
          | some next =>
              obtain ⟨deed, flow', store⟩ := next
              rw [move_step hflow hnext]
              exact .step hflow hnext

theorem run_append (svc : Service) (server : Server)
    (early late : List Move) : server.run svc (early ++ late)
      = (server.run svc early).run svc late := List.foldl_append

theorem run_snoc (svc : Service) (server : Server) (moves : List Move)
    (m : Move) : server.run svc (moves ++ [m])
      = (server.run svc moves).move svc m := run_append ..

/-- What holds at first and is kept by each move holds in the end. -/
theorem run_induction {P : Server → Prop} {svc : Service}
    {moves : List Move} {server : Server} (init : P server)
    (step : ∀ server m, P server → P (server.move svc m)) :
    P (server.run svc moves) := by
  induction moves generalizing server with
  | nil => exact init
  | cons m moves ih => exact ih (step server m init)

/-- A step of a request and then what comes after it. -/
theorem exists_run_step {svc : Service} (world : World) {i : Nat}
    {flow rest : Flow Response} {deed : Deed} {store : SessionStore}
    {ended : Flow Response × SessionStore} {server : Server}
    (standing : server.flows[i]? = some flow)
    (next : flow.step? world server.store = some (deed, rest, store))
    (after : ∀ server : Server, server.flows[i]? = some rest →
      server.store = store → ∃ moves, (server.run svc moves).store = ended.2
        ∧ (server.run svc moves).flows = server.flows.set i ended.1) :
    ∃ moves, (server.run svc moves).store = ended.2
      ∧ (server.run svc moves).flows = server.flows.set i ended.1 := by
  have hmove : server.move svc (.step i world) = _ :=
    move_step standing next
  have hlt := (List.getElem?_eq_some_iff.1 standing).1
  obtain ⟨moves, hstore, hflows⟩ := after (server.move svc (.step i world))
    (by rw [hmove]; exact List.getElem?_set_self hlt) (by rw [hmove])
  refine ⟨.step i world :: moves, hstore, hflows.trans ?_⟩
  rw [hmove]
  exact List.set_set _

/-- A request that is carried on alone, up to its next call of another
server, takes its steps one by one. -/
theorem run_advance (svc : Service) (world : World) {i : Nat}
    {flow : Flow Response} {server : Server}
    (standing : server.flows[i]? = some flow) :
    let ended := flow.advance world.now world.fresh server.store
    ∃ moves, (server.run svc moves).store = ended.2
      ∧ (server.run svc moves).flows = server.flows.set i ended.1 := by
  -- what it carries out at once it issues at once
  let atOnce : World := { world with issuedAt := world.now }
  induction flow generalizing server with
  | done | crash | remote =>
      obtain ⟨hlt, hflow⟩ := List.getElem?_eq_some_iff.1 standing
      have hset := List.set_getElem_self hlt
      rw [hflow] at hset
      exact ⟨[], rfl, hset.symm⟩
  | session op next ih =>
      refine exists_run_step atOnce standing rfl fun server' h hstore => ?_
      have hrest := ih (op.run world.now world.fresh server.store).1 h
      rw [hstore] at hrest
      exact hrest
  | clock next ih =>
      refine exists_run_step atOnce standing rfl fun server' h hstore => ?_
      have hrest := ih world.now h
      rw [hstore] at hrest
      exact hrest

end Server

-- ================================================================ deeds

/-- The edit that a deed is, with its answer. -/
def Deed.edit? : Deed → Option (String × Builder.Edit
    × Except SessionError (Builder.Outcome × Builder))
  | .session (.edit token e) answer => some (token, e, answer)
  | _ => none

/-- The token of the session that a deed opens. -/
def Deed.opened? : Deed → Option String
  | .session (.create _) (some issued) => some issued.token
  | _ => none

theorem Deed.eq_of_edit? {deed : Deed} {token : String} {e : Builder.Edit}
    {answer : Except SessionError (Builder.Outcome × Builder)}
    (h : deed.edit? = some (token, e, answer)) :
    deed = .session (.edit token e) answer := by
  cases deed with
  | remote | clock => cases h
  | session op answer =>
      cases op with
      | edit =>
          cases h
          rfl
      | create | credentials | view | remove | purge | size => cases h

namespace Entry

/-- Whether a step changes the query of the session with a token. -/
def changesQuery (token : String) (entry : Entry) : Bool :=
  match entry.deed.edit? with
  | some (token', e, .ok (o, _)) => token' = token && e.changesQuery o
  | _ => false

/-- An entry says what its step has done to the sessions. -/
def IsStep (entry : Entry) : Prop :=
  match entry.deed with
  | .session op answer =>
    ∃ now fresh issuedAt,
      op.run now fresh entry.before issuedAt = (answer, entry.after)
  | _ => entry.after = entry.before

/-- How the session with a token has come about that stands there after a
step. -/
inductive Effect (entry : Entry) (token : String) (s' : Session) : Prop where
  | opened (opened : entry.deed.opened? = some token)
      (new : s'.builder = {})
  | edited {s : Session} {e : Builder.Edit} {o : Builder.Outcome}
      (found : entry.before.find? token = some s)
      (deed : entry.deed = .session (.edit token e) (.ok (o, s'.builder)))
      (transition : Builder.Transition s.builder e o s'.builder)
  | kept {s : Session} (found : entry.before.find? token = some s)
      (builder : s'.builder = s.builder)
      (other : ∀ e answer, entry.deed.edit? ≠ some (token, e, answer))

variable {entry : Entry} {token : String} {s s' : Session}
  {e : Builder.Edit}

-- ============================================================== effects

/-- An edit touches its session. -/
theorem edit_touch {answer : Except SessionError (Builder.Outcome × Builder)}
    (step : entry.IsStep)
    (deed : entry.deed = .session (.edit token e) answer) :
    ∃ now, entry.before.touch now token (fun s =>
      (s.builder.apply e, { s with builder := (s.builder.apply e).2 }))
        = (answer, entry.after) := by
  unfold IsStep at step
  rw [deed] at step
  obtain ⟨now, _, _, hrun⟩ := step
  exact ⟨now, hrun⟩

/-- An edit with an answer has found its session, and has done to its
builder what it does. -/
theorem edit_ok {o : Builder.Outcome} {b : Builder} (step : entry.IsStep)
    (deed : entry.deed = .session (.edit token e) (.ok (o, b))) :
    ∃ s, entry.before.find? token = some s
      ∧ s.builder.apply e = (o, b)
      ∧ entry.after.find? token = some { s with builder := b } := by
  obtain ⟨now, htouch⟩ := edit_touch step deed
  obtain ⟨s, hfound, hanswer, hafter⟩ :=
    SessionStore.touch_ok (congrArg Prod.fst htouch)
  have hresult : s.builder.apply e = (o, b) := hanswer
  rw [htouch, hresult] at hafter
  exact ⟨s, hfound, hresult, hafter⟩

/-- An edit without an answer leaves no session. -/
theorem edit_error {err : SessionError} (step : entry.IsStep)
    (deed : entry.deed = .session (.edit token e) (.error err)) :
    entry.after.find? token = none := by
  obtain ⟨now, htouch⟩ := edit_touch step deed
  have hnone := SessionStore.touch_error (congrArg Prod.fst htouch)
  rwa [htouch] at hnone

/-- An edit is of one session only. -/
theorem edit_other {answer : Except SessionError (Builder.Outcome × Builder)}
    {token' : String} (step : entry.IsStep)
    (deed : entry.deed = .session (.edit token e) answer)
    (other : token' ≠ token) :
    entry.after.find? token' = entry.before.find? token' := by
  obtain ⟨now, htouch⟩ := edit_touch step deed
  have hafter : _ = entry.after := congrArg Prod.snd htouch
  rw [← hafter, SessionStore.find?_touch, if_neg other]

/-- What touching a session does not change of it, it changes of none. -/
theorem kept_touch {α γ : Type} {store : SessionStore} {now : Instant}
    {touched : String} {use : Session → α × Session} (f : Session → γ)
    (keeps : ∀ s, f (use s).2 = f s)
    (h : (store.touch now touched use).2.find? token = some s') :
    ∃ s, store.find? token = some s ∧ f s' = f s := by
  rw [SessionStore.find?_touch] at h
  split at h
  case isTrue htoken =>
    obtain ⟨s, hs, huse⟩ := Option.bind_eq_some_iff.1 h
    split at huse
    · cases huse
    · cases huse
      exact ⟨s, htoken ▸ hs, keeps s⟩
  case isFalse => exact ⟨s', h, rfl⟩

/-- After an operation that is no edit, a session is new or has the
builder that it had. -/
theorem kept_run {β : Type} {op : SessionOp β} {answer : β}
    {store store' : SessionStore} {now issuedAt : Instant} {fresh : String}
    (run : op.run now fresh store issuedAt = (answer, store'))
    (noEdit : (Deed.session op answer).edit? = none)
    (keyed : store.WellKeyed) (h : store'.find? token = some s') :
    ((Deed.session op answer).opened? = some token ∧ s'.builder = {})
      ∨ ∃ s, store.find? token = some s ∧ s'.builder = s.builder := by
  -- by the operation: only opening brings a new session, and the others
  -- leave builders alone
  cases op with
  | edit => cases noEdit
  | create c =>
      change store.create now fresh c issuedAt = _ at run
      unfold SessionStore.create at run
      split at run
      · cases run
        exact .inr ⟨s', h, rfl⟩
      · cases run
        rw [SessionStore.find?_insert] at h
        split at h
        case isTrue htoken =>
          cases h
          exact .inl ⟨congrArg some htoken.symm, rfl⟩
        case isFalse =>
          rw [SessionStore.find?_purge keyed,
            Option.filter_eq_some_iff] at h
          exact .inr ⟨s', h.1, rfl⟩
  | credentials | view =>
      obtain rfl := congrArg Prod.snd run
      exact .inr (kept_touch Session.builder (fun _ => rfl) h)
  | remove touched =>
      obtain rfl := congrArg Prod.snd run
      change (store.erase touched).find? token = _ at h
      rw [SessionStore.find?_erase] at h
      split at h
      · cases h
      · exact .inr ⟨s', h, rfl⟩
  | purge =>
      obtain rfl := congrArg Prod.snd run
      change (store.purge now).find? token = _ at h
      rw [SessionStore.find?_purge keyed, Option.filter_eq_some_iff] at h
      exact .inr ⟨s', h.1, rfl⟩
  | size =>
      cases run
      exact .inr ⟨s', h, rfl⟩

/-- After an edit, a session has been edited or is another one. -/
theorem effect_edit {token' : String}
    {answer : Except SessionError (Builder.Outcome × Builder)}
    (step : entry.IsStep)
    (deed : entry.deed = .session (.edit token' e) answer)
    (h : entry.after.find? token = some s') : entry.Effect token s' := by
  -- the session that is edited, and the others
  by_cases htoken : token = token'
  · subst htoken
    cases answer with
    | error err =>
        have hnone := edit_error step deed
        rw [h] at hnone
        cases hnone
    | ok result =>
        obtain ⟨o, b⟩ := result
        obtain ⟨s, hs, happly, hafter⟩ := edit_ok step deed
        obtain rfl := Option.some.inj (h.symm.trans hafter)
        exact .edited hs deed (Builder.transition_of_apply happly)
  · have hother := edit_other step deed htoken
    refine .kept (hother.symm.trans h) rfl fun e' answer' hedit => ?_
    rw [deed] at hedit
    cases hedit
    exact htoken rfl

/-- A session that stands there after a step was opened by it, edited by
it, or kept. -/
theorem effect_of_step (step : entry.IsStep)
    (keyed : entry.before.WellKeyed)
    (h : entry.after.find? token = some s') : entry.Effect token s' := by
  cases hedit : entry.deed.edit? with
  | some edit =>
      obtain ⟨token', e, answer⟩ := edit
      exact effect_edit step (Deed.eq_of_edit? hedit) h
  | none =>
      have hother : ∀ e answer,
          entry.deed.edit? ≠ some (token, e, answer) := by
        rw [hedit]
        exact fun _ _ => nofun
      have hstep := step
      unfold IsStep at hstep
      cases hdeed : entry.deed with
      | remote | clock =>
          rw [hdeed] at hstep
          rw [show entry.after = entry.before from hstep] at h
          exact .kept h rfl hother
      | session op answer =>
          rw [hdeed] at hstep hedit
          obtain ⟨now, fresh, issuedAt, hrun⟩ := hstep
          rcases kept_run hrun hedit keyed h with
            ⟨hopened, hnew⟩ | ⟨s, hs, hbuilder⟩
          · exact .opened (hdeed ▸ hopened) hnew
          · exact .kept hs hbuilder hother

/-- A session that stands there after a step was opened by it, for its
credentials and up to its end, or had them before. -/
theorem origin_of_step (step : entry.IsStep)
    (keyed : entry.before.WellKeyed)
    (h : entry.after.find? token = some s') :
    entry.deed = .session (.create s'.credentials)
        (some ⟨token, s'.expiresAt⟩)
      ∨ (entry.deed.opened? ≠ some token
        ∧ ∃ s, entry.before.find? token = some s
          ∧ s'.credentials = s.credentials
          ∧ s'.expiresAt = s.expiresAt) := by
  unfold IsStep at step
  cases hdeed : entry.deed with
  | remote | clock =>
      rw [hdeed] at step
      rw [show entry.after = entry.before from step] at h
      exact .inr ⟨nofun, s', h, rfl, rfl⟩
  | session op answer =>
      rw [hdeed] at step
      obtain ⟨now, fresh, issuedAt, hrun⟩ := step
      cases op with
      | create c =>
          change entry.before.create now fresh c issuedAt = _ at hrun
          unfold SessionStore.create at hrun
          split at hrun
          · obtain ⟨rfl, hstore⟩ := Prod.mk.inj hrun
            rw [← hstore] at h
            exact .inr ⟨nofun, s', h, rfl, rfl⟩
          · obtain ⟨rfl, hstore⟩ := Prod.mk.inj hrun
            rw [← hstore, SessionStore.find?_insert] at h
            split at h
            case isTrue htoken =>
              cases h
              rw [htoken]
              exact .inl rfl
            case isFalse htoken =>
              rw [SessionStore.find?_purge keyed,
                Option.filter_eq_some_iff] at h
              refine .inr ⟨fun hopened => htoken ?_, s', h.1, rfl, rfl⟩
              exact (Option.some.inj hopened).symm
      | credentials | view | edit =>
          have hstore := congrArg Prod.snd hrun
          rw [← show _ = entry.after from hstore] at h
          obtain ⟨s, hs, hsame⟩ := kept_touch
            (fun s => (s.credentials, s.expiresAt)) (fun _ => rfl) h
          exact .inr ⟨nofun, s, hs, congrArg Prod.fst hsame,
            congrArg Prod.snd hsame⟩
      | remove touched =>
          have hstore : entry.before.erase touched = entry.after :=
            congrArg Prod.snd hrun
          rw [← hstore, SessionStore.find?_erase] at h
          split at h
          · cases h
          · exact .inr ⟨nofun, s', h, rfl, rfl⟩
      | purge =>
          have hstore : entry.before.purge now = entry.after :=
            congrArg Prod.snd hrun
          rw [← hstore, SessionStore.find?_purge keyed,
            Option.filter_eq_some_iff] at h
          exact .inr ⟨nofun, s', h.1, rfl, rfl⟩
      | size =>
          have hstore : entry.before = entry.after :=
            congrArg Prod.snd hrun
          rw [← hstore] at h
          exact .inr ⟨nofun, s', h, rfl, rfl⟩

theorem wellKeyed_step (step : entry.IsStep)
    (keyed : entry.before.WellKeyed) : entry.after.WellKeyed := by
  unfold IsStep at step
  cases hdeed : entry.deed with
  | remote | clock =>
      rw [hdeed] at step
      rw [show entry.after = entry.before from step]
      exact keyed
  | session op answer =>
      rw [hdeed] at step
      obtain ⟨now, fresh, issuedAt, hrun⟩ := step
      have hkeyed := SessionStore.wellKeyed_run keyed op now fresh issuedAt
      rwa [hrun] at hkeyed

theorem lifetime_step (step : entry.IsStep) :
    entry.after.lifetime = entry.before.lifetime := by
  unfold IsStep at step
  cases hdeed : entry.deed with
  | remote | clock =>
      rw [hdeed] at step
      rw [show entry.after = entry.before from step]
  | session op answer =>
      rw [hdeed] at step
      obtain ⟨now, fresh, issuedAt, hrun⟩ := step
      have hlifetime :=
        SessionStore.lifetime_run op now fresh entry.before issuedAt
      rwa [hrun] at hlifetime

/-- A session that was not just opened stood there before, and its
revision and query tell whether the step has changed the query. -/
theorem builder_effect (h : entry.Effect token s')
    (notOpened : entry.deed.opened? ≠ some token) :
    ∃ s, entry.before.find? token = some s
      ∧ s'.builder.revision = s.builder.revision
        + UInt64.ofNat (if entry.changesQuery token then 1 else 0)
      ∧ (entry.changesQuery token = false →
        s'.builder.query = s.builder.query) := by
  cases h with
  | opened opened => exact absurd opened notOpened
  | @edited s e o found deed transition =>
      have hchanges : entry.changesQuery token = e.changesQuery o := by
        unfold changesQuery
        rw [deed]
        simp [Deed.edit?]
      rw [hchanges]
      exact ⟨s, found, Builder.revision_transition transition,
        Builder.query_transition transition⟩
  | @kept s found builder other =>
      have hchanges : entry.changesQuery token = false := by
        unfold changesQuery
        split
        case h_1 token' e o b hedit =>
          have hne : token' ≠ token := fun heq => other e _ (heq ▸ hedit)
          simp [hne]
        case h_2 => rfl
      rw [hchanges, builder]
      exact ⟨s, found, (UInt64.add_zero _).symm, fun _ => rfl⟩

end Entry

-- =============================================================== traces

/-- Steps that lead from one store to another. -/
inductive Traces : SessionStore → List Entry → SessionStore → Prop where
  | nil (store : SessionStore) : Traces store [] store
  | cons {store store' : SessionStore} {entry : Entry} {log : List Entry}
      (start : entry.before = store) (step : entry.IsStep)
      (rest : Traces entry.after log store') :
      Traces store (entry :: log) store'

/-- The tokens of the sessions that are opened. -/
def openedTokens (log : List Entry) : List String :=
  log.filterMap (·.deed.opened?)

theorem mem_openedTokens_cons {entry : Entry} {log : List Entry}
    {token : String} : token ∈ openedTokens (entry :: log)
      ↔ entry.deed.opened? = some token ∨ token ∈ openedTokens log := by
  simp [openedTokens, List.mem_filterMap]

/-- Every token is issued once: the tokens of the sessions that are
opened are new. -/
def IssuesOnce (store : SessionStore) (log : List Entry) : Prop :=
  (store.tokens ++ openedTokens log).Nodup

instance (store : SessionStore) (log : List Entry) :
    Decidable (IssuesOnce store log) :=
  inferInstanceAs (Decidable (List.Nodup _))

variable {store store' : SessionStore} {log front rest : List Entry}
  {entry : Entry} {token : String} {s s' : Session}

/-- A log can be cut anywhere: what comes before leads to a store, and what
comes after goes on from it. -/
theorem traces_append_iff : Traces store (front ++ rest) store'
    ↔ ∃ middle, Traces store front middle ∧ Traces middle rest store' := by
  constructor
  · intro h
    induction front generalizing store with
    | nil => exact ⟨store, .nil store, h⟩
    | cons entry front ih =>
        cases h with
        | cons start step h =>
            obtain ⟨middle, hfront, hrest⟩ := ih h
            exact ⟨middle, .cons start step hfront, hrest⟩
  · rintro ⟨middle, hfront, hrest⟩
    induction hfront with
    | nil => exact hrest
    | cons start step _ ih => exact .cons start step (ih hrest)

/-- A log around the entry at a position. -/
theorem split_at {n : Nat} (h : log[n]? = some entry) :
    log = log.take n ++ entry :: log.drop (n + 1) := by
  obtain ⟨hlt, rfl⟩ := List.getElem?_eq_some_iff.1 h
  rw [← List.drop_eq_getElem_cons hlt, List.take_append_drop]

/-- The entry in the middle of a log. -/
theorem traces_split (h : Traces store (front ++ entry :: rest) store') :
    Traces store front entry.before ∧ entry.IsStep
      ∧ Traces entry.after rest store' := by
  obtain ⟨middle, hfront, hrest⟩ := traces_append_iff.1 h
  cases hrest with
  | cons start step hrest =>
      subst start
      exact ⟨hfront, step, hrest⟩

/-- No step gives a token a second session. -/
theorem wellKeyed_traces (h : Traces store log store')
    (keyed : store.WellKeyed) : store'.WellKeyed := by
  induction h with
  | nil => exact keyed
  | cons start step _ ih =>
      subst start
      exact ih (Entry.wellKeyed_step step keyed)

/-- No step changes for how long new sessions are valid. -/
theorem lifetime_traces (h : Traces store log store') :
    store'.lifetime = store.lifetime := by
  induction h with
  | nil => rfl
  | cons start step _ ih =>
      subst start
      exact ih.trans (Entry.lifetime_step step)

/-- What is noted of a step says what it has done to the sessions. -/
theorem isStep_of_step? {α : Type} {world : World} {flow flow' : Flow α}
    {deed : Deed} (i : Nat)
    (next : flow.step? world store = some (deed, flow', store')) :
    (Entry.mk i deed store store').IsStep := by
  cases flow with
  | done | crash => cases next
  | session op =>
      cases next
      exact ⟨world.now, world.fresh, world.issuedAt, rfl⟩
  | remote | clock =>
      cases next
      rfl

/-- The log of a run leads to the store of the run. -/
theorem traces_run (svc : Service) (store : SessionStore)
    (moves : List Move) :
    Traces store (Server.run svc { store } moves).log
      (Server.run svc { store } moves).store := by
  refine Server.run_induction
    (P := fun server => Traces store server.log server.store)
    (.nil store) fun server m h => ?_
  generalize hnext : server.move svc m = server'
  have hmoved := Server.moved_move svc server m
  rw [hnext] at hmoved
  cases hmoved with
  | arrive | idle => exact h
  | @step i _ _ _ _ _ _ next =>
      have hstep := isStep_of_step? i next
      exact traces_append_iff.2 ⟨server.store, h, .cons rfl hstep (.nil _)⟩

/-- One more move of a run does nothing to the sessions or is one more
entry. -/
theorem run_concat (svc : Service) (store : SessionStore)
    (moves : List Move) (m : Move) :
    let server := Server.run svc { store } moves
    let server' := Server.run svc { store } (moves ++ [m])
    (server'.log = server.log ∧ server'.store = server.store)
      ∨ ∃ entry : Entry, server'.log = server.log ++ [entry]
        ∧ m.request? = some entry.request
        ∧ entry.before = server.store ∧ entry.after = server'.store := by
  intro server server'
  have hnext : server' = server.move svc m :=
    Server.run_snoc ..
  have hmoved := Server.moved_move svc server m
  rw [← hnext] at hmoved
  generalize server' = server' at hmoved
  cases hmoved with
  | arrive | idle => exact .inl ⟨rfl, rfl⟩
  | step => exact .inr ⟨_, rfl, rfl, rfl, rfl⟩

/-- What happens is added to the log. -/
theorem Server.log_prefix_run (svc : Service) (server : Server)
    (moves : List Move) : server.log <+: (server.run svc moves).log := by
  refine run_induction (P := fun server' => server.log <+: server'.log)
    (List.prefix_refl _) fun server' m h => ?_
  have hmoved := moved_move svc server' m
  generalize server'.move svc m = server'' at hmoved
  cases hmoved with
  | arrive | idle => exact h
  | step => exact h.trans (List.prefix_append _ _)

/-- A run goes on from where its first moves have led. -/
theorem log_run_mono (svc : Service) (store : SessionStore)
    {moves early : List Move} (h : early <+: moves) :
    (Server.run svc { store } early).log
      <+: (Server.run svc { store } moves).log := by
  obtain ⟨late, rfl⟩ := h
  rw [Server.run_append]
  exact Server.log_prefix_run svc _ late

/-- An entry of a log was made by one of the moves. -/
theorem exists_move_of_mem {svc : Service} {moves : List Move}
    (h : entry ∈ (Server.run svc { store } moves).log) :
    ∃ early m, early ++ [m] <+: moves
      ∧ (Server.run svc { store } (early ++ [m])).log
        = (Server.run svc { store } early).log ++ [entry]
      ∧ entry.before = (Server.run svc { store } early).store
      ∧ entry.after = (Server.run svc { store } (early ++ [m])).store := by
  -- on the last move: it has made the entry, or the entry was there before
  induction moves using List.reverseRecOn with
  | nil => cases h
  | append_singleton moves m ih =>
      by_cases hmem : entry ∈ (Server.run svc { store } moves).log
      · obtain ⟨early, m', hearlier, hentry⟩ := ih hmem
        exact ⟨early, m', hearlier.trans (List.prefix_append _ _), hentry⟩
      rcases run_concat svc store moves m with
        ⟨hlog, -⟩ | ⟨new, hlog, -, hbefore, hafter⟩
      · exact absurd (hlog ▸ h) hmem
      · rw [hlog] at h
        rcases List.mem_append.1 h with hold | hnew
        · exact absurd hold hmem
        · obtain rfl := List.mem_singleton.1 hnew
          exact ⟨moves, m, List.prefix_refl _, hlog, hbefore, hafter⟩

/-- The entries of a log are steps of the requests that were to take
one. -/
theorem requests_sublist (svc : Service) (store : SessionStore)
    (moves : List Move) :
    ((Server.run svc { store } moves).log.map (·.request)).Sublist
      (moves.filterMap Move.request?) := by
  induction moves using List.reverseRecOn with
  | nil => exact List.Sublist.slnil
  | append_singleton moves m ih =>
      rw [List.filterMap_append]
      rcases run_concat svc store moves m with
        ⟨hlog, -⟩ | ⟨entry, hlog, hrequest, -, -⟩
      · rw [hlog]
        exact ih.trans (List.sublist_append_left _ _)
      · rw [hlog, List.map_append]
        refine ih.append ?_
        simp [hrequest]

-- ============================================================== sessions

/-- A session was there at first or was opened. -/
theorem found_or_opened (h : Traces store log store')
    (keyed : store.WellKeyed) (found : store'.find? token = some s') :
    (∃ s, store.find? token = some s) ∨ token ∈ openedTokens log := by
  induction h with
  | nil => exact .inl ⟨s', found⟩
  | cons start step rest ih =>
      subst start
      rcases ih (Entry.wellKeyed_step step keyed) found with
        ⟨s, hafter⟩ | hlater
      · cases Entry.effect_of_step step keyed hafter with
        | opened opened => exact .inr (mem_openedTokens_cons.2 (.inl opened))
        | edited hbefore | kept hbefore => exact .inl ⟨_, hbefore⟩
      · exact .inr (mem_openedTokens_cons.2 (.inr hlater))

/-- A session was there at first, or it was opened for its credentials
and up to its end when its token was issued last. -/
theorem opening_of_found (h : Traces store log store')
    (keyed : store.WellKeyed) (found : store'.find? token = some s') :
    (token ∉ openedTokens log ∧ ∃ s, store.find? token = some s
        ∧ s'.credentials = s.credentials ∧ s'.expiresAt = s.expiresAt)
      ∨ ∃ front entry rest, log = front ++ entry :: rest
        ∧ entry.deed = .session (.create s'.credentials)
          (some ⟨token, s'.expiresAt⟩)
        ∧ token ∉ openedTokens rest := by
  induction h with
  | nil => exact .inl ⟨List.not_mem_nil, s', found, rfl, rfl⟩
  | @cons _ _ entry log start step rest ih =>
      subst start
      -- the rest of the log has opened it, or it was there before the rest
      rcases ih (Entry.wellKeyed_step step keyed) found with
        ⟨hlater, s, hafter, hsame, hend⟩ | hopened
      · rcases Entry.origin_of_step step keyed hafter with
          hdeed | ⟨hnot, s₀, hbefore, hsame₀, hend₀⟩
        · rw [← hsame, ← hend] at hdeed
          exact .inr ⟨[], entry, log, rfl, hdeed, hlater⟩
        · refine .inl ⟨?_, s₀, hbefore, hsame.trans hsame₀,
            hend.trans hend₀⟩
          rw [mem_openedTokens_cons, not_or]
          exact ⟨hnot, hlater⟩
      · obtain ⟨front, opening, late, rfl, hopening⟩ := hopened
        exact .inr ⟨entry :: front, opening, late, rfl, hopening⟩

/-- Where every token is issued once, that of a session is not issued
later. -/
theorem not_opened_of_found (h : Traces store front store')
    (issued : IssuesOnce store (front ++ rest))
    (found : store'.find? token = some s') :
    token ∉ openedTokens rest := by
  intro hrest
  unfold IssuesOnce openedTokens at issued
  rw [List.filterMap_append, ← List.append_assoc] at issued
  have hkeyed : store.WellKeyed :=
    (List.nodup_append.1 (List.nodup_append.1 issued).1).1
  refine (List.nodup_append.1 issued).2.2 token ?_ token hrest rfl
  rw [List.mem_append]
  rcases found_or_opened h hkeyed found with ⟨s, hs⟩ | hopened
  · exact .inl (SessionStore.mem_tokens_of_find? hs)
  · exact .inr hopened

/-- Through a part of a log that does not issue its token, a session
keeps its builder up to the changes in that part: the revision counts
them, and without any the query stays. -/
theorem builder_traces (h : Traces store log store')
    (keyed : store.WellKeyed) (kept : token ∉ openedTokens log)
    (found : store'.find? token = some s') :
    ∃ s, store.find? token = some s
      ∧ s'.builder.revision = s.builder.revision
        + UInt64.ofNat (log.countP (Entry.changesQuery token))
      ∧ (log.countP (Entry.changesQuery token) = 0 →
        s'.builder.query = s.builder.query) := by
  -- on the log, from its first entry: what the rest says of the session,
  -- and what the entry did to it
  induction h with
  | nil => exact ⟨s', found, (UInt64.add_zero _).symm, fun _ => rfl⟩
  | @cons _ _ entry log start step rest ih =>
      subst start
      rw [mem_openedTokens_cons, not_or] at kept
      obtain ⟨hentry, hrest⟩ := kept
      obtain ⟨s, hs, hrevision, hquery⟩ :=
        ih (Entry.wellKeyed_step step keyed) hrest found
      obtain ⟨s₀, hs₀, hrevision₀, hquery₀⟩ := Entry.builder_effect
        (Entry.effect_of_step step keyed hs) hentry
      refine ⟨s₀, hs₀, ?_, fun hcount => ?_⟩
      · rw [hrevision, hrevision₀, UInt64.add_assoc, ← UInt64.ofNat_add,
          List.countP_cons, Nat.add_comm]
      · rw [List.countP_cons] at hcount
        have hnone : entry.changesQuery token = false := by
          by_contra hchange
          rw [if_pos (by simpa using hchange)] at hcount
          omega
        rw [hquery (by omega), hquery₀ hnone]

end FluxComposer
