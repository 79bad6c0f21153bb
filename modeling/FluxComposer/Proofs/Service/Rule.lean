import FluxComposer.Proofs.Service.Trace
/-
Rules that all requests keep to. A request knows nothing but the answers
to its own steps, so what it does next is a matter of what it has done
(`Rule`), and that a flow keeps to a rule can be read off the flow alone:
`Flow.Obeys` asks it of every step, whatever the answers are.

The laws of `Obeys` follow the ways in which handlers are put together,
so a handler is shown to keep to a rule by rewriting with them. What each
request has from the start and keeps with each of its steps it has in
every run, however the requests are interleaved (`keeps_run`); so a rule
that every request keeps to is kept to in every run (`rule_run`).
-/
namespace FluxComposer

/-- What a request may do next, after what it has done. -/
abbrev Rule := List Deed → Deed → Prop

-- ================================================================ talks

namespace Http.Talk

variable {α β : Type} {P : Request → Prop}

/-- Every request of a talk satisfies `P`, whatever is answered. -/
def Sends (P : Request → Prop) : Talk α → Prop
  | .done _ => True
  | .send request next => P request ∧ ∀ answer, (next answer).Sends P

/-- A talk that is over sends nothing. -/
theorem sends_pure (a : α) : Sends P (pure a) := trivial

/-- A request that is asked is the only one sent. -/
theorem sends_ask {request : Request} (h : P request) :
    (ask request).Sends P := ⟨h, fun _ => trivial⟩

/-- What two talks send is sent by the one after the other. -/
theorem sends_bind {talk : Talk α} {f : α → Talk β}
    (first : talk.Sends P) (rest : ∀ a, (f a).Sends P) :
    (talk >>= f).Sends P := by
  show (talk.bind f).Sends P
  induction talk with
  | done a => exact rest a
  | send request next ih =>
      exact ⟨first.1, fun answer => ih answer (first.2 answer)⟩

/-- A result may be changed without sending anything. -/
theorem sends_map {talk : Talk α} {f : α → β} (h : talk.Sends P) :
    (f <$> talk).Sends P := sends_bind h fun a => sends_pure (f a)

/-- What every request satisfies, all that a talk sends does. -/
theorem sends_of_forall (all : ∀ request, P request) (talk : Talk α) :
    talk.Sends P := by
  induction talk with
  | done => trivial
  | send request next ih => exact ⟨all request, ih⟩

end Http.Talk

-- ================================================================ flows

namespace Flow

variable {α β : Type} {rule : Rule}

/-- Every step of a flow keeps to a rule, whatever is answered, and a
result satisfies `post`. -/
def Obeys (rule : Rule) (post : List Deed → α → Prop) (past : List Deed) :
    Flow α → Prop
  | .done a => post past a
  | .crash => True
  | .session op next => ∀ answer, rule past (.session op answer)
      ∧ (next answer).Obeys rule post (past ++ [.session op answer])
  | .remote call next => ∀ answer, rule past (.remote call answer)
      ∧ (next answer).Obeys rule post (past ++ [.remote call answer])
  | .clock next => ∀ now, rule past (.clock now)
      ∧ (next now).Obeys rule post (past ++ [.clock now])

/-- What the result satisfies may be weakened. -/
theorem obeys_mono {post post' : List Deed → α → Prop} {past : List Deed}
    {flow : Flow α} (weaker : ∀ past a, post past a → post' past a)
    (h : flow.Obeys rule post past) : flow.Obeys rule post' past := by
  induction flow generalizing past with
  | done a => exact weaker past a h
  | crash => trivial
  | session _ _ ih => exact fun a => ⟨(h a).1, ih a (h a).2⟩
  | remote _ _ ih => exact fun a => ⟨(h a).1, ih a (h a).2⟩
  | clock _ ih => exact fun t => ⟨(h t).1, ih t (h t).2⟩

/-- A flow that goes on with another keeps to a rule in both parts, of which
the second begins with the past of the first. -/
theorem obeys_bind {post : List Deed → β → Prop} {past : List Deed}
    (flow : Flow α) (f : α → Flow β) :
    (flow >>= f).Obeys rule post past
      ↔ flow.Obeys rule (fun past a => (f a).Obeys rule post past) past := by
  show (flow.bind f).Obeys rule post past ↔ _
  induction flow generalizing past with
  | done | crash => rfl
  | session _ _ ih => exact forall_congr' fun a => and_congr_right' (ih a)
  | remote _ _ ih => exact forall_congr' fun a => and_congr_right' (ih a)
  | clock _ ih => exact forall_congr' fun t => and_congr_right' (ih t)

/-- A talk with the dashboard server sends its requests and does nothing
else, so what they keep holds in the end. -/
theorem obeys_ofTalk {post : List Deed → α → Prop} {past : List Deed}
    {talk : Http.Talk α} {P : Http.Request → Prop}
    {keeps : List Deed → Prop} (sends : talk.Sends P)
    (requests : ∀ past request answer, keeps past → P request →
      rule past (.remote (.grafana request) answer)
        ∧ keeps (past ++ [.remote (.grafana request) answer]))
    (result : ∀ past a, keeps past → post past a) (h : keeps past) :
    (ofTalk talk).Obeys rule post past := by
  induction talk generalizing past with
  | done a => exact result past a h
  | send request next ih =>
      intro answer
      obtain ⟨hrule, hkeeps⟩ := requests past request answer h sends.1
      exact ⟨hrule, ih answer (sends.2 answer) hkeeps⟩

/-- One step of a flow that keeps to a rule. -/
theorem obeys_step? {post : List Deed → α → Prop} {past : List Deed}
    {flow flow' : Flow α} {world : World} {store store' : SessionStore}
    {deed : Deed} (h : flow.Obeys rule post past)
    (next : flow.step? world store = some (deed, flow', store')) :
    rule past deed ∧ flow'.Obeys rule post (past ++ [deed]) := by
  cases flow with
  | done | crash => cases next
  | session | remote | clock =>
      cases next
      exact h _

end Flow

-- ============================================================= handlers

namespace Handler

variable {α β : Type} {rule : Rule} {post : List Deed → α → Prop}
  {past : List Deed}

/-- Every step of a handler keeps to a rule, and a result that is no
refusal satisfies `post`. -/
def Obeys (rule : Rule) (post : List Deed → α → Prop) (past : List Deed)
    (h : Handler α) : Prop :=
  Flow.Obeys rule (fun past r => ∀ a, r = .ok a → post past a) past h.run

/-- What the result of a handler satisfies may be weakened. -/
theorem obeys_mono {post' : List Deed → α → Prop} {h : Handler α}
    (weaker : ∀ past a, post past a → post' past a)
    (obeys : Obeys rule post past h) : Obeys rule post' past h :=
  Flow.obeys_mono (fun past _ hr a ha => weaker past a (hr a ha)) obeys

/-- A result takes no step that a rule could forbid. -/
@[simp]
theorem obeys_pure (a : α) :
    Obeys rule post past (pure a) ↔ post past a := by
  show (∀ a', Except.ok a = .ok a' → post past a') ↔ post past a
  simp

/-- A refusal takes no step, and nothing is asked of it. -/
@[simp]
theorem obeys_throw (e : ApiError) : Obeys rule post past (throw e) := by
  intro a h
  cases h

/-- The second handler begins with the past of the first, if that was not
refused. -/
@[simp]
theorem obeys_bind {post : List Deed → β → Prop} (h : Handler α)
    (f : α → Handler β) : Obeys rule post past (h >>= f)
      ↔ Obeys rule (fun past a => Obeys rule post past (f a)) past h := by
  have hbind : (h >>= f).run = h.run >>= ExceptT.bindCont f := rfl
  unfold Obeys
  rw [hbind, Flow.obeys_bind]
  constructor
  · refine Flow.obeys_mono fun past r hr a ha => ?_
    rw [ha] at hr
    exact hr
  · refine Flow.obeys_mono fun past r hr => ?_
    cases r with
    | ok a => exact hr a rfl
    | error e => exact obeys_throw e

/-- What is known is looked at without a step. -/
@[simp]
theorem obeys_require (result : Except ApiError α) :
    Obeys rule post past (require result)
      ↔ ∀ a, result = .ok a → post past a := Iff.rfl

/-- An operation on the sessions is one step. -/
@[simp]
theorem obeys_session (op : SessionOp α) :
    Obeys rule post past (session op)
      ↔ ∀ answer, rule past (.session op answer)
        ∧ post (past ++ [.session op answer]) answer := by
  refine forall_congr' fun answer => and_congr_right' ?_
  exact obeys_pure answer

/-- An operation on one session is one step, whether it succeeds or is
refused. -/
@[simp]
theorem obeys_within (op : SessionOp (Except SessionError α)) :
    Obeys rule post past (within op)
      ↔ (∀ answer, rule past (.session op answer))
        ∧ ∀ a, post (past ++ [.session op (.ok a)]) a := by
  constructor
  · intro h
    exact ⟨fun answer => (h answer).1, fun a => (h (.ok a)).2 a rfl⟩
  · rintro ⟨hrule, hpost⟩ answer
    refine ⟨hrule answer, ?_⟩
    cases answer with
    | ok a => exact (obeys_pure a).2 (hpost a)
    | error e => exact obeys_throw _

/-- A call of another server is one step. -/
@[simp]
theorem obeys_attempt (call : Remote (Except InfluxError α))
    {post : List Deed → Except InfluxError α → Prop} :
    Obeys rule post past (attempt call)
      ↔ ∀ answer, rule past (.remote call answer)
        ∧ post (past ++ [.remote call answer]) answer := by
  refine forall_congr' fun answer => and_congr_right' ?_
  exact obeys_pure answer

/-- A call of the database is one step, whether it succeeds or is
refused. -/
@[simp]
theorem obeys_database (call : Remote (Except InfluxError α)) :
    Obeys rule post past (database call)
      ↔ (∀ answer, rule past (.remote call answer))
        ∧ ∀ a, post (past ++ [.remote call (.ok a)]) a := by
  constructor
  · intro h
    exact ⟨fun answer => (h answer).1, fun a => (h (.ok a)).2 a rfl⟩
  · rintro ⟨hrule, hpost⟩ answer
    refine ⟨hrule answer, ?_⟩
    cases answer with
    | ok a => exact (obeys_pure a).2 (hpost a)
    | error e => exact obeys_throw _

/-- A talk with the dashboard server takes one step for each request that it
sends, and what these keep holds in the end. -/
theorem obeys_publish_sends {talk : Http.Talk (Except GrafanaError α)}
    {P : Http.Request → Prop} (keeps : List Deed → Prop)
    (sends : talk.Sends P)
    (requests : ∀ past request answer, keeps past → P request →
      rule past (.remote (.grafana request) answer)
        ∧ keeps (past ++ [.remote (.grafana request) answer]))
    (result : ∀ past a, keeps past → post past a) (h : keeps past) :
    Obeys rule post past (publish talk) := by
  refine (Flow.obeys_bind _ _).2 ?_
  refine Flow.obeys_ofTalk sends requests (fun past r hkeeps a _ => ?_) h
  exact result past a hkeeps

/-- A talk may follow a rule by what came before it alone. -/
theorem obeys_publish {talk : Http.Talk (Except GrafanaError α)}
    (requests : ∀ later request answer,
      rule (past ++ later) (.remote (.grafana request) answer))
    (result : ∀ later a, post (past ++ later) a) :
    Obeys rule post past (publish talk) := by
  apply obeys_publish_sends (fun past' => ∃ later, past' = past ++ later)
    (Http.Talk.sends_of_forall (fun _ => trivial) _)
  · rintro _ request answer ⟨later, rfl⟩ -
    exact ⟨requests later request answer, later ++ _, List.append_assoc ..⟩
  · rintro _ a ⟨later, rfl⟩
    exact result later a
  · exact ⟨[], (List.append_nil past).symm⟩

/-- Reading the clock is one step. -/
@[simp]
theorem obeys_now {post : List Deed → Instant → Prop} :
    Obeys rule post past now
      ↔ ∀ t, rule past (.clock t) ∧ post (past ++ [.clock t]) t := by
  refine forall_congr' fun t => and_congr_right' ?_
  exact obeys_pure t

/-- Both branches keep to the rule, each under its condition. -/
@[simp]
theorem obeys_ite (c : Prop) [Decidable c] (h h' : Handler α) :
    Obeys rule post past (if c then h else h')
      ↔ (c → Obeys rule post past h) ∧ (¬ c → Obeys rule post past h') := by
  split <;> simp_all

/-- A crash takes no step. -/
@[simp]
theorem obeys_crash : Obeys rule post past crash := trivial

end Handler

-- ================================================================= runs

/-- What a request has done, in the order in which it has done it. -/
def deedsOf (request : Nat) (log : List Entry) : List Deed :=
  (log.filter (·.request = request)).map (·.deed)

/-- A step of a request is the last that it has done. -/
theorem deedsOf_concat_self (log : List Entry) (entry : Entry) :
    deedsOf entry.request (log ++ [entry])
      = deedsOf entry.request log ++ [entry.deed] := by
  simp [deedsOf]

/-- A step of a request is nothing that another has done. -/
theorem deedsOf_concat_ne {request : Nat} {entry : Entry}
    (other : entry.request ≠ request) (log : List Entry) :
    deedsOf request (log ++ [entry]) = deedsOf request log := by
  simp [deedsOf, other]

/-- A deed of a request is in the log, between those of the request that
come before and after it. -/
theorem split_of_deedsOf {request : Nat} {log : List Entry} {deed : Deed}
    (before : List Deed) {after : List Deed}
    (h : deedsOf request log = before ++ deed :: after) :
    ∃ front entry rest, log = front ++ entry :: rest
      ∧ entry.request = request ∧ entry.deed = deed
      ∧ deedsOf request front = before ∧ deedsOf request rest = after := by
  obtain ⟨kept, kept', hkept, hbefore, hcons⟩ := List.map_eq_append_iff.1 h
  obtain ⟨entry, kept'', rfl, hdeed, hafter⟩ := List.map_eq_cons_iff.1 hcons
  obtain ⟨first, second, hlog, hfirst, hsecond⟩ :=
    List.filter_eq_append_iff.1 hkept
  obtain ⟨others, rest, rfl, hothers, hrequest, hrest⟩ :=
    List.filter_eq_cons_iff.1 hsecond
  -- the entry stands behind entries of other requests, which are left out
  -- of what this one has done
  refine ⟨first ++ others, entry, rest, by simp [hlog],
    of_decide_eq_true hrequest, hdeed, ?_, ?_⟩
  · unfold deedsOf
    rw [List.filter_append, hfirst, List.filter_eq_nil_iff.2 hothers,
      List.append_nil, hbefore]
  · unfold deedsOf
    rw [hrest, hafter]

/-- An entry of a longer log is the new one or one of the old ones. -/
theorem split_concat {log front rest : List Entry} {entry new : Entry}
    (h : log ++ [new] = front ++ entry :: rest) :
    (front = log ∧ entry = new ∧ rest = [])
      ∨ ∃ between, rest = between ++ [new]
        ∧ log = front ++ entry :: between := by
  rcases List.eq_nil_or_concat rest with rfl | ⟨between, last, rfl⟩
  · obtain ⟨rfl, heq⟩ := List.append_inj' h rfl
    cases heq
    exact .inl ⟨rfl, rfl, rfl⟩
  · rw [List.concat_eq_append, ← List.cons_append, ← List.append_assoc] at h
    obtain ⟨rfl, heq⟩ := List.append_inj' h rfl
    cases heq
    exact .inr ⟨between, List.concat_eq_append, rfl⟩

/-- The request that a move brings. -/
def Move.arrived? : Move → Option Request
  | .arrive _ request => some request
  | .step .. => none

/-- The requests that come, by their numbers. -/
def arrivals (moves : List Move) : List Request :=
  moves.filterMap Move.arrived?

/-- A request keeps its number. -/
theorem arrivals_early {early moves : List Move} {i : Nat}
    {request : Request} (h : early <+: moves)
    (arrived : (arrivals early)[i]? = some request) :
    (arrivals moves)[i]? = some request := by
  obtain ⟨late, rfl⟩ := h
  obtain ⟨hlt, -⟩ := List.getElem?_eq_some_iff.1 arrived
  unfold arrivals at arrived hlt ⊢
  rw [List.filterMap_append, List.getElem?_append_left hlt]
  exact arrived

namespace Server

/-- What has happened to each request is as `inv` says it can be, after
what it has done. -/
structure Keeps (inv : Request → List Deed → Flow Response → Prop)
    (arrived : List Request) (server : Server) : Prop where
  count : arrived.length = server.flows.length
  known : ∀ entry ∈ server.log, entry.request < server.flows.length
  flows : ∀ (i : Nat) (flow : Flow Response),
    server.flows[i]? = some flow → ∃ request,
      arrived[i]? = some request ∧ inv request (deedsOf i server.log) flow

variable {svc : Service} {inv : Request → List Deed → Flow Response → Prop}
  {arrived : List Request} {server server' : Server}
  {store : SessionStore} {moves : List Move}

/-- A request that has just come has done nothing. -/
theorem Keeps.deedsOf_next (h : server.Keeps inv arrived) :
    deedsOf server.flows.length server.log = [] := by
  unfold deedsOf
  rw [List.map_eq_nil_iff, List.filter_eq_nil_iff]
  intro entry hentry
  have hlt := h.known entry hentry
  simp only [decide_eq_true_eq]
  omega

/-- A request that comes has the next number, and the others are as they
were. -/
theorem keeps_arrive {id : String} {request : Request}
    (h : server.Keeps inv arrived)
    (start : inv request [] (svc.respond id request)) :
    Keeps inv (arrived ++ [request]) { server with
      flows := server.flows ++ [svc.respond id request] } where
  count := by simp [h.count]
  known entry hentry := by
    rw [List.length_append]
    exact Nat.lt_add_right _ (h.known entry hentry)
  flows i flow hflow := by
    have hflow : (server.flows ++ [svc.respond id request])[i]?
        = some flow := hflow
    -- an old request, the new one, or none
    rcases Nat.lt_trichotomy i server.flows.length with hlt | rfl | hgt
    · rw [List.getElem?_append_left hlt] at hflow
      rw [List.getElem?_append_left (h.count ▸ hlt)]
      exact h.flows i flow hflow
    · rw [List.getElem?_concat_length] at hflow
      cases hflow
      refine ⟨request, ?_, ?_⟩
      · rw [← h.count, List.getElem?_concat_length]
      · exact h.deedsOf_next ▸ start
    · have hnone : server.flows.length + 1 ≤ i := hgt
      rw [List.getElem?_eq_none (by simpa using hnone)] at hflow
      cases hflow

/-- A step of one request is all that happens to it, and nothing happens to
the others. -/
theorem keeps_step {i : Nat} {flow flow' : Flow Response}
    {deed : Deed} {store : SessionStore}
    (steps : ∀ {request past}, inv request past flow →
      inv request (past ++ [deed]) flow')
    (standing : server.flows[i]? = some flow)
    (h : server.Keeps inv arrived) :
    Keeps inv arrived
      { store
        flows := server.flows.set i flow'
        log := server.log ++ [⟨i, deed, server.store, store⟩] } where
  count := by simp [h.count]
  known entry hentry := by
    have hlt := (List.getElem?_eq_some_iff.1 standing).1
    rw [List.length_set]
    rcases List.mem_append.1 hentry with hold | hnew
    · exact h.known entry hold
    · obtain rfl := List.mem_singleton.1 hnew
      exact hlt
  flows j flow₂ hflow := by
    have hlt := (List.getElem?_eq_some_iff.1 standing).1
    -- the request that took the step, and the others
    by_cases hj : i = j
    · subst hj
      rw [List.getElem?_set_self hlt] at hflow
      cases hflow
      obtain ⟨request, harrived, hinv⟩ := h.flows i flow standing
      refine ⟨request, harrived, ?_⟩
      rw [deedsOf_concat_self _ ⟨i, deed, server.store, store⟩]
      exact steps hinv
    · rw [List.getElem?_set_ne hj] at hflow
      rw [deedsOf_concat_ne hj]
      exact h.flows j flow₂ hflow

/-- What every request has from the start, and keeps with each of its
steps, it has in every run. -/
theorem keeps_run (starts : ∀ id request,
      inv request [] (svc.respond id request))
    (steps : ∀ {request past world flow flow' deed} {before after :
        SessionStore}, inv request past flow →
      flow.step? world before = some (deed, flow', after) →
      inv request (past ++ [deed]) flow') :
    Keeps inv (arrivals moves) (run svc { store } moves) := by
  -- on the last move: a request arrives, a step is taken, or nothing
  -- happens
  induction moves using List.reverseRecOn with
  | nil =>
      refine ⟨rfl, fun entry hentry => absurd hentry List.not_mem_nil,
        fun i flow hflow => ?_⟩
      have hflow : ([] : List (Flow Response))[i]? = some flow := hflow
      rw [List.getElem?_nil] at hflow
      cases hflow
  | append_singleton moves m ih =>
      have harrivals : arrivals (moves ++ [m])
          = arrivals moves ++ m.arrived?.toList := by
        unfold arrivals
        rw [List.filterMap_append]
        cases m <;> rfl
      rw [run_snoc, harrivals]
      cases m with
      | arrive id request => exact keeps_arrive ih (starts id request)
      | step i world =>
          have hmoved :=
            moved_move svc (run svc { store } moves) (.step i world)
          have hnone : (Move.step i world).arrived?.toList = [] := rfl
          rw [hnone, List.append_nil]
          generalize (run svc { store } moves).move svc (.step i world)
            = server' at hmoved
          cases hmoved with
          | idle => exact ih
          | step standing next =>
              exact keeps_step (fun hinv => steps hinv next) standing ih

/-- An entry of a log was made by a step of its request, after those that
come before it in the log. -/
theorem exists_step_of_split {front rest : List Entry} {entry : Entry}
    (split : (run svc { store } moves).log = front ++ entry :: rest) :
    ∃ early world flow flow',
      early ++ [.step entry.request world] <+: moves
      ∧ (run svc { store } early).log = front
      ∧ (run svc { store } early).store = entry.before
      ∧ (run svc { store } early).flows[entry.request]? = some flow
      ∧ flow.step? world entry.before
        = some (entry.deed, flow', entry.after) := by
  induction moves using List.reverseRecOn generalizing rest with
  | nil =>
      have hnil : front ++ entry :: rest = [] := split.symm
      cases front <;> cases hnil
  | append_singleton moves m ih =>
      have hold : ∀ {rest},
          (run svc { store } moves).log = front ++ entry :: rest →
            ∃ early world flow flow',
              early ++ [.step entry.request world] <+: moves ++ [m]
              ∧ (run svc { store } early).log = front
              ∧ (run svc { store } early).store = entry.before
              ∧ (run svc { store } early).flows[entry.request]?
                = some flow
              ∧ flow.step? world entry.before
                = some (entry.deed, flow', entry.after) := by
        intro rest hsplit
        obtain ⟨early, world, flow, flow', hearlier, hentry⟩ := ih hsplit
        exact ⟨early, world, flow, flow',
          hearlier.trans (List.prefix_append _ _), hentry⟩
      have hmoved := moved_move svc (run svc { store } moves) m
      rw [run_snoc] at split
      generalize (run svc { store } moves).move svc m = server'
        at hmoved split
      cases hmoved with
      | idle => exact hold split
      | arrive => exact hold split
      | @step i world flow flow' deed after standing next =>
          -- the entry is the last one, made by this step, or an older one
          rcases split_concat split with
            ⟨rfl, rfl, rfl⟩ | ⟨between, rfl, hsplit⟩
          · exact ⟨moves, world, flow, flow', List.prefix_refl _, rfl, rfl,
              standing, next⟩
          · exact hold hsplit

variable {rule : Rule}

/-- A rule that every request that comes keeps to is kept to in every
run. -/
theorem rule_run (requests : ∀ id request,
      (svc.respond id request).Obeys rule (fun _ _ => True) [])
    {front rest : List Entry} {entry : Entry}
    (split : (run svc { store } moves).log = front ++ entry :: rest) :
    rule (deedsOf entry.request front) entry.deed := by
  obtain ⟨early, world, flow, flow', -, rfl, -, hflow, next⟩ :=
    exists_step_of_split split
  have hkeeps : Keeps (fun _ past flow =>
      flow.Obeys rule (fun _ _ => True) past) (arrivals early)
      (run svc { store } early) :=
    keeps_run requests fun h next => (Flow.obeys_step? h next).2
  obtain ⟨request, -, hobeys⟩ := hkeeps.flows _ _ hflow
  exact (Flow.obeys_step? hobeys next).1

end Server

-- ============================================================= requests

namespace Service

variable {rule : Rule} {past : List Deed}

/-- A request looks up the session of its own token, where it has one. -/
@[simp]
theorem obeys_authenticate {post : List Deed → String × Credentials → Prop}
    (authorization : List String) :
    Handler.Obeys rule post past (authenticate authorization)
      ↔ ∀ token, bearer authorization = .ok token →
        (∀ answer, rule past (.session (.credentials token) answer))
          ∧ ∀ c, post (past ++ [.session (.credentials token) (.ok c)])
            (token, c) := by
  simp [authenticate]

/-- An edit is one step on the session. -/
@[simp]
theorem obeys_edit {post : List Deed → Builder.Outcome × Builder → Prop}
    (token : String) (e : Builder.Edit) :
    Handler.Obeys rule post past (edit token e)
      ↔ (∀ answer, rule past (.session (.edit token e) answer))
        ∧ ∀ result,
          post (past ++ [.session (.edit token e) (.ok result)]) result :=
  Handler.obeys_within _

/-- A view is one step on the session. -/
@[simp]
theorem obeys_view (token : String) :
    Handler.Obeys rule (fun _ _ => True) past (view token)
      ↔ ∀ answer, rule past (.session (.view token) answer) := by
  simp [view]

/-- A request keeps to a rule if what it asks for does, and its answer is
as that of an error or as what was asked for leads to. -/
theorem obeys_respond_post {svc : Service} {id : String}
    {request : Request} {post : List Deed → Response → Prop}
    (options : request.method = "OPTIONS" → post [] { status := 200 })
    (rejected : ∀ status, request.action = .error status →
      post [] { status })
    (refused : ∀ past e, post past (ApiError.response id e))
    (headless : ∀ past response, post past response →
      post past { response with body := none })
    (actions : ∀ action, request.action = .ok action →
      Handler.Obeys rule post []
        (svc.handle request.authorization action)) :
    (svc.respond id request).Obeys rule post [] := by
  unfold Service.respond
  split
  case isTrue hoptions => exact options hoptions
  case isFalse =>
    split
    case h_1 status haction => exact rejected status haction
    case h_2 action haction =>
      refine (Flow.obeys_bind _ _).2 ?_
      refine Flow.obeys_mono (fun past r hr => ?_) (actions action haction)
      show Flow.Obeys _ _ _ (ite _ _ _)
      cases r with
      | ok response =>
          split
          · exact headless past response (hr response rfl)
          · exact hr response rfl
      | error e =>
          split
          · exact headless past _ (refused past e)
          · exact refused past e

/-- A request keeps to a rule if what it asks for does. -/
theorem obeys_respond {svc : Service}
    (actions : ∀ authorization action,
      Handler.Obeys rule (fun _ _ => True) []
        (svc.handle authorization action))
    (id : String) (request : Request) :
    (svc.respond id request).Obeys rule (fun _ _ => True) [] :=
  obeys_respond_post (fun _ => trivial) (fun _ _ => trivial)
    (fun _ _ => trivial) (fun _ _ _ => trivial) fun action _ =>
      actions request.authorization action

end Service

-- from here on talks and handlers are taken apart by the laws above alone
attribute [irreducible] Http.Talk.Sends Handler.Obeys

end FluxComposer
