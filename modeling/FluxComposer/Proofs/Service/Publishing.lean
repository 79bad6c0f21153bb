import FluxComposer.Proofs.Grafana.Publication
import FluxComposer.Proofs.Service.Access
import FluxComposer.Proofs.Service.Staleness
import FluxComposer.Proofs.Text.Percent
/-
Requests that publish a dashboard. Such a request looks up the session of
its token and then has the talk of a publication with the dashboard
server, with the credentials of the session. So what it has done is that
lookup and what the talk has sent (`Publishing.deeds`), in every run; and
it is answered as the talk has ended, at once when it has.

The talk keeps to `Plan.Follows` whatever is answered, and a handler that
has the talk does so too (`Handler.meets_publish`). What stands in a log
is then read off the rule of the request (`Publishing.Permits`): a request
that the rule lets do nothing more has got its answer (`done_of_stuck`).
-/
namespace FluxComposer

open Http Grafana

/-- What a request has done that has sent a request to the dashboard
server. -/
def Http.Sent.deed (s : Sent) : Deed := .remote (.grafana s.request) s.answer

-- ================================================================ flows

namespace Flow

variable {α : Type} {rule : Rule} {post : List Deed → α → Prop}
  {past : List Deed}

/-- What a talk keeps, a request keeps that has the talk, after what it has
done before. -/
theorem obeys_ofTalk_keeps {talk : Talk α} {inv : List Sent → Prop}
    {result : List Sent → α → Prop} {sent : List Sent}
    (requests : ∀ sent s, inv (sent ++ [s]) →
      rule (past ++ sent.map Sent.deed) s.deed)
    (results : ∀ sent a, result sent a → post (past ++ sent.map Sent.deed) a)
    (keeps : talk.Keeps inv result sent) :
    (ofTalk talk).Obeys rule post (past ++ sent.map Sent.deed) := by
  induction talk generalizing sent with
  | done a => exact results sent a ((Talk.keeps_done a).1 keeps)
  | send request next ih =>
      intro answer
      obtain ⟨hinv, hnext⟩ := Talk.keeps_send.1 keeps answer
      refine ⟨requests sent ⟨request, answer⟩ hinv, ?_⟩
      have hrest := ih answer hnext
      rw [List.map_append, ← List.append_assoc] at hrest
      exact hrest

/-- A flow that may not go on has ended. -/
theorem done_of_stuck {flow : Flow α} (obeys : flow.Obeys rule post past)
    (ends : Access.Ends flow) (stuck : ∀ deed, ¬ rule past deed) :
    ∃ a, flow = .done a ∧ post past a := by
  cases flow with
  | done a => exact ⟨a, rfl, obeys⟩
  | crash => exact ends.elim
  | session op next =>
      obtain ⟨answer⟩ := op.nonempty
      exact absurd (obeys answer).1 (stuck _)
  | remote call next =>
      obtain ⟨answer⟩ := call.nonempty
      exact absurd (obeys answer).1 (stuck _)
  | clock next => exact absurd (obeys ⟨0⟩).1 (stuck _)

end Flow

-- ============================================================= handlers

namespace Handler

variable {α β : Type} {rule : Rule} {good : List Deed → α → Prop}
  {bad : List Deed → ApiError → Prop} {past : List Deed}

/-- Every step of a handler keeps to a rule, and its result satisfies
`good`, or `bad` where it is a refusal. `Handler.Obeys` says nothing of
refusals, and what they come after is what counts here. -/
def Meets (rule : Rule) (good : List Deed → α → Prop)
    (bad : List Deed → ApiError → Prop) (past : List Deed)
    (h : Handler α) : Prop :=
  Flow.Obeys rule (fun past r =>
    match r with
    | .ok a => good past a
    | .error e => bad past e) past h.run

/-- What a handler does before another is kept apart from what the other
does with its result, and a refusal of either is one of the whole. -/
theorem meets_bind {good : List Deed → β → Prop} (h : Handler α)
    (f : α → Handler β) : Meets rule good bad past (h >>= f)
      ↔ Meets rule (fun past a => Meets rule good bad past (f a)) bad past
        h := by
  have hbind : (h >>= f).run = h.run >>= ExceptT.bindCont f := rfl
  unfold Meets
  rw [hbind, Flow.obeys_bind]
  -- on a refusal nothing follows, and both sides say the same of it
  constructor <;>
    exact Flow.obeys_mono fun past r hr => by cases r <;> exact hr

theorem meets_pure (a : α) :
    Meets rule good bad past (pure a) ↔ good past a := Iff.rfl

theorem meets_require {result : Except ApiError α}
    (hgood : ∀ a, result = .ok a → good past a)
    (hbad : ∀ e, result = .error e → bad past e) :
    Meets rule good bad past (require result) := by
  cases result with
  | ok a => exact hgood a rfl
  | error e => exact hbad e rfl

/-- A session operation is one step, and refuses as it is answered. -/
theorem meets_within {op : SessionOp (Except SessionError α)}
    (hrule : ∀ answer, rule past (.session op answer))
    (hgood : ∀ a, good (past ++ [.session op (.ok a)]) a)
    (hbad : ∀ e, bad (past ++ [.session op (.error e)]) (.session e)) :
    Meets rule good bad past (within op) := by
  intro answer
  refine ⟨hrule answer, ?_⟩
  cases answer with
  | ok a => exact hgood a
  | error e => exact hbad e

theorem meets_publish {talk : Talk (Except GrafanaError α)}
    {inv : List Sent → Prop}
    {result : List Sent → Except GrafanaError α → Prop} {sent : List Sent}
    (requests : ∀ sent s, inv (sent ++ [s]) →
      rule (past ++ sent.map Sent.deed) s.deed)
    (hgood : ∀ sent a, result sent (.ok a) →
      good (past ++ sent.map Sent.deed) a)
    (hbad : ∀ sent e, result sent (.error e) →
      bad (past ++ sent.map Sent.deed) (.grafana e))
    (keeps : talk.Keeps inv result sent) :
    Meets rule good bad (past ++ sent.map Sent.deed) (publish talk) := by
  refine (Flow.obeys_bind _ _).2 ?_
  refine Flow.obeys_ofTalk_keeps requests (fun sent r hr => ?_) keeps
  cases r with
  | ok a => exact hgood sent a hr
  | error e => exact hbad sent e hr

end Handler

-- ============================================================= requests

namespace Service

/-- A request that is carried out keeps to a rule as what it asks for does,
and its answer has the status of what that leads to. -/
theorem meets_respond {svc : Service} {rule : Rule} {id : String}
    {request : Request} {action : Action} {post : List Deed → Nat → Prop}
    (asked : request.asked? = some action)
    (meets : Handler.Meets rule (fun past r => post past r.status)
      (fun past e => post past (e.response id).status) []
      (svc.handle request.authorization action)) :
    (svc.respond id request).Obeys rule (fun past r => post past r.status)
      [] := by
  unfold Request.asked? at asked
  unfold respond
  split at asked
  · cases asked
  case isFalse hoptions =>
    rw [if_neg hoptions]
    cases haction : request.action with
    | error status =>
        rw [haction] at asked
        cases asked
    | ok action' =>
        rw [haction] at asked
        obtain rfl := Option.some.inj asked
        refine (Flow.obeys_bind _ _).2 (Flow.obeys_mono ?_ meets)
        intro past r hr
        show Flow.Obeys _ _ _ (ite _ _ _)
        cases r <;> split <;> exact hr

end Service

-- from here on handlers are taken apart by the laws above alone
attribute [irreducible] Handler.Meets

namespace Service

/-- A request is turned away without a token of its own, and else by what
the lookup of its session is answered. -/
theorem meets_authenticate {rule : Rule} {past : List Deed}
    {good : List Deed → String × Credentials → Prop}
    {bad : List Deed → ApiError → Prop} {authorization : List String}
    (missing : ∀ e, bearer authorization = .error e → bad past e)
    (lookup : ∀ token, bearer authorization = .ok token →
      (∀ answer, rule past (.session (.credentials token) answer))
        ∧ (∀ c, good (past ++ [.session (.credentials token) (.ok c)])
          (token, c))
        ∧ ∀ e, bad (past ++ [.session (.credentials token) (.error e)])
          (.session e)) :
    Handler.Meets rule good bad past (authenticate authorization) := by
  unfold authenticate
  refine (Handler.meets_bind _ _).2
    (Handler.meets_require (fun token own => ?_) missing)
  obtain ⟨hrule, hgood, hbad⟩ := lookup token own
  refine (Handler.meets_bind _ _).2
    (Handler.meets_within hrule (fun c => ?_) hbad)
  exact (Handler.meets_pure _).2 (hgood c)

/-- What the publication of a query needs, for the credentials of a
session. -/
def plan (svc : Service) (client : Client) (c : Credentials)
    (p : Publication) : Plan where
  client := client
  source := svc.datasourceParams c
  dashboard uid :=
    { title := p.title
      fluxQuery := p.fluxQuery
      datasourceUid := uid
      panelTitle := p.panelTitle.or (some "Flux Query Result") }

end Service

namespace Publishing

/-- What a request has done that has found its session and has sent
requests to the dashboard server. -/
def deeds (token : String) (c : Credentials) (sent : List Sent) :
    List Deed :=
  .session (.credentials token) (.ok c) :: sent.map Sent.deed

variable (svc : Service) (client : Client) (p : Publication)
  (authorization : List String)

/-- What a request to publish may do next. -/
inductive Permits : List Deed → Deed → Prop where
  /-- The session of the own token is looked up. -/
  | lookup {token : String}
      (own : Service.bearer authorization = .ok token)
      (answer : Except SessionError Credentials) :
      Permits [] (.session (.credentials token) answer)
  /-- What the publication needs is sent. -/
  | send {token : String} {c : Credentials} {sent : List Sent} {s : Sent}
      (own : Service.bearer authorization = .ok token)
      (follows : (svc.plan client c p).Follows (sent ++ [s])) :
      Permits (deeds token c sent) s.deed

/-- The status that a request to publish is answered with. -/
inductive Answered : List Deed → Nat → Prop where
  | published {token : String} {c : Credentials} {sent : List Sent}
      {created : Created}
      (completed : (svc.plan client c p).Completed created sent) :
      Answered (deeds token c sent) 200
  | stopped {token : String} {c : Credentials} {sent : List Sent}
      {status : Nat} (error : 400 ≤ status)
      (stopped : (svc.plan client c p).Stopped sent) :
      Answered (deeds token c sent) status
  | turnedAway {past : List Deed} {status : Nat} (error : 400 ≤ status)
      (away : Access.TurnedAway authorization past) :
      Answered past status

variable {svc client p authorization}

/-- A part of the talk keeps to the rule, and an error in it is the answer
of the request. -/
theorem meets_talk {α : Type} {talk : Talk (Except GrafanaError α)}
    {good : List Deed → α → Prop}
    {result : List Sent → Except GrafanaError α → Prop} {token : String}
    {c : Credentials} {sent : List Sent} (id : String)
    (own : Service.bearer authorization = .ok token)
    (keeps : talk.Keeps (svc.plan client c p).Follows result sent)
    (hstops : ∀ sent e, result sent (.error e) →
      (svc.plan client c p).Stopped sent)
    (hgood : ∀ sent a, result sent (.ok a) → good (deeds token c sent) a) :
    Handler.Meets (Permits svc client p authorization) good
      (fun past e =>
        Answered svc client p authorization past (e.response id).status)
      (deeds token c sent) (Handler.publish talk) := by
  show Handler.Meets _ _ _
    ([.session (.credentials token) (.ok c)] ++ sent.map Sent.deed) _
  refine Handler.meets_publish (fun sent s follows => ?_) hgood
    (fun sent e h => ?_) keeps
  · exact .send own follows
  · exact .stopped (ApiError.le_status id (.grafana e)) (hstops sent e h)

/-- The handler keeps to the rule, and is answered as the talk ends. -/
theorem meets_publish (id : String) (configured : svc.grafana = some client)
    (query : Text.isBlankText p.fluxQuery = false)
    (title : Text.isBlankText p.title = false) :
    Handler.Meets (Permits svc client p authorization)
      (fun past r => Answered svc client p authorization past r.status)
      (fun past e =>
        Answered svc client p authorization past (e.response id).status) []
      (svc.publish authorization p) := by
  unfold Service.publish Service.grafanaClient
  rw [configured, Handler.meets_bind]
  refine Handler.meets_require (fun client' hclient => ?_) nofun
  obtain rfl := Except.ok.inj hclient
  simp only [query, title, Bool.false_eq_true, if_false]
  refine (Handler.meets_bind _ _).2 (Service.meets_authenticate ?_ ?_)
  · exact fun e missing => .turnedAway (e.le_status id) (.inl ⟨e, missing⟩)
  intro token own
  refine ⟨.lookup own, fun c => ?_, fun e => ?_⟩
  -- a lookup that finds no session is itself what has turned the request
  -- away
  case refine_2 =>
    refine .turnedAway (ApiError.le_status id (.session e)) (.inr ?_)
    intro unrefused
    have hrefused := unrefused _ List.mem_cons_self
    cases hrefused
  show Handler.Meets _ _ _ (deeds token c []) _
  refine (Handler.meets_bind _ _).2 (meets_talk id own
    Plan.keeps_ensureDatasource (fun _ _ h => h) fun sent d ready => ?_)
  refine (Handler.meets_bind _ _).2 (meets_talk id own
    (Plan.keeps_createDashboard ready) (fun _ _ h => h)
    fun sent created completed => ?_)
  exact (Handler.meets_pure _).2 (.published completed)

-- ================================================================= runs

/-- What stands between a request to publish and its answer. -/
structure Stands (svc : Service) (client : Client) (p : Publication)
    (authorization : List String) (past : List Deed)
    (flow : Flow Response) : Prop where
  obeys : flow.Obeys (Permits svc client p authorization)
    (fun past r => Answered svc client p authorization past r.status) past
  last : ∀ front deed, past = front ++ [deed] →
    Permits svc client p authorization front deed

/-- In every run a request to publish keeps to the rule, and its last step
was one that the rule lets it do. -/
theorem stands_run {store : SessionStore} {moves : List Move}
    (configured : svc.grafana = some client)
    (query : Text.isBlankText p.fluxQuery = false)
    (title : Text.isBlankText p.title = false) :
    Server.Keeps (fun request past flow =>
        request.asked? = some (.publish p) →
          Stands svc client p request.authorization past flow)
      (arrivals moves) (Server.run svc { store } moves) := by
  refine Server.keeps_run (fun id request asked => ?_)
    fun stands next asked => ?_
  · exact ⟨Service.meets_respond asked
      (meets_publish id configured query title),
      fun front deed hnil => absurd hnil.symm (List.concat_ne_nil _ _)⟩
  · obtain ⟨hpermits, hobeys⟩ := Flow.obeys_step? (stands asked).obeys next
    refine ⟨hobeys, fun front deed hpast => ?_⟩
    obtain ⟨rfl, rfl⟩ := List.append_singleton_inj.1 hpast
    exact hpermits

/-- A request to publish that has arrived stands somewhere between its
arrival and its answer. -/
theorem exists_stands {store : SessionStore} {moves : List Move} {i : Nat}
    {request : Request} (configured : svc.grafana = some client)
    (query : Text.isBlankText p.fluxQuery = false)
    (title : Text.isBlankText p.title = false)
    (arrived : (arrivals moves)[i]? = some request)
    (asked : request.asked? = some (.publish p)) :
    ∃ flow, (Server.run svc { store } moves).flows[i]? = some flow
      ∧ Stands svc client p request.authorization
        (deedsOf i (Server.run svc { store } moves).log) flow
      ∧ Access.Ends flow := by
  have hkept : Server.Keeps _ _ (Server.run svc { store } moves) :=
    stands_run configured query title
  have haccess := Access.stands_run svc store moves
  obtain ⟨hlt, -⟩ := List.getElem?_eq_some_iff.1 arrived
  rw [hkept.count] at hlt
  have hflow := List.getElem?_eq_getElem hlt
  obtain ⟨request', harrived, hstands⟩ := hkept.flows i _ hflow
  obtain rfl := Option.some.inj (arrived.symm.trans harrived)
  obtain ⟨request', harrived', hends⟩ := haccess.flows i _ hflow
  obtain rfl := Option.some.inj (arrived.symm.trans harrived')
  unfold Access.Stands at hends
  rw [asked] at hends
  exact ⟨_, hflow, hstands asked, hends.2 rfl⟩

variable {token : String} {c : Credentials} {sent : List Sent}

/-- One more request that is sent is one more thing done. -/
theorem deeds_concat (s : Sent) :
    deeds token c (sent ++ [s]) = deeds token c sent ++ [s.deed] := by
  unfold deeds
  rw [List.map_append, List.cons_append, List.map_singleton]

/-- What was sent can be told from what was done. -/
theorem deeds_inj {token' : String} {c' : Credentials} {sent' : List Sent}
    (h : deeds token c sent = deeds token' c' sent') :
    token = token' ∧ c = c' ∧ sent = sent' := by
  obtain ⟨hfound, hsent⟩ := List.cons.inj h
  have hinjective : Function.Injective Sent.deed := by
    rintro ⟨request, answer⟩ ⟨request', answer'⟩ hdeed
    cases hdeed
    rfl
  cases hfound
  exact ⟨rfl, rfl, List.map_injective_iff.2 hinjective hsent⟩

/-- A request to publish looks up one session. -/
theorem eq_of_mem_deeds {token' : String} {c' : Credentials}
    (h : .session (.credentials token') (.ok c') ∈ deeds token c sent) :
    token' = token ∧ c' = c := by
  rcases List.mem_cons.1 h with hfound | hsent
  · cases hfound
    exact ⟨rfl, rfl⟩
  · obtain ⟨s, -, hs⟩ := List.mem_map.1 hsent
    cases hs

/-- A request that has found its session has then sent what a publication
sends. -/
theorem sent_of_stands {past : List Deed} {flow : Flow Response}
    (stands : Stands svc client p authorization past flow)
    (resolved : .session (.credentials token) (.ok c) ∈ past) :
    Service.bearer authorization = .ok token
      ∧ ∃ sent, past = deeds token c sent
        ∧ (svc.plan client c p).Follows sent := by
  -- the last step tells what all of them were: a request that has looked up
  -- its session and no more, or one that has sent something
  rcases List.eq_nil_or_concat past with rfl | ⟨front, deed, hpast⟩
  · cases resolved
  rw [List.concat_eq_append] at hpast
  subst hpast
  cases stands.last front deed rfl with
  | lookup own answer =>
      have hanswer := List.mem_singleton.1 resolved
      cases hanswer
      exact ⟨own, [], rfl, .nothing⟩
  | @send token' c' sent s own follows =>
      rw [← deeds_concat] at resolved ⊢
      obtain ⟨rfl, rfl⟩ := eq_of_mem_deeds resolved
      exact ⟨own, _, rfl, follows⟩

/-- What is sent next is what the publication needs. -/
theorem follows_of_permits {deed : Deed}
    (h : Permits svc client p authorization (deeds token c sent) deed) :
    ∃ s, (svc.plan client c p).Follows (sent ++ [s]) := by
  generalize hpast : deeds token c sent = past at h
  cases h with
  | lookup => cases hpast
  | send own follows =>
      obtain ⟨rfl, rfl, rfl⟩ := deeds_inj hpast
      exact ⟨_, follows⟩

/-- The answer is that of the talk. -/
theorem answered_cases {status : Nat}
    (own : Service.bearer authorization = .ok token)
    (h : Answered svc client p authorization (deeds token c sent) status) :
    (status = 200 ∧ ∃ created, (svc.plan client c p).Completed created sent)
      ∨ (400 ≤ status ∧ (svc.plan client c p).Stopped sent) := by
  generalize hpast : deeds token c sent = past at h
  cases h with
  | published completed =>
      obtain ⟨rfl, rfl, rfl⟩ := deeds_inj hpast
      exact .inl ⟨rfl, _, completed⟩
  | stopped error stopped =>
      obtain ⟨rfl, rfl, rfl⟩ := deeds_inj hpast
      exact .inr ⟨error, stopped⟩
  | turnedAway error away =>
      rcases away with ⟨e, he⟩ | hrefused
      · rw [own] at he
        cases he
      · refine absurd (fun deed hdeed => ?_) hrefused
        rw [← hpast] at hdeed
        rcases List.mem_cons.1 hdeed with rfl | hsent
        · rfl
        · obtain ⟨s, -, rfl⟩ := List.mem_map.1 hsent
          rfl

end Publishing

/-- What a publication has sent, and how it is answered. Of each of its
three requests it is said where it goes and what it carries. -/
structure IsPublication (svc : Service) (client : Client) (p : Publication)
    (c : Credentials) (plan : Plan) (sent : List Sent)
    (flow : Flow Response) : Prop where
  protocol : plan.Protocol sent
  /-- It is the configured name that is looked up. -/
  lookup : ∃ segment,
    Text.IsSegmentOf svc.publishing.datasourceName segment
      ∧ IsRequest client "GET" ("/api/datasources/name/" ++ segment)
        plan.lookup
  /-- A datasource is created with that name, for the session. -/
  creation : IsRequest client "POST" "/api/datasources" plan.creation
    ∧ ∃ body, plan.creation.body = some body
      ∧ body.get? "name" = some (.string svc.publishing.datasourceName)
      ∧ OnBehalfOf c.organization c.apiToken body
  /-- A dashboard shows the query on the datasource that it is created
  for. -/
  publication : ∀ uid,
    IsRequest client "POST" "/api/dashboards/db" (plan.publication uid)
      ∧ ∃ body, (plan.publication uid).body = some body
        ∧ Shows uid p.fluxQuery body
  /-- It has succeeded if every request has, and one of them has created
  the dashboard. -/
  success : (∃ response, flow = .done response ∧ response.status = 200)
    ↔ (∀ s ∈ sent, plan.Succeeds s)
      ∧ ∃ s ∈ sent, ∃ created, plan.Publishes created s
  /-- It is answered with an error as soon as a request has failed. -/
  failure : (∃ s ∈ sent, ¬ plan.Succeeds s) →
    ∃ response, flow = .done response ∧ 400 ≤ response.status
  /-- Until it is answered it goes on. -/
  goesOn : (∃ response, flow = .done response)
    ∨ ∀ world store, (flow.step? world store).isSome

namespace Publishing

variable {svc : Service} {client : Client} {p : Publication}
  {authorization : List String} {token : String} {c : Credentials}
  {sent : List Sent} {flow : Flow Response}

/-- A request that has nothing more to send has got the answer of the
talk. -/
theorem done_of_not_follows
    (stands : Stands svc client p authorization (deeds token c sent) flow)
    (ends : Access.Ends flow)
    (own : Service.bearer authorization = .ok token)
    (last : ∀ s, ¬ (svc.plan client c p).Follows (sent ++ [s])) :
    ∃ response, flow = .done response
      ∧ ((response.status = 200
          ∧ ∃ created, (svc.plan client c p).Completed created sent)
        ∨ (400 ≤ response.status ∧ (svc.plan client c p).Stopped sent)) := by
  -- the only thing to do for a request that has found its session is to
  -- send what the publication needs next
  have hstuck : ∀ deed,
      ¬ Permits svc client p authorization (deeds token c sent) deed := by
    intro deed hpermits
    obtain ⟨s, hs⟩ := follows_of_permits hpermits
    exact last s hs
  obtain ⟨response, rfl, hanswered⟩ :=
    Flow.done_of_stuck stands.obeys ends hstuck
  exact ⟨response, rfl, answered_cases own hanswered⟩

/-- What stands between a request and its answer makes it a publication. -/
theorem isPublication_of_stands
    (stands : Stands svc client p authorization (deeds token c sent) flow)
    (ends : Access.Ends flow)
    (own : Service.bearer authorization = .ok token)
    (follows : (svc.plan client c p).Follows sent) :
    IsPublication svc client p c (svc.plan client c p) sent flow where
  protocol := Plan.protocol_of_follows follows
  lookup := ⟨_, Text.isSegmentOf_encodeSegment _, isRequest_request ..⟩
  creation := ⟨isRequest_request .., _, rfl, rfl,
    onBehalfOf_payload (svc.datasourceParams c)⟩
  publication uid := ⟨isRequest_request .., _, rfl,
    shows_payload ((svc.plan client c p).dashboard uid)⟩
  success := by
    constructor
    · rintro ⟨response, rfl, hstatus⟩
      -- answered with success, the talk has completed
      rcases answered_cases own stands.obeys with
        ⟨-, created, hcompleted⟩ | ⟨herror, -⟩
      · obtain ⟨s, hs, hpublishes⟩ := Plan.publishes_of_completed hcompleted
        exact ⟨Plan.succeeds_of_completed hcompleted, s, hs, created,
          hpublishes⟩
      · omega
    · rintro ⟨-, s, hs, created, hpublishes⟩
      -- the dashboard was created, so nothing is left to send and no error
      -- is left to answer
      have hcompleted := Plan.completed_of_publishes follows hs hpublishes
      obtain ⟨response, rfl, ⟨hstatus, -⟩ | ⟨-, hstopped⟩⟩ :=
        done_of_not_follows stands ends own
          (Plan.not_follows_of_publishes hpublishes hs)
      · exact ⟨response, rfl, hstatus⟩
      · exact absurd hcompleted (Plan.not_completed_of_stopped hstopped)
  failure := by
    rintro ⟨s, hs, hfails⟩
    have hlast : ∀ s', ¬ (svc.plan client c p).Follows (sent ++ [s']) := by
      intro s' hfollows
      have hstops := (Plan.protocol_of_follows hfollows).stops s
      rw [List.dropLast_concat] at hstops
      exact hfails (hstops hs)
    obtain ⟨response, rfl, ⟨-, created, hcompleted⟩ | ⟨herror, -⟩⟩ :=
      done_of_not_follows stands ends own hlast
    · exact absurd (Plan.succeeds_of_completed hcompleted s hs) hfails
    · exact ⟨response, rfl, herror⟩
  goesOn := by
    cases flow with
    | done response => exact .inl ⟨response, rfl⟩
    | crash => exact ends.elim
    | session | remote | clock => exact .inr fun _ _ => rfl

end Publishing

/-- In every run, whatever the dashboard server answers, a request to
publish a query that has found its session sends what a publication of the
query in its body sends, and is answered as that has come out. -/
theorem isPublication_run (svc : Service) (store : SessionStore)
    (moves : List Move) {client : Client} {p : Publication} {i : Nat}
    {request : Request} {token : String} {c : Credentials}
    (configured : svc.grafana = some client)
    (query : Text.isBlankText p.fluxQuery = false)
    (title : Text.isBlankText p.title = false)
    (arrived : (arrivals moves)[i]? = some request)
    (asked : request.asked? = some (.publish p))
    (resolved : .session (.credentials token) (.ok c)
      ∈ deedsOf i (Server.run svc { store } moves).log) :
    Bears request.authorization token ∧ p.IsPosted request.body
      ∧ ∃ sent flow,
        deedsOf i (Server.run svc { store } moves).log
            = .session (.credentials token) (.ok c) :: sent.map Sent.deed
          ∧ (Server.run svc { store } moves).flows[i]? = some flow
          ∧ IsPublication svc client p c (svc.plan client c p) sent flow := by
  obtain ⟨flow, hflow, hstands, hends⟩ :=
    Publishing.exists_stands configured query title arrived asked
  obtain ⟨own, sent, hpast, hfollows⟩ :=
    Publishing.sent_of_stands hstands resolved
  rw [hpast] at hstands
  exact ⟨Service.bearer_eq_ok_iff.1 own,
    Publication.isPosted_of_action (Request.action_of_asked? asked), sent,
    flow, hpast, hflow,
    Publishing.isPublication_of_stands hstands hends own hfollows⟩

/-- What a dashboard server answers that has no datasource and creates what
it is asked for. -/
def creatingWorld : World where
  now := ⟨0⟩
  fresh := "bob"
  answer
    | .grafana request =>
      if request.method = "GET" then .replied ⟨404, ""⟩
      else .replied ⟨200, "\x7b\"id\": 1, \"uid\": \"d1\", "
        ++ "\"name\": \"flux\", \"url\": \"/d/1\"\x7d"⟩
    | call => sampleAnswer call

/-- A request to publish a query that begins with a blank. -/
def creatingRequest : Request :=
  sampleRequest "POST" "/api/v1/grafana/dashboard"
    "\x7b\"fluxQuery\": \" buckets()\", \"title\": \"Buckets\"\x7d"

/-- The query is published for the session that there is. -/
def creatingRun : List Move :=
  .arrive "0" creatingRequest :: List.replicate 4 (.step 0 creatingWorld)

/-- The credentials that a step has found with a token. -/
def Deed.resolved? : Deed → Option (String × Credentials)
  | .session (.credentials token) (.ok c) => some (token, c)
  | _ => none

theorem Deed.eq_of_resolved? {deed : Deed} {token : String} {c : Credentials}
    (h : deed.resolved? = some (token, c)) :
    deed = .session (.credentials token) (.ok c) := by
  cases deed with
  | remote | clock => cases h
  | session op answer =>
      cases op with
      | credentials =>
          cases answer with
          | error => cases h
          | ok => cases h; rfl
      | create | edit | view | remove | purge | size => cases h

theorem isPublication_creatingRun :
    let client : Client := ⟨"http://localhost:3000", "http://localhost:3000",
      "Bearer editor"⟩
    let svc := { sampleService with grafana := some client }
    let server := Server.run svc { store := sampleStore } creatingRun
    let p : Publication := ⟨" buckets()", "Buckets", none⟩
    let c : Credentials := ⟨"secret", "acme"⟩
    (deedsOf 0 server.log).map Deed.resolved?
        = [some ("alice", c), none, none, none]
      ∧ server.flows.map (fun
        | .done response => response.status
        | _ => 0) = [200]
      ∧ ∃ sent flow, deedsOf 0 server.log
          = .session (.credentials "alice") (.ok c) :: sent.map Sent.deed
        ∧ server.flows[0]? = some flow
        ∧ IsPublication svc client p c (svc.plan client c p) sent flow := by
  intro client svc server p c
  have hasked : creatingRequest.asked? = some (.publish p) := by
    decide +kernel
  have hrun : (deedsOf 0 server.log).map Deed.resolved?
        = [some ("alice", c), none, none, none]
      ∧ server.flows.map (fun
        | .done response => response.status
        | _ => 0) = [200] := by decide +kernel
  obtain ⟨deed, hdeed, hresolved⟩ :=
    List.mem_map.1 (hrun.1 ▸ List.mem_cons_self)
  rw [Deed.eq_of_resolved? hresolved] at hdeed
  refine ⟨hrun.1, hrun.2, ?_⟩
  exact (isPublication_run svc sampleStore creatingRun rfl
    (by decide +kernel) (by decide +kernel) rfl hasked hdeed).2.2

end FluxComposer
