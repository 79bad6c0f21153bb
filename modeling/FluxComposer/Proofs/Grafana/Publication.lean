import FluxComposer.Proofs.Grafana.Body
import Mathlib.Data.List.Induction
/-
What is sent to publish a dashboard. The datasource is looked up by its
name, it is created where the server has none, and then the dashboard is
created for the datasource that one of the two has delivered. Whatever the
server answers, what has been sent is a beginning of that (`Follows`), and
the talk ends in one of two ways: the dashboard was created (`Completed`),
or it stopped at a request that failed or could not be made (`Stopped`).

What a talk has sent is kept as a list, and `Talk.Keeps` asks of each of
its requests what must hold of the list with the answer behind it, so the
functions of the client are gone through one by one. The rest is read off
the few lists that there are: the rules of a publication
(`protocol_of_follows`), and that the dashboard is created by the last
request (`completed_of_publishes`) or not at all
(`not_completed_of_stopped`).
-/
namespace FluxComposer

namespace Http

/-- A request to another server, with what has become of it. -/
structure Sent where
  request : Request
  answer : Exchange

namespace Talk

variable {α β : Type} {inv : List Sent → Prop}
  {post : List Sent → α → Prop} {sent : List Sent}

/-- Whatever is answered, what has been sent satisfies `inv` after each
request, and the result `post`. -/
def Keeps (inv : List Sent → Prop) (post : List Sent → α → Prop)
    (sent : List Sent) : Talk α → Prop
  | .done a => post sent a
  | .send request next => ∀ answer, inv (sent ++ [⟨request, answer⟩])
      ∧ (next answer).Keeps inv post (sent ++ [⟨request, answer⟩])

/-- Nothing more is sent, so only the result is asked for. -/
theorem keeps_done (a : α) :
    (done a).Keeps inv post sent ↔ post sent a := Iff.rfl

/-- One request is sent, and then the rest of the talk. -/
theorem keeps_send {request : Request} {next : Exchange → Talk α} :
    (send request next).Keeps inv post sent
      ↔ ∀ answer, inv (sent ++ [⟨request, answer⟩])
        ∧ (next answer).Keeps inv post (sent ++ [⟨request, answer⟩]) :=
  Iff.rfl

/-- What the result satisfies may be weakened. -/
theorem keeps_mono {post' : List Sent → α → Prop} {talk : Talk α}
    (weaker : ∀ sent a, post sent a → post' sent a)
    (h : talk.Keeps inv post sent) : talk.Keeps inv post' sent := by
  induction talk generalizing sent with
  | done a => exact weaker sent a h
  | send request next ih =>
      exact fun answer => ⟨(h answer).1, ih answer (h answer).2⟩

/-- A talk that goes on with another is gone through in two parts, of which
the second begins with what the first has sent. -/
theorem keeps_bind {post : List Sent → β → Prop} (talk : Talk α)
    (f : α → Talk β) : (talk >>= f).Keeps inv post sent
      ↔ talk.Keeps inv (fun sent a => (f a).Keeps inv post sent) sent := by
  show (talk.bind f).Keeps inv post sent ↔ _
  induction talk generalizing sent with
  | done a => rfl
  | send request next ih =>
      exact forall_congr' fun answer => and_congr_right' (ih answer)

end Talk
end Http

-- from here on talks are taken apart by the laws above alone
attribute [irreducible] Http.Talk.Keeps

namespace Grafana

open Http

-- ============================================================ requests

namespace Client

/-- What has become of one request: it could not be made, or was
answered. -/
inductive Asked (request : Http.Request) (before : List Sent) :
    List Sent → Except GrafanaError Reply → Prop where
  | unsent (unsendable : request.isSendable = false) :
      Asked request before before (.error (.request "builder error"))
  | answered (answer : Exchange) :
      Asked request before (before ++ [⟨request, answer⟩]) (outcome answer)

/-- One request keeps `inv` where all its answers do. -/
theorem keeps_ask {inv : List Sent → Prop} {request : Http.Request}
    {sent : List Sent} (kept : ∀ answer, inv (sent ++ [⟨request, answer⟩])) :
    (ask request).Keeps inv (Asked request sent) sent := by
  unfold ask
  split
  case isTrue =>
    refine Talk.keeps_send.2 fun answer => ⟨kept answer, ?_⟩
    exact (Talk.keeps_done _).2 (.answered answer)
  case isFalse h =>
    exact (Talk.keeps_done _).2 (.unsent (by simpa using h))

variable {answer : Exchange} {r : Reply}

/-- A request has a reply to decode only if the server replied, and reported
success. -/
theorem outcome_eq_ok :
    outcome answer = .ok r
      ↔ answer = .replied r ∧ 200 ≤ r.status ∧ r.status < 300 := by
  have hsuccess (reply : Reply) : reply.isSuccess = true
      ↔ 200 ≤ reply.status ∧ reply.status < 300 := by
    simp [Reply.isSuccess]
  cases answer with
  | replied reply =>
      simp only [outcome, Exchange.replied.injEq, hsuccess]
      split
      case isTrue hstatus =>
        rw [Except.ok.injEq]
        exact ⟨fun h => ⟨h, h ▸ hstatus⟩, And.left⟩
      case isFalse hfails =>
        exact ⟨nofun, fun h => absurd (h.1 ▸ h.2) hfails⟩
  | refused | timedOut | failed => exact ⟨nofun, nofun⟩

/-- A request whose answer is decoded either delivers a value, or fails
where no value could be had of the answer. -/
theorem keeps_receive {α : Type} {decode : Reply → Except GrafanaError α}
    {request : Http.Request} {inv : List Sent → Prop}
    {post : List Sent → Except GrafanaError α → Prop} {sent : List Sent}
    (kept : ∀ answer, inv (sent ++ [⟨request, answer⟩]))
    (unsent : request.isSendable = false → ∀ e, post sent (.error e))
    (received : ∀ answer r a, outcome answer = .ok r → decode r = .ok a →
      post (sent ++ [⟨request, answer⟩]) (.ok a))
    (failed : ∀ answer e,
      (∀ r a, outcome answer = .ok r → decode r ≠ .ok a) →
      post (sent ++ [⟨request, answer⟩]) (.error e)) :
    (do let r ← ask request; return r >>= decode : Talk _).Keeps inv post
      sent := by
  refine (Talk.keeps_bind _ _).2 (Talk.keeps_mono ?_ (keeps_ask kept))
  intro sent' r h
  refine (Talk.keeps_done _).2 ?_
  cases h with
  | unsent unsendable => exact unsent unsendable _
  | answered answer =>
      -- a reply may still carry a body that is not decoded
      cases hr : outcome answer with
      | error e =>
          exact failed answer e fun r a h => by rw [hr] at h; cases h
      | ok r =>
          show post _ (decode r)
          cases ha : decode r with
          | ok a => exact received answer r a hr ha
          | error e =>
              refine failed answer e fun r' a hr' ha' => ?_
              rw [hr] at hr'
              cases hr'
              rw [ha] at ha'
              cases ha'

/-- An answer that there is no such thing does not report success. -/
theorem outcome_eq_missing {body : String} :
    outcome answer = .error (.api 404 body)
      ↔ answer = .replied ⟨404, body⟩ := by
  constructor
  · intro h
    cases answer with
    | replied reply =>
        simp only [outcome] at h
        split at h
        · cases h
        · cases reply
          cases h
          rfl
    | refused | timedOut | failed => cases h
  · intro h
    subst h
    rfl

/-- A body is taken where it can be decoded. -/
theorem jsonBody_eq_ok {α : Type} {decode : Json.Decoder α}
    {error : GrafanaError} {a : α} :
    jsonBody decode error r = .ok a ↔ r.decode? decode = some a := by
  unfold jsonBody
  split
  case h_1 b hb => rw [hb, Except.ok.injEq, Option.some.injEq]
  case h_2 hb => rw [hb]; exact ⟨nofun, nofun⟩

end Client

/-- What a publication needs: the server, the datasource that is looked up
or created, and the dashboard for the datasource with an id. -/
structure Plan where
  client : Client
  source : DatasourceParams
  dashboard : String → Dashboard

namespace Plan

variable (plan : Plan)

/-- The request that looks the datasource up. -/
def lookup : Http.Request :=
  plan.client.request "GET"
    ("/api/datasources/name/" ++ Text.encodeSegment plan.source.name)

/-- The request that creates the datasource. -/
def creation : Http.Request :=
  plan.client.request "POST" "/api/datasources" (some plan.source.payload)

/-- The request that creates the dashboard for a datasource. -/
def publication (uid : String) : Http.Request :=
  plan.client.request "POST" "/api/dashboards/db"
    (some (plan.dashboard uid).payload)

/-- The requests of a plan differ by method or address, so what has been
sent says by itself which of them it was. -/
theorem lookup_ne_creation : plan.lookup ≠ plan.creation := by
  intro h
  have hmethod : "GET" = "POST" := congrArg Http.Request.method h
  exact absurd hmethod (by decide)

/-- The lookup is a GET and the publication a POST. -/
theorem lookup_ne_publication (uid : String) :
    plan.lookup ≠ plan.publication uid := by
  intro h
  have hmethod : "GET" = "POST" := congrArg Http.Request.method h
  exact absurd hmethod (by decide)

/-- Datasources and dashboards are created at addresses of different
length. -/
theorem creation_ne_publication (uid : String) :
    plan.creation ≠ plan.publication uid := by
  intro h
  have hurl : plan.client.baseUrl ++ "/api/datasources"
      = plan.client.baseUrl ++ "/api/dashboards/db" :=
    congrArg Http.Request.url h
  have hlength := congrArg String.length hurl
  rw [String.length_append, String.length_append] at hlength
  exact absurd (Nat.add_left_cancel hlength) (by decide)

-- ============================================================= answers

variable {plan : Plan} {sent : List Sent} {s : Sent} {d : Datasource}
  {created : Created} {answer : Exchange}

/-- The lookup was answered that there is no such datasource. -/
structure Misses (plan : Plan) (s : Sent) : Prop where
  request : s.request = plan.lookup
  answered : ∃ body, s.answer = .replied ⟨404, body⟩

/-- A datasource was found, or it was created; either way the answer
reports success. The body of the one is the datasource, that of the other
tells of it. -/
inductive Delivers (plan : Plan) (d : Datasource) (s : Sent) : Prop where
  | found {r : Reply} (request : s.request = plan.lookup)
      (answer : s.answer = .replied r)
      (success : 200 ≤ r.status ∧ r.status < 300)
      (body : d.IsText r.body)
  | created {r : Reply} (request : s.request = plan.creation)
      (answer : s.answer = .replied r)
      (success : 200 ≤ r.status ∧ r.status < 300)
      (body : d.IsTold r.body)

/-- The dashboard was created: the answer reports success and its body
is the dashboard. -/
structure Publishes (plan : Plan) (created : Created) (s : Sent) :
    Prop where
  request : ∃ uid, s.request = plan.publication uid
  answered : ∃ r, s.answer = .replied r
    ∧ (200 ≤ r.status ∧ r.status < 300) ∧ created.IsText r.body

/-- A request after which a publication goes on or is complete. -/
inductive Succeeds (plan : Plan) (s : Sent) : Prop where
  | misses (missing : plan.Misses s)
  | delivers {d : Datasource} (delivered : plan.Delivers d s)
  | publishes {created : Created} (published : plan.Publishes created s)

/-- A lookup succeeds with a datasource or without any. -/
theorem succeeds_lookup (h : plan.Succeeds ⟨plan.lookup, answer⟩) :
    (∃ body, Client.outcome answer = .error (.api 404 body))
      ∨ ∃ (r : Reply) (d : Datasource), Client.outcome answer = .ok r
        ∧ d.IsText r.body := by
  cases h with
  | misses missing =>
      obtain ⟨body, hanswer⟩ := missing.answered
      exact .inl ⟨body, Client.outcome_eq_missing.2 hanswer⟩
  | delivers delivered =>
      cases delivered with
      | found _ hanswer hsuccess hbody =>
          exact .inr ⟨_, _, Client.outcome_eq_ok.2 ⟨hanswer, hsuccess⟩, hbody⟩
      | created hrequest => exact absurd hrequest plan.lookup_ne_creation
  | publishes published =>
      obtain ⟨uid, hrequest⟩ := published.request
      exact absurd hrequest (plan.lookup_ne_publication uid)

/-- The creation succeeds with a datasource. -/
theorem succeeds_creation (h : plan.Succeeds ⟨plan.creation, answer⟩) :
    ∃ (r : Reply) (d : Datasource), Client.outcome answer = .ok r
      ∧ d.IsTold r.body := by
  cases h with
  | misses missing =>
      exact absurd missing.request.symm plan.lookup_ne_creation
  | delivers delivered =>
      cases delivered with
      | found hrequest => exact absurd hrequest.symm plan.lookup_ne_creation
      | created _ hanswer hsuccess hbody =>
          exact ⟨_, _, Client.outcome_eq_ok.2 ⟨hanswer, hsuccess⟩, hbody⟩
  | publishes published =>
      obtain ⟨uid, hrequest⟩ := published.request
      exact absurd hrequest (plan.creation_ne_publication uid)

/-- The publication succeeds with a dashboard. -/
theorem succeeds_publication {uid : String}
    (h : plan.Succeeds ⟨plan.publication uid, answer⟩) :
    ∃ (r : Reply) (created : Created), Client.outcome answer = .ok r
      ∧ created.IsText r.body := by
  cases h with
  | misses missing =>
      exact absurd missing.request.symm (plan.lookup_ne_publication uid)
  | delivers delivered =>
      cases delivered with
      | found hrequest =>
          exact absurd hrequest.symm (plan.lookup_ne_publication uid)
      | created hrequest =>
          exact absurd hrequest.symm (plan.creation_ne_publication uid)
  | publishes published =>
      obtain ⟨r, hanswer, hsuccess, hbody⟩ := published.answered
      exact ⟨r, _, Client.outcome_eq_ok.2 ⟨hanswer, hsuccess⟩, hbody⟩

-- =============================================================== order

/-- What has been sent has just delivered a datasource. -/
inductive Ready (plan : Plan) (d : Datasource) : List Sent → Prop where
  | found {s : Sent} (request : s.request = plan.lookup)
      (delivered : plan.Delivers d s) : Ready plan d [s]
  | created {s s' : Sent} (missing : plan.Misses s)
      (request : s'.request = plan.creation)
      (delivered : plan.Delivers d s') : Ready plan d [s, s']

/-- What may have been sent. -/
inductive Follows (plan : Plan) : List Sent → Prop where
  | nothing : Follows plan []
  | lookup (answer : Exchange) : Follows plan [⟨plan.lookup, answer⟩]
  | creation {s : Sent} (missing : plan.Misses s) (answer : Exchange) :
      Follows plan [s, ⟨plan.creation, answer⟩]
  | publication {d : Datasource} {sent : List Sent}
      (ready : plan.Ready d sent) (answer : Exchange) :
      Follows plan (sent ++ [⟨plan.publication d.uid, answer⟩])

/-- What has been sent when the dashboard was created. -/
inductive Completed (plan : Plan) (created : Created) :
    List Sent → Prop where
  | completed {d : Datasource} {sent : List Sent} {s : Sent}
      (ready : plan.Ready d sent)
      (request : s.request = plan.publication d.uid)
      (published : plan.Publishes created s) :
      Completed plan created (sent ++ [s])

/-- Why nothing more is sent: the last request has failed, or the next one
cannot be made. -/
inductive Stopped (plan : Plan) (sent : List Sent) : Prop where
  | failed {s : Sent} (last : sent.getLast? = some s)
      (fails : ¬ plan.Succeeds s)
  | unsendable {request : Http.Request}
      (next : ∀ answer, plan.Follows (sent ++ [⟨request, answer⟩]))
      (unsendable : request.isSendable = false)

-- ============================================================== client

/-- The lookup finds the datasource, finds that there is none, or the talk
stops at it. -/
theorem keeps_datasourceByName :
    (plan.client.datasourceByName plan.source.name).Keeps plan.Follows
      (fun sent r => match r with
        | .ok (some d) => plan.Ready d sent
        | .ok none => ∃ s, plan.Misses s ∧ sent = [s]
        | .error _ => plan.Stopped sent) [] := by
  unfold Client.datasourceByName
  refine (Talk.keeps_bind _ _).2
    (Talk.keeps_mono ?_ (Client.keeps_ask .lookup))
  intro sent r h
  cases h with
  | unsent unsendable =>
      exact (Talk.keeps_done _).2 (.unsendable .lookup unsendable)
  | answered answer =>
      split
      case h_1 r hr =>
        obtain ⟨rfl, hsuccess⟩ := Client.outcome_eq_ok.1 hr
        -- a body that is no datasource is a failure, whatever the status
        cases hbody : Client.jsonBody Datasource.decode
            Client.unreadable r with
        | ok d =>
            exact (Talk.keeps_done _).2 (.found rfl
              (.found rfl rfl hsuccess
                (Datasource.decode?_eq_some_iff.1
                  (Client.jsonBody_eq_ok.1 hbody))))
        | error e =>
            refine (Talk.keeps_done _).2 (.failed rfl fun hsucceeds => ?_)
            obtain ⟨body, h404⟩ | ⟨r', d, hr', hd⟩ :=
              succeeds_lookup hsucceeds
            · rw [hr] at h404; cases h404
            · rw [hr] at hr'
              cases hr'
              rw [Client.jsonBody_eq_ok.2
                (Datasource.decode?_eq_some_iff.2 hd)] at hbody
              cases hbody
      case h_2 body hr =>
        exact (Talk.keeps_done _).2
          ⟨_, ⟨rfl, body, Client.outcome_eq_missing.1 hr⟩, rfl⟩
      case h_3 e hother hr =>
        refine (Talk.keeps_done _).2 (.failed rfl fun hsucceeds => ?_)
        obtain ⟨body, h404⟩ | ⟨r, d, hr', -⟩ := succeeds_lookup hsucceeds
        · rw [hr] at h404
          cases h404
          exact hother body rfl
        · rw [hr] at hr'
          cases hr'

/-- Where the lookup has found nothing, the creation delivers the
datasource, or the talk stops at it. -/
theorem keeps_createDatasource (missing : plan.Misses s) :
    (plan.client.createDatasource plan.source).Keeps plan.Follows
      (fun sent r => match r with
        | .ok d => plan.Ready d sent
        | .error _ => plan.Stopped sent) [s] := by
  refine Client.keeps_receive (.creation missing)
    (fun unsendable _ => .unsendable (.creation missing) unsendable) ?_ ?_
  · intro answer r d hr hd
    obtain ⟨rfl, hsuccess⟩ := Client.outcome_eq_ok.1 hr
    exact .created missing rfl (.created rfl rfl hsuccess
      (Client.createdDatasource_eq_ok_iff.1 hd))
  · intro answer e hfails
    refine .failed rfl fun hsucceeds => ?_
    obtain ⟨r, d, hr, hd⟩ := succeeds_creation hsucceeds
    exact hfails r d hr (Client.createdDatasource_eq_ok_iff.2 hd)

/-- After the lookup, and the creation where it is needed, there is a
datasource, or the talk has stopped. -/
theorem keeps_ensureDatasource :
    (plan.client.ensureDatasource plan.source).Keeps plan.Follows
      (fun sent r => match r with
        | .ok d => plan.Ready d sent
        | .error _ => plan.Stopped sent) [] := by
  unfold Client.ensureDatasource
  refine (Talk.keeps_bind _ _).2 (Talk.keeps_mono ?_ keeps_datasourceByName)
  intro sent r h
  split
  case h_1 d => exact (Talk.keeps_done _).2 h
  case h_2 =>
    obtain ⟨s, hmisses, rfl⟩ := h
    exact keeps_createDatasource hmisses
  case h_3 e => exact (Talk.keeps_done _).2 h

/-- Once there is a datasource, the dashboard is created, or the talk stops
at its creation. -/
theorem keeps_createDashboard (ready : plan.Ready d sent) :
    (plan.client.createDashboard (plan.dashboard d.uid)).Keeps plan.Follows
      (fun sent r => match r with
        | .ok created => plan.Completed created sent
        | .error _ => plan.Stopped sent) sent := by
  refine Client.keeps_receive (.publication ready)
    (fun unsendable _ => .unsendable (.publication ready) unsendable) ?_ ?_
  · intro answer r created hr hcreated
    obtain ⟨rfl, hsuccess⟩ := Client.outcome_eq_ok.1 hr
    exact .completed ready rfl
      ⟨⟨_, rfl⟩, r, rfl, hsuccess,
        Created.decode?_eq_some_iff.1 (Client.jsonBody_eq_ok.1 hcreated)⟩
  · intro answer e hfails
    refine .failed (List.getLast?_concat ..) fun hsucceeds => ?_
    obtain ⟨r, created, hr, hcreated⟩ := succeeds_publication hsucceeds
    exact hfails r created hr
      (Client.jsonBody_eq_ok.2 (Created.decode?_eq_some_iff.2 hcreated))

-- ============================================================ protocol

/-- What delivers a datasource is a beginning of a publication. -/
theorem follows_of_ready (ready : plan.Ready d sent) : plan.Follows sent := by
  cases ready with
  | @found s request delivered =>
      obtain ⟨_, answer⟩ := s
      cases request
      exact .lookup answer
  | @created _ s' missing request delivered =>
      obtain ⟨_, answer⟩ := s'
      cases request
      exact .creation missing answer

/-- What was sent before there is a datasource has succeeded, and was for
no dashboard. -/
theorem succeeds_of_mem_ready (ready : plan.Ready d sent) (hs : s ∈ sent) :
    plan.Succeeds s ∧ ∀ uid, s.request ≠ plan.publication uid := by
  cases ready with
  | found request delivered =>
      obtain rfl := List.mem_singleton.1 hs
      exact ⟨.delivers delivered, fun uid hpublication =>
        plan.lookup_ne_publication uid (request.symm.trans hpublication)⟩
  | created missing request delivered =>
      simp only [List.mem_cons, List.not_mem_nil, or_false] at hs
      rcases hs with rfl | rfl
      · exact ⟨.misses missing, fun uid hpublication =>
          plan.lookup_ne_publication uid
            (missing.request.symm.trans hpublication)⟩
      · exact ⟨.delivers delivered, fun uid hpublication =>
          plan.creation_ne_publication uid
            (request.symm.trans hpublication)⟩

/-- The datasource that has just been delivered was delivered last. -/
theorem delivers_of_ready (ready : plan.Ready d sent) :
    ∃ s, sent.getLast? = some s ∧ plan.Delivers d s := by
  cases ready with
  | found request delivered => exact ⟨_, rfl, delivered⟩
  | created missing request delivered => exact ⟨_, rfl, delivered⟩

/-- A lookup does not both find the datasource and miss it. -/
theorem not_misses_of_delivers (h : plan.Delivers d s) :
    ¬ plan.Misses s := by
  intro missing
  cases h with
  | found _ hanswer hsuccess =>
      obtain ⟨body, hmissing⟩ := missing.answered
      obtain rfl := Exchange.replied.inj (hmissing.symm.trans hanswer)
      have hlow : 404 < 300 := hsuccess.2
      omega
  | created hrequest =>
      exact plan.lookup_ne_creation (missing.request.symm.trans hrequest)

/-- What the last request was for, by what was sent before it. -/
theorem follows_concat (h : plan.Follows (sent ++ [s])) :
    (sent = [] ∧ s.request = plan.lookup)
      ∨ (∃ s', sent = [s'] ∧ plan.Misses s' ∧ s.request = plan.creation)
      ∨ ∃ d, plan.Ready d sent ∧ s.request = plan.publication d.uid := by
  -- the list is a variable for the case split, and its end is compared
  -- afterwards
  generalize hlonger : sent ++ [s] = longer at h
  cases h with
  | nothing => exact absurd hlonger (List.concat_ne_nil _ _)
  | lookup answer =>
      have hsplit : sent ++ [s] = [] ++ [⟨plan.lookup, answer⟩] := hlonger
      obtain ⟨rfl, rfl⟩ := List.append_singleton_inj.1 hsplit
      exact .inl ⟨rfl, rfl⟩
  | @creation s' missing answer =>
      have hsplit : sent ++ [s] = [s'] ++ [⟨plan.creation, answer⟩] :=
        hlonger
      obtain ⟨rfl, rfl⟩ := List.append_singleton_inj.1 hsplit
      exact .inr (.inl ⟨s', rfl, missing, rfl⟩)
  | publication ready answer =>
      obtain ⟨rfl, rfl⟩ := List.append_singleton_inj.1 hlonger
      exact .inr (.inr ⟨_, ready, rfl⟩)

/-- A dashboard is created for the datasource that was delivered before. -/
theorem ready_of_publication {uid : String}
    (h : plan.Follows (sent ++ [s]))
    (request : s.request = plan.publication uid) :
    ∃ d, plan.Ready d sent ∧ s.request = plan.publication d.uid := by
  rcases follows_concat h with
    ⟨-, hlookup⟩ | ⟨s', -, -, hcreation⟩ | hready
  · exact absurd (hlookup.symm.trans request) (plan.lookup_ne_publication uid)
  · exact absurd (hcreation.symm.trans request)
      (plan.creation_ne_publication uid)
  · exact hready

/-- After the dashboard, nothing is sent. -/
theorem not_follows_of_publishes (published : plan.Publishes created s)
    (among : s ∈ sent) (s' : Sent) : ¬ plan.Follows (sent ++ [s']) := by
  obtain ⟨uid, hrequest⟩ := published.request
  intro h
  rcases follows_concat h with
    ⟨rfl, -⟩ | ⟨s₀, rfl, missing, -⟩ | ⟨d, hready, -⟩
  · cases among
  · obtain rfl := List.mem_singleton.1 among
    exact plan.lookup_ne_publication uid
      (missing.request.symm.trans hrequest)
  · exact (succeeds_of_mem_ready hready among).2 uid hrequest

/-- Without its last request, a beginning is still one. -/
theorem follows_dropLast (h : plan.Follows sent) :
    plan.Follows sent.dropLast := by
  cases h with
  | nothing | lookup => exact .nothing
  | @creation s missing answer =>
      obtain ⟨_, answer⟩ := s
      cases missing.request
      exact .lookup answer
  | publication ready answer =>
      rw [List.dropLast_concat]
      exact follows_of_ready ready

/-- Every beginning of a beginning is one. -/
theorem follows_of_earlier {front : List Sent} (h : plan.Follows sent)
    (earlier : front <+: sent) : plan.Follows front := by
  induction sent using List.reverseRecOn with
  | nil => exact List.prefix_nil.1 earlier ▸ .nothing
  | append_singleton sent s ih =>
      rcases List.prefix_concat_iff.1 earlier with rfl | hearlier
      · exact h
      · have hdropped := follows_dropLast h
        rw [List.dropLast_concat] at hdropped
        exact ih hdropped hearlier

/-- The rules of a publication, for what has been sent. -/
structure Protocol (plan : Plan) (sent : List Sent) : Prop where
  /-- Where the datasource is not found to be missing, it is looked up, and
  the dashboard is created. -/
  found : (∀ s ∈ sent, ¬ plan.Misses s) → ∃ uid,
    sent.map (·.request) <+: [plan.lookup, plan.publication uid]
  /-- Where it is, the datasource is created in between. -/
  missing : (∃ s ∈ sent, plan.Misses s) → ∃ uid,
    sent.map (·.request)
      <+: [plan.lookup, plan.creation, plan.publication uid]
  /-- The dashboard is for the datasource that has just been delivered. -/
  delivered : ∀ {front : List Sent} {s : Sent} {uid : String},
    front ++ [s] <+: sent → s.request = plan.publication uid →
    ∃ last d, front.getLast? = some last ∧ plan.Delivers d last
      ∧ s.request = plan.publication d.uid
  /-- Nothing is sent after a request that has failed. -/
  stops : ∀ s ∈ sent.dropLast, plan.Succeeds s

/-- The rules hold of every beginning: there are four kinds of them, and
each rule is read off each. -/
theorem protocol_of_follows (h : plan.Follows sent) : plan.Protocol sent where
  found := by
    intro hfound
    cases h with
    | nothing => exact ⟨"", List.nil_prefix⟩
    | lookup answer => exact ⟨"", List.prefix_append [_] _⟩
    | creation missing answer =>
        exact absurd missing (hfound _ List.mem_cons_self)
    | @publication d _ ready answer =>
        cases ready with
        | found request delivered =>
            refine ⟨d.uid, ?_⟩
            simp [request]
        | created missing request delivered =>
            exact absurd missing (hfound _ List.mem_cons_self)
  missing := by
    intro hmissing
    obtain ⟨s, hs, hmisses⟩ := hmissing
    cases h with
    | nothing => cases hs
    | lookup answer => exact ⟨"", List.prefix_append [_] _⟩
    | creation missing answer =>
        refine ⟨"", ?_⟩
        simp [missing.request]
    | @publication d _ ready answer =>
        cases ready with
        | found request delivered =>
            simp only [List.mem_append, List.mem_singleton] at hs
            rcases hs with rfl | rfl
            · exact absurd hmisses (not_misses_of_delivers delivered)
            · exact absurd hmisses.request.symm
                (plan.lookup_ne_publication d.uid)
        | created missing request delivered =>
            refine ⟨d.uid, ?_⟩
            simp [missing.request, request]
  delivered := by
    intro front s uid hfront hrequest
    obtain ⟨d, hready, hpublication⟩ :=
      ready_of_publication (follows_of_earlier h hfront) hrequest
    obtain ⟨last, hlast, hdelivers⟩ := delivers_of_ready hready
    exact ⟨last, d, hlast, hdelivers, hpublication⟩
  stops := by
    intro s hs
    cases h with
    | nothing | lookup => cases hs
    | creation missing answer =>
        obtain rfl := List.mem_singleton.1 hs
        exact .misses missing
    | publication ready answer =>
        rw [List.dropLast_concat] at hs
        exact (succeeds_of_mem_ready ready hs).1

/-- Where the dashboard was created, no request has failed. -/
theorem succeeds_of_completed (h : plan.Completed created sent) :
    ∀ s ∈ sent, plan.Succeeds s := by
  obtain ⟨hready, -, hpublishes⟩ := h
  intro s hs
  rcases List.mem_append.1 hs with hbefore | hlast
  · exact (succeeds_of_mem_ready hready hbefore).1
  · obtain rfl := List.mem_singleton.1 hlast
    exact .publishes hpublishes

/-- Where the dashboard was created, a request has created it. -/
theorem publishes_of_completed (h : plan.Completed created sent) :
    ∃ s ∈ sent, plan.Publishes created s := by
  obtain ⟨-, -, hpublishes⟩ := h
  exact ⟨_, List.mem_append_right _ List.mem_cons_self, hpublishes⟩

/-- A dashboard is created by the last request. -/
theorem completed_of_publishes (h : plan.Follows sent) (among : s ∈ sent)
    (published : plan.Publishes created s) : plan.Completed created sent := by
  obtain ⟨front, rest, rfl⟩ := List.append_of_mem among
  -- where something was sent after it, the talk would have gone on after
  -- the dashboard
  cases rest with
  | cons s' rest =>
      have hfront : front ++ [s] ++ [s'] <+: front ++ s :: s' :: rest :=
        ⟨rest, by simp⟩
      exact absurd (follows_of_earlier h hfront)
        (not_follows_of_publishes published (by simp) s')
  | nil =>
      obtain ⟨uid, hrequest⟩ := published.request
      obtain ⟨d, hready, hpublication⟩ := ready_of_publication h hrequest
      exact .completed hready hpublication published

/-- Where the talk has stopped, no dashboard was created. -/
theorem not_completed_of_stopped (h : plan.Stopped sent) :
    ¬ plan.Completed created sent := by
  intro hcompleted
  cases h with
  | failed last fails =>
      exact fails (succeeds_of_completed hcompleted _
        (List.mem_of_getLast? last))
  | @unsendable request next _ =>
      obtain ⟨s, hs, hpublishes⟩ := publishes_of_completed hcompleted
      exact not_follows_of_publishes hpublishes hs ⟨request, .refused⟩
        (next .refused)

end Plan

end Grafana
end FluxComposer
