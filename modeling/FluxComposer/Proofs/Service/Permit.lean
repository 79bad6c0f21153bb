import FluxComposer.Proofs.Grafana.Body
import FluxComposer.Proofs.Service.Outcome
import FluxComposer.Proofs.Service.Rule
/-
What requests are permitted to do. A request that needs a session may look
up the session of its own token, and may call another server once it has
the credentials of that session, which the call carries. A login may ask
the database about the credentials that it was given and open a session
for them, a logout may close the session of its token, and a report may
count the sessions. A lookup that was refused is the last step of its
request (`Permits`, `Access.rule`).

All handlers keep to it (`keeps_handle`), and none but that of a login ends
without an answer (`returns_handle`).
-/
namespace FluxComposer

-- ================================================================ deeds

/-- The token of the session that a deed looks up. -/
def Deed.lookedUp? : Deed → Option String
  | .session (.credentials token) _ | .session (.edit token _) _
  | .session (.view token) _ => some token
  | _ => none

/-- The credentials for which a deed opens a session. -/
def Deed.created? : Deed → Option Credentials
  | .session (.create c) _ => some c
  | _ => none

/-- Whether a deed is a lookup that was refused. -/
def Deed.isRefused : Deed → Bool
  | .session (.credentials _) (.error _) | .session (.edit ..) (.error _)
  | .session (.view _) (.error _) => true
  | _ => false

/-- Whether a request for an action needs a session. -/
def Action.isProtected : Action → Bool
  | .login .. | .logout | .render _ | .parse _ | .live | .ready
  | .health => false
  | _ => true

/-- The credentials that a login asks a session for. -/
def Action.asked (apiToken organization : String) : Credentials :=
  ⟨Text.trimmed apiToken, Text.trimmed organization⟩

-- ============================================================== requests

/-- A request of a client of the dashboard server: it looks something up,
it creates a datasource for an organization with a token of it, or it
creates a dashboard. -/
inductive Grafana.Client.Asks (client : Client)
    (organization token : String) (r : Http.Request) : Prop where
  | lookup {path : String} (made : IsRequest client "GET" path r)
      (bare : r.body = none) : Asks client organization token r
  | createDatasource {body : Json}
      (made : IsRequest client "POST" "/api/datasources" r)
      (carried : r.body = some body)
      (onBehalf : OnBehalfOf organization token body) :
      Asks client organization token r
  | createDashboard {body : Json} {uid query : String}
      (made : IsRequest client "POST" "/api/dashboards/db" r)
      (carried : r.body = some body) (shows : Shows uid query body) :
      Asks client organization token r

/-- A call of another server carries the credentials of a session: the
database is called with them, and a datasource is created for their
organization with their token. -/
def Remote.Carries (svc : Service) (c : Credentials) {β : Type} :
    Remote β → Prop
  | .buckets c' | .query c' _ | .analyze c' _ => c' = c
  | .grafana request => ∃ client, svc.grafana = some client
      ∧ client.Asks c.organization c.apiToken request

namespace Grafana.Client

open Http

variable {client : Client} {organization token : String}

/-- A client sends its request, or nothing where it cannot be sent. -/
theorem sends_ask {P : Http.Request → Prop} {r : Http.Request} (h : P r) :
    (ask r).Sends P := by
  unfold ask
  split
  · exact Talk.sends_map (Talk.sends_ask h)
  · exact Talk.sends_pure _

/-- What is only read is looked up, without a body. -/
theorem asks_lookup (path : String) :
    client.Asks organization token (client.request "GET" path) :=
  .lookup (isRequest_request client "GET" path none) rfl

/-- A datasource is looked up by its name. -/
theorem sends_datasourceByName (name : String) :
    (client.datasourceByName name).Sends
      (client.Asks organization token) := by
  refine Talk.sends_bind (sends_ask (asks_lookup _)) fun r => ?_
  split <;> exact Talk.sends_pure _

/-- The datasources are looked up. -/
theorem sends_datasources :
    client.datasources.Sends (client.Asks organization token) :=
  Talk.sends_bind (sends_ask (asks_lookup _)) fun _ => Talk.sends_pure _

/-- A datasource is created for the organization and with the token that
the client is told. -/
theorem sends_createDatasource (p : DatasourceParams) :
    (client.createDatasource p).Sends
      (client.Asks p.organization p.token) := by
  refine Talk.sends_bind (sends_ask ?_) fun _ => Talk.sends_pure _
  exact .createDatasource (isRequest_request client _ _ _) rfl
    (onBehalfOf_payload p)

/-- A datasource is looked up, and created where there is none. -/
theorem sends_ensureDatasource (p : DatasourceParams) :
    (client.ensureDatasource p).Sends
      (client.Asks p.organization p.token) := by
  refine Talk.sends_bind (sends_datasourceByName _) fun r => ?_
  split
  · exact Talk.sends_pure _
  · exact sends_createDatasource p
  · exact Talk.sends_pure _

/-- A dashboard is created with the query that it shows. -/
theorem sends_createDashboard (d : Dashboard) :
    (client.createDashboard d).Sends (client.Asks organization token) := by
  refine Talk.sends_bind (sends_ask ?_) fun _ => Talk.sends_pure _
  exact .createDashboard (isRequest_request client _ _ _) rfl
    (shows_payload d)

end Grafana.Client

-- ================================================================ rule

namespace Access

/-- What a request for an action may do next. -/
inductive Permits (svc : Service) (authorization : List String)
    (action : Action) (past : List Deed) : Deed → Prop where
  /-- The session of the own token is looked up. -/
  | lookup {deed : Deed} {token : String}
      (needed : action.isProtected = true)
      (own : Service.bearer authorization = .ok token)
      (looks : deed.lookedUp? = some token) :
      Permits svc authorization action past deed
  /-- Another server is called with the credentials of the session. -/
  | call {β : Type} {call : Remote β} {answer : β} {token : String}
      {c : Credentials} (needed : action.isProtected = true)
      (own : Service.bearer authorization = .ok token)
      (resolved : .session (.credentials token) (.ok c) ∈ past)
      (carries : call.Carries svc c) :
      Permits svc authorization action past (.remote call answer)
  /-- A login asks the database about its credentials. -/
  | ask {apiToken organization : String}
      (login : action = .login apiToken organization)
      (answer : Except InfluxError (List Bucket)) :
      Permits svc authorization action past
        (.remote (.buckets (Action.asked apiToken organization)) answer)
  /-- A login that the database accepts opens a session. -/
  | enter {apiToken organization : String} {buckets : List Bucket}
      (login : action = .login apiToken organization)
      (accepted : .remote (.buckets (Action.asked apiToken organization))
        (.ok buckets) ∈ past)
      (answer : Option Issued) :
      Permits svc authorization action past
        (.session (.create (Action.asked apiToken organization)) answer)
  /-- A logout closes the session of the own token. -/
  | leave {token : String} (logout : action = .logout)
      (own : Service.bearer authorization = .ok token) (answer : Bool) :
      Permits svc authorization action past
        (.session (.remove token) answer)
  /-- A report drops sessions that are over, and counts the others. -/
  | purge (health : action = .health) (answer : Nat) :
      Permits svc authorization action past (.session .purge answer)
  | size (health : action = .health) (answer : Nat) :
      Permits svc authorization action past (.session .size answer)
  | clock (health : action = .health) (now : Instant) :
      Permits svc authorization action past (.clock now)

/-- No lookup was refused. -/
def Unrefused (past : List Deed) : Prop :=
  ∀ deed ∈ past, deed.isRefused = false

/-- A request does what it may do, and nothing after a refusal. -/
def rule (svc : Service) (authorization : List String) (action : Action) :
    Rule := fun past deed =>
  Permits svc authorization action past deed ∧ Unrefused past

/-- A request that is not refused has not been refused a session, and has
a token where it needs one. -/
def Granted (authorization : List String) (action : Action)
    (past : List Deed) : Prop :=
  Unrefused past ∧ (action.isProtected = true →
    ∃ token, Service.bearer authorization = .ok token)

/-- A request that has done nothing was refused nothing. -/
theorem unrefused_nil : Unrefused [] :=
  fun _ hdeed => absurd hdeed List.not_mem_nil

/-- A step that was not refused leaves it so. -/
theorem Unrefused.concat {past : List Deed} {deed : Deed}
    (h : Unrefused past) (granted : deed.isRefused = false) :
    Unrefused (past ++ [deed]) := by
  intro deed' hdeed
  rcases List.mem_append.1 hdeed with hold | hnew
  · exact h deed' hold
  · rwa [List.mem_singleton.1 hnew]

/-- A request has the credentials of the session of a token. -/
structure Resolved (token : String) (c : Credentials) (past : List Deed) :
    Prop where
  unrefused : Unrefused past
  resolved : .session (.credentials token) (.ok c) ∈ past

/-- A request keeps the credentials that it has found, until it is refused
something. -/
theorem Resolved.concat {token : String} {c : Credentials}
    {past : List Deed} {deed : Deed} (h : Resolved token c past)
    (granted : deed.isRefused = false) :
    Resolved token c (past ++ [deed]) :=
  ⟨h.unrefused.concat granted, List.mem_append_left _ h.resolved⟩

-- ============================================================= handlers

section Handlers

open Handler

variable {svc : Service} {authorization : List String} {action : Action}
  {past : List Deed} {token : String} {c : Credentials} {α : Type}

/-- A request that needs a session keeps to the rule, and is granted it
unless it is refused. -/
abbrev Keeps (svc : Service) (authorization : List String)
    (action : Action) (past : List Deed) (h : Handler Response) : Prop :=
  h.Obeys (rule svc authorization action)
    (fun past _ => Granted authorization action past) past

/-- An answer may be given by a request that has a token and was refused
nothing. -/
theorem keeps_pure (own : Service.bearer authorization = .ok token)
    (h : Unrefused past) (r : Response) :
    Keeps svc authorization action past (pure r) :=
  (obeys_pure r).2 ⟨h, fun _ => ⟨token, own⟩⟩

/-- A lookup of the own session. -/
theorem keeps_withinThen {op : SessionOp (Except SessionError α)}
    {next : α → Handler Response} (needed : action.isProtected = true)
    (own : Service.bearer authorization = .ok token) (h : Unrefused past)
    (looks : ∀ answer, (Deed.session op answer).lookedUp? = some token)
    (rest : ∀ a, Keeps svc authorization action
      (past ++ [.session op (.ok a)]) (next a)) :
    Keeps svc authorization action past (within op >>= next) :=
  (obeys_bind _ _).2 ((obeys_within op).2
    ⟨fun answer => ⟨.lookup needed own (looks answer), h⟩, rest⟩)

/-- A request that looks up who is asking goes on with the credentials of
the session of its token. -/
theorem keeps_authenticateThen
    {next : String × Credentials → Handler Response}
    (needed : action.isProtected = true)
    (rest : ∀ token c, Service.bearer authorization = .ok token →
      Resolved token c [.session (.credentials token) (.ok c)] →
      Keeps svc authorization action
        [.session (.credentials token) (.ok c)] (next (token, c))) :
    Keeps svc authorization action []
      (Service.authenticate authorization >>= next) := by
  refine (obeys_bind _ _).2 ((Service.obeys_authenticate _).2 ?_)
  intro token own
  refine ⟨fun answer => ⟨.lookup needed own rfl, unrefused_nil⟩,
    fun c => rest token c own ⟨unrefused_nil.concat rfl, ?_⟩⟩
  exact List.mem_singleton_self _

/-- An edit is a lookup of the own session. -/
theorem keeps_editThen {e : Builder.Edit}
    {next : Builder.Outcome × Builder → Handler Response}
    (needed : action.isProtected = true)
    (own : Service.bearer authorization = .ok token) (h : Unrefused past)
    (rest : ∀ result, Keeps svc authorization action
      (past ++ [.session (.edit token e) (.ok result)]) (next result)) :
    Keeps svc authorization action past (Service.edit token e >>= next) :=
  keeps_withinThen needed own h (fun _ => rfl) rest

/-- A view is a lookup of the own session, and its answer may be given. -/
theorem keeps_view (needed : action.isProtected = true)
    (own : Service.bearer authorization = .ok token) (h : Unrefused past) :
    Keeps svc authorization action past (Service.view token) :=
  keeps_withinThen needed own h (fun _ => rfl) fun _ =>
    keeps_pure own (h.concat rfl) _

/-- A call of the database with the credentials of the session. -/
theorem keeps_attemptThen {call : Remote (Except InfluxError α)}
    {next : Except InfluxError α → Handler Response}
    (needed : action.isProtected = true)
    (own : Service.bearer authorization = .ok token)
    (h : Resolved token c past) (carries : call.Carries svc c)
    (rest : ∀ answer, Resolved token c (past ++ [.remote call answer]) →
      Keeps svc authorization action (past ++ [.remote call answer])
        (next answer)) :
    Keeps svc authorization action past (attempt call >>= next) :=
  (obeys_bind _ _).2 ((obeys_attempt call).2 fun answer =>
    ⟨⟨.call needed own h.resolved carries, h.unrefused⟩,
      rest answer (h.concat rfl)⟩)

/-- The database is called with the credentials of the session, and an error
ends the request. -/
theorem keeps_databaseThen {call : Remote (Except InfluxError α)}
    {next : α → Handler Response} (needed : action.isProtected = true)
    (own : Service.bearer authorization = .ok token)
    (h : Resolved token c past) (carries : call.Carries svc c)
    (rest : ∀ a, Resolved token c (past ++ [.remote call (.ok a)]) →
      Keeps svc authorization action (past ++ [.remote call (.ok a)])
        (next a)) :
    Keeps svc authorization action past (database call >>= next) :=
  (obeys_bind _ _).2 ((obeys_database call).2
    ⟨fun _ => ⟨.call needed own h.resolved carries, h.unrefused⟩,
      fun a => rest a (h.concat rfl)⟩)

/-- A talk with the dashboard server for the session. -/
theorem keeps_publishThen {client : Grafana.Client}
    {talk : Http.Talk (Except GrafanaError α)}
    {next : α → Handler Response} (needed : action.isProtected = true)
    (own : Service.bearer authorization = .ok token)
    (known : svc.grafana = some client)
    (sends : talk.Sends (client.Asks c.organization c.apiToken))
    (h : Resolved token c past)
    (rest : ∀ past a, Resolved token c past →
      Keeps svc authorization action past (next a)) :
    Keeps svc authorization action past (publish talk >>= next) := by
  refine (obeys_bind _ _).2
    (obeys_publish_sends (Resolved token c) sends ?_ rest h)
  intro past request answer hpast hasks
  exact ⟨⟨.call needed own hpast.resolved ⟨client, known, hasks⟩,
    hpast.unrefused⟩, hpast.concat rfl⟩

-- ============================================================== actions

variable (svc authorization)

/-- A login asks the database about what it was given, and opens a session
only where the database accepts it. -/
theorem keeps_login (apiToken organization : String) :
    Keeps svc authorization (.login apiToken organization) []
      (Service.login apiToken organization) := by
  unfold Service.login
  rw [Keeps, obeys_ite]
  refine ⟨fun _ => obeys_throw _, fun _ => ?_⟩
  rw [obeys_bind, obeys_attempt]
  refine fun answer => ⟨⟨.ask rfl answer, unrefused_nil⟩, ?_⟩
  have hasked : Unrefused [.remote
      (.buckets (Action.asked apiToken organization)) answer] :=
    unrefused_nil.concat rfl
  dsimp only
  -- only where the database accepts the login a session is opened
  split
  · rw [obeys_bind, obeys_session]
    refine fun issued =>
      ⟨⟨.enter rfl (List.mem_singleton_self _) issued, hasked⟩, ?_⟩
    split
    · exact obeys_crash
    · exact (obeys_pure _).2 ⟨hasked.concat rfl, nofun⟩
  all_goals
    rw [obeys_bind]
    exact obeys_throw _

/-- A logout closes the session of its own token. -/
theorem keeps_logout :
    Keeps svc authorization .logout [] (Service.logout authorization) := by
  refine (obeys_bind _ _).2 ((obeys_require _).2 fun token own => ?_)
  refine (obeys_bind _ _).2 ((obeys_session _).2 fun answer => ?_)
  refine ⟨⟨.leave rfl own answer, unrefused_nil⟩, (obeys_pure _).2 ?_⟩
  exact ⟨unrefused_nil.concat rfl, nofun⟩

/-- A report drops what is over, reads the clock and counts. -/
theorem keeps_health : Keeps svc authorization .health [] svc.health := by
  refine (obeys_bind _ _).2 ((obeys_session _).2 fun dropped => ?_)
  have hpurge : Unrefused [.session .purge dropped] :=
    unrefused_nil.concat rfl
  refine ⟨⟨.purge rfl dropped, unrefused_nil⟩, ?_⟩
  refine (obeys_bind _ _).2 (obeys_now.2 fun now => ?_)
  have hnow : Unrefused [.session .purge dropped, .clock now] :=
    hpurge.concat rfl
  refine ⟨⟨.clock rfl now, hpurge⟩, ?_⟩
  refine (obeys_bind _ _).2 ((obeys_session _).2 fun sessions => ?_)
  refine ⟨⟨.size rfl sessions, hnow⟩, (obeys_pure _).2 ?_⟩
  exact ⟨hnow.concat rfl, nofun⟩

/-- After a selection, its listing is fetched for the session. -/
theorem keeps_listing (needed : action.isProtected = true)
    (own : Service.bearer authorization = .ok token)
    (call : Remote (Except InfluxError (List Table)))
    (e : List Table → Builder.Edit) (carries : call.Carries svc c)
    (h : Resolved token c past) :
    Keeps svc authorization action past (do
      match ← attempt call with
      | .ok tables =>
        let _ ← Service.edit token (e tables)
        Service.view token
      | .error _ => Service.view token) := by
  refine keeps_attemptThen needed own h carries fun answer hanswer => ?_
  cases answer with
  | ok tables =>
      refine keeps_editThen needed own hanswer.unrefused fun _ => ?_
      exact keeps_view needed own (hanswer.unrefused.concat rfl)
  | error => exact keeps_view needed own hanswer.unrefused

/-- After the selection of a bucket its measurements are fetched for the
session. -/
theorem keeps_selectBucket (position : Nat) :
    Keeps svc authorization (.selectBucket position) []
      (svc.selectBucket authorization position) := by
  refine keeps_authenticateThen rfl fun token c own h => ?_
  refine keeps_editThen rfl own h.unrefused fun (o, b) => ?_
  cases o with
  | selected bucket =>
      exact keeps_listing svc authorization rfl own _
        (fun tables => .applyMeasurements _
          (Schema.distinctValues tables "_measurement"))
        rfl (h.concat rfl)
  | done | refused | lookup | removed => exact obeys_throw _

/-- After the selection of a measurement its fields are fetched for the
session. -/
theorem keeps_selectMeasurement (position : Nat) :
    Keeps svc authorization (.selectMeasurement position) []
      (svc.selectMeasurement authorization position) := by
  refine keeps_authenticateThen rfl fun token c own h => ?_
  refine keeps_editThen rfl own h.unrefused fun (o, b) => ?_
  cases o with
  | lookup lookup =>
      exact keeps_listing svc authorization rfl own _
        (fun tables => .applyFields _
          (Schema.distinctValues tables "_field"))
        rfl (h.concat rfl)
  | done | refused | selected | removed => exact obeys_throw _

/-- An edit, and then a view or a refusal. -/
theorem keeps_editOnly {e : Builder.Edit}
    {next : Builder.Outcome × Builder → Handler Response}
    (needed : action.isProtected = true)
    (own : Service.bearer authorization = .ok token)
    (answers : ∀ result, next result = Service.view token
      ∨ ∃ err, next result = throw err) :
    Keeps svc authorization action [] (Service.edit token e >>= next) := by
  refine keeps_editThen needed own unrefused_nil fun result => ?_
  rcases answers result with hview | ⟨err, hthrow⟩
  · rw [hview]
    exact keeps_view needed own (unrefused_nil.concat rfl)
  · rw [hthrow]
    exact obeys_throw err

/-- An edit that is never refused is answered with a view. -/
theorem keeps_editAndView {e : Builder.Edit}
    (needed : action.isProtected = true) :
    Keeps svc authorization action []
      (Service.editAndView authorization e) :=
  (obeys_bind _ _).2 ((obeys_require _).2 fun _ own =>
    keeps_editOnly svc authorization needed own fun _ => .inl rfl)

/-- A range is edited for the own session, unless it has no start. -/
theorem keeps_selectRange (start : String) (stop : Option String) :
    Keeps svc authorization (.selectRange start stop) []
      (Service.selectRange authorization start stop) := by
  refine (obeys_bind _ _).2 ((obeys_require _).2 fun token own => ?_)
  rw [obeys_ite]
  refine ⟨fun _ => obeys_throw _, fun _ => ?_⟩
  exact keeps_editOnly svc authorization rfl own fun _ => .inl rfl

/-- Buckets are listed for the session before the builder is given them. -/
theorem keeps_refreshBuckets :
    Keeps svc authorization .refreshBuckets []
      (Service.refreshBuckets authorization) := by
  refine keeps_authenticateThen rfl fun token c own h => ?_
  refine keeps_databaseThen rfl own h rfl fun buckets h => ?_
  refine keeps_editThen rfl own h.unrefused fun _ => ?_
  exact keeps_view rfl own (h.unrefused.concat rfl)

/-- A call of the database whose result is the answer. -/
theorem keeps_databaseOnly {call : Remote (Except InfluxError α)}
    {answer : α → Response} (needed : action.isProtected = true)
    (own : Service.bearer authorization = .ok token)
    (h : Resolved token c past) (carries : call.Carries svc c) :
    Keeps svc authorization action past
      (do let a ← database call; return answer a) :=
  keeps_databaseThen needed own h carries fun _ h =>
    keeps_pure own h.unrefused _

/-- A request finds the dashboard server that the service is configured
with. -/
theorem grafana_of_client {client : Grafana.Client}
    (h : svc.grafanaClient = .ok client) : svc.grafana = some client := by
  unfold Service.grafanaClient at h
  cases hgrafana : svc.grafana with
  | none =>
      rw [hgrafana] at h
      cases h
  | some client' =>
      rw [hgrafana] at h
      rw [Except.ok.inj h]

/-- A publication talks with the configured server, on behalf of the
session's organization and token. -/
theorem keeps_publish (p : Publication) :
    Keeps svc authorization (.publish p) []
      (svc.publish authorization p) := by
  refine (obeys_bind _ _).2 ((obeys_require _).2 fun client hclient => ?_)
  have known := grafana_of_client svc hclient
  rw [obeys_ite]
  refine ⟨fun _ => obeys_throw _, fun _ => ?_⟩
  rw [obeys_ite]
  refine ⟨fun _ => obeys_throw _, fun _ => ?_⟩
  -- the blank query and the blank title are refused before anything is
  -- looked up
  refine keeps_authenticateThen rfl fun token c own h => ?_
  refine keeps_publishThen rfl own known
    (Grafana.Client.sends_ensureDatasource (svc.datasourceParams c)) h
    fun past datasource h => ?_
  refine keeps_publishThen rfl own known
    (Grafana.Client.sends_createDashboard _) h fun past created h => ?_
  exact keeps_pure own h.unrefused _

/-- A listing of the datasources asks the configured server, once there is a
session. -/
theorem keeps_listDatasources :
    Keeps svc authorization .datasources []
      (svc.listDatasources authorization) := by
  refine (obeys_bind _ _).2 ((obeys_require _).2 fun client hclient => ?_)
  have known := grafana_of_client svc hclient
  refine keeps_authenticateThen rfl fun token c own h => ?_
  refine keeps_publishThen rfl own known
    Grafana.Client.sends_datasources h fun past datasources h => ?_
  exact keeps_pure own h.unrefused _

/-- A query that must not be blank is sent to the database. -/
theorem keeps_queryOnly {query : String} {answer : α → Response}
    (call : String → Remote (Except InfluxError α))
    (needed : action.isProtected = true)
    (own : Service.bearer authorization = .ok token)
    (h : Resolved token c past)
    (carries : ∀ query, (call query).Carries svc c) :
    Keeps svc authorization action past (do
      let query ← require (Service.requireQuery query)
      let a ← database (call query)
      return answer a) :=
  (obeys_bind _ _).2 ((obeys_require _).2 fun query _ =>
    keeps_databaseOnly svc authorization needed own h (carries query))

/-- Every request keeps to what it may do. -/
theorem keeps_handle (action : Action) :
    Keeps svc authorization action []
      (svc.handle authorization action) := by
  -- by the action: those of one kind share the law of what they do
  cases action with
  | login apiToken organization =>
      exact keeps_login svc authorization apiToken organization
  | logout => exact keeps_logout svc authorization
  | health => exact keeps_health svc authorization
  | render | parse | live | ready =>
      exact (obeys_pure _).2 ⟨unrefused_nil, nofun⟩
  | validate =>
      exact keeps_authenticateThen rfl fun _ _ own h =>
        keeps_pure own h.unrefused _
  | buckets | measurements | fields =>
      exact keeps_authenticateThen rfl fun _ _ own h =>
        keeps_databaseOnly svc authorization rfl own h rfl
  | analyze query =>
      exact keeps_authenticateThen rfl fun _ c own h =>
        keeps_queryOnly svc authorization (.analyze c) rfl own h
          fun _ => rfl
  | run query =>
      exact keeps_authenticateThen rfl fun _ c own h =>
        keeps_queryOnly svc authorization (.query c) rfl own h
          fun _ => rfl
  | view =>
      exact (obeys_bind _ _).2 ((obeys_require _).2 fun _ own =>
        keeps_view rfl own unrefused_nil)
  | refreshBuckets => exact keeps_refreshBuckets svc authorization
  | selectBucket position =>
      exact keeps_selectBucket svc authorization position
  | selectMeasurement position =>
      exact keeps_selectMeasurement svc authorization position
  | selectRange start stop =>
      exact keeps_selectRange svc authorization start stop
  | updateText | reset => exact keeps_editAndView svc authorization rfl
  | selectFields | removePart =>
      refine (obeys_bind _ _).2 ((obeys_require _).2 fun _ own => ?_)
      refine keeps_editOnly svc authorization rfl own fun (o, b) => ?_
      cases o with
      | refused => exact .inr ⟨_, rfl⟩
      | done | selected | lookup | removed => exact .inl rfl
  | publish p => exact keeps_publish svc authorization p
  | datasources => exact keeps_listDatasources svc authorization

end Handlers

-- ============================================================== answers

section Answers

open Handler

variable {svc : Service} {authorization : List String} {α β : Type}

/-- A flow ends with an answer, if it ends. -/
def Ends (flow : Flow α) : Prop :=
  flow.Leads (fun (_ : Unit) _ _ => True) False (fun _ _ => True) ()

/-- A handler ends with a result, if it ends. -/
abbrev Returns (h : Handler α) : Prop :=
  h.Leads (fun (_ : Unit) _ _ => True) False (fun _ _ => True)
    (fun _ _ => True) ()

/-- Two handlers that end do so one after the other. -/
theorem returns_bind {h : Handler α} {f : α → Handler β}
    (first : Returns h) (rest : ∀ a, Returns (f a)) : Returns (h >>= f) :=
  (leads_bind h f).2
    (leads_mono (fun _ a _ => rest a) (fun _ _ _ => trivial) first)

/-- A result is an end. -/
theorem returns_pure (a : α) : Returns (pure a) :=
  (leads_pure a).2 trivial

/-- A refusal is an end. -/
theorem returns_throw (e : ApiError) : Returns (throw e : Handler α) :=
  (leads_throw e).2 trivial

/-- What is known is a result or a refusal. -/
theorem returns_require (result : Except ApiError α) :
    Returns (require result) :=
  (leads_require result).2 ⟨fun _ _ => trivial, fun _ _ => trivial⟩

/-- Both branches end. -/
theorem returns_ite {c : Prop} [Decidable c] {h h' : Handler α}
    (first : Returns h) (second : Returns h') :
    Returns (if c then h else h') :=
  (leads_ite c h h').2 ⟨fun _ => first, fun _ => second⟩

/-- An operation on the sessions has an answer. -/
theorem returns_session (op : SessionOp α) : Returns (session op) :=
  (leads_session op).2 fun _ _ _ => trivial

/-- An operation on one session has an answer or is refused. -/
theorem returns_within (op : SessionOp (Except SessionError α)) :
    Returns (within op) :=
  (leads_within op).2 ⟨fun _ _ _ => trivial, fun _ _ _ => trivial⟩

/-- A call of another server has an answer or an error. -/
theorem returns_attempt (call : Remote (Except InfluxError α)) :
    Returns (attempt call) :=
  (leads_attempt call).2 fun _ _ _ => trivial

/-- A call of the database has an answer or is refused. -/
theorem returns_database (call : Remote (Except InfluxError α)) :
    Returns (database call) :=
  (leads_database call).2 ⟨fun _ _ _ => trivial, fun _ _ _ => trivial⟩

/-- A talk with the dashboard server has an end, for it is finite. -/
theorem returns_publish (talk : Http.Talk (Except GrafanaError α)) :
    Returns (publish talk) :=
  leads_publish (fun _ => True) talk (fun _ _ _ _ _ _ => trivial)
    (fun _ _ _ => trivial) (fun _ _ _ => trivial) trivial

/-- Looking up who is asking ends. -/
theorem returns_authenticate :
    Returns (Service.authenticate authorization) :=
  returns_bind (returns_require _) fun _ =>
    returns_bind (returns_within _) fun _ => returns_pure _

/-- A view ends. -/
theorem returns_view (token : String) : Returns (Service.view token) :=
  returns_bind (returns_within _) fun _ => returns_pure _

/-- An edit, and then a view or a refusal. -/
theorem returns_editThen {token : String} {e : Builder.Edit}
    {next : Builder.Outcome × Builder → Handler Response}
    (answers : ∀ result, next result = Service.view token
      ∨ ∃ err, next result = throw err) :
    Returns (Service.edit token e >>= next) := by
  refine returns_bind (returns_within _) fun result => ?_
  rcases answers result with hview | ⟨err, hthrow⟩
  · rw [hview]
    exact returns_view token
  · rw [hthrow]
    exact returns_throw err

/-- A listing ends, whether it was had or not. -/
theorem returns_listing {token : String}
    (call : Remote (Except InfluxError (List Table)))
    (e : List Table → Builder.Edit) : Returns (do
      match ← attempt call with
      | .ok tables =>
        let _ ← Service.edit token (e tables)
        Service.view token
      | .error _ => Service.view token) := by
  refine returns_bind (returns_attempt call) fun answer => ?_
  cases answer with
  | ok tables => exact returns_editThen fun _ => .inl rfl
  | error => exact returns_view token

/-- A publication ends. -/
theorem returns_publication (p : Publication) :
    Returns (svc.publish authorization p) := by
  unfold Service.publish
  refine returns_bind (returns_require _) fun _ => ?_
  refine returns_ite (returns_throw _) (returns_ite (returns_throw _) ?_)
  exact returns_bind returns_authenticate fun _ =>
    returns_bind (returns_publish _) fun _ =>
      returns_bind (returns_publish _) fun _ => returns_pure _

/-- The selection of a range ends. -/
theorem returns_selectRange (start : String) (stop : Option String) :
    Returns (Service.selectRange authorization start stop) := by
  refine returns_bind (returns_require _) fun _ => ?_
  exact returns_ite (returns_throw _) (returns_editThen fun _ => .inl rfl)

/-- Every request but a login ends with an answer. -/
theorem returns_handle {action : Action}
    (other : ∀ apiToken organization,
      action ≠ .login apiToken organization) :
    Returns (svc.handle authorization action) := by
  cases action with
  | login apiToken organization =>
      exact absurd rfl (other apiToken organization)
  | render | parse | live | ready => exact returns_pure _
  | validate =>
      exact returns_bind returns_authenticate fun _ => returns_pure _
  | logout =>
      exact returns_bind (returns_require _) fun _ =>
        returns_bind (returns_session _) fun _ => returns_pure _
  | buckets | measurements | fields =>
      exact returns_bind returns_authenticate fun _ =>
        returns_bind (returns_database _) fun _ => returns_pure _
  | analyze | run =>
      exact returns_bind returns_authenticate fun _ =>
        returns_bind (returns_require _) fun _ =>
          returns_bind (returns_database _) fun _ => returns_pure _
  | view => exact returns_bind (returns_require _) returns_view
  | refreshBuckets =>
      exact returns_bind returns_authenticate fun _ =>
        returns_bind (returns_database _) fun _ =>
          returns_editThen fun _ => .inl rfl
  | selectBucket =>
      refine returns_bind returns_authenticate fun _ =>
        returns_bind (returns_within _) fun (o, _) => ?_
      cases o with
      | selected =>
          exact returns_listing _ fun tables => .applyMeasurements _
            (Schema.distinctValues tables "_measurement")
      | done | refused | lookup | removed => exact returns_throw _
  | selectMeasurement =>
      refine returns_bind returns_authenticate fun _ =>
        returns_bind (returns_within _) fun (o, _) => ?_
      cases o with
      | lookup =>
          exact returns_listing _ fun tables => .applyFields _
            (Schema.distinctValues tables "_field")
      | done | refused | selected | removed => exact returns_throw _
  | selectFields | removePart =>
      refine returns_bind (returns_require _) fun _ =>
        returns_editThen fun (o, _) => ?_
      cases o with
      | refused => exact .inr ⟨_, rfl⟩
      | done | selected | lookup | removed => exact .inl rfl
  | selectRange start stop => exact returns_selectRange start stop
  | updateText | reset =>
      exact returns_bind (returns_require _) fun _ =>
        returns_editThen fun _ => .inl rfl
  | publish p => exact returns_publication p
  | datasources =>
      exact returns_bind (returns_require _) fun _ =>
        returns_bind returns_authenticate fun _ =>
          returns_bind (returns_publish _) fun _ => returns_pure _
  | health =>
      exact returns_bind (returns_session _) fun _ =>
        returns_bind (leads_now.2 fun _ _ _ => trivial) fun _ =>
          returns_bind (returns_session _) fun _ => returns_pure _

end Answers

end Access
end FluxComposer
