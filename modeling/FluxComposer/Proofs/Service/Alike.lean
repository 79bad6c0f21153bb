import FluxComposer.Proofs.Session.Masked
import FluxComposer.Proofs.Text.Blank
import FluxComposer.Service.Server
/-
Requests that secrets do not part. Two flows are alike if they take the
same steps but for secrets, and go on alike whatever they are answered, as
long as the answers are the same but for secrets (`Flow.Alike`). Then they
end with the same results.

The laws of `Alike` follow the ways in which handlers are put together, as
those of the rules do. A handler gets hold of a secret only with the
credentials of its session, and from there it goes into calls of other
servers and nowhere else; so every handler is like itself, and that of a
login like that of a login with another secret (`alike_handle`).
-/
namespace FluxComposer

-- ============================================================= results

/-- Two results are both good and related, or are the same error. -/
inductive ResultsAlike {ε α : Type} (post : α → α → Prop) :
    Except ε α → Except ε α → Prop where
  | ok {a a' : α} (related : post a a') : ResultsAlike post (.ok a) (.ok a')
  | error (e : ε) : ResultsAlike post (.error e) (.error e)

namespace ResultsAlike

variable {ε α β : Type} {post : α → α → Prop} {post' : β → β → Prop}

/-- A result is like itself. -/
theorem refl (r : Except ε α) : ResultsAlike Eq r r := by
  cases r with
  | ok a => exact .ok rfl
  | error e => exact .error e

/-- What is computed from results that are alike is alike. -/
theorem bind {r r' : Except ε α} {f f' : α → Except ε β}
    (first : ResultsAlike post r r')
    (rest : ∀ a a', post a a' → ResultsAlike post' (f a) (f' a')) :
    ResultsAlike post' (r >>= f) (r' >>= f') := by
  cases first with
  | ok related => exact rest _ _ related
  | error e => exact .error e

/-- Functions that keep results related keep them alike. -/
theorem map {r r' : Except ε α} {f : α → β}
    (first : ResultsAlike post r r')
    (related : ∀ a a', post a a' → post' (f a) (f a')) :
    ResultsAlike post' (f <$> r) (f <$> r') := by
  cases first with
  | ok h => exact .ok (related _ _ h)
  | error e => exact .error e

end ResultsAlike

-- =============================================================== calls

/-- The parameters of a datasource without the API token. -/
def Grafana.DatasourceParams.masked (p : DatasourceParams) :
    DatasourceParams := { p with token := "" }

/-- Two calls of another server are the same but for secrets. -/
inductive Remote.Alike : {β : Type} → Remote β → Remote β → Prop where
  | buckets {c c' : Credentials} (same : c.masked = c'.masked) :
      Alike (.buckets c) (.buckets c')
  | query {c c' : Credentials} (same : c.masked = c'.masked)
      (flux : String) : Alike (.query c flux) (.query c' flux)
  | analyze {c c' : Credentials} (same : c.masked = c'.masked)
      (flux : String) : Alike (.analyze c flux) (.analyze c' flux)
  | grafana (request : Http.Request) :
      Alike (.grafana request) (.grafana request)
  | createDatasource (client : Grafana.Client)
      {p p' : Grafana.DatasourceParams} (same : p.masked = p'.masked) :
      Alike (.grafana (client.request "POST" "/api/datasources"
          (some p.payload)))
        (.grafana (client.request "POST" "/api/datasources"
          (some p'.payload)))

namespace Http.Talk

/-- Two talks send the same requests but for secrets, and end with the
same results. -/
inductive Alike {α : Type} : Talk α → Talk α → Prop where
  | done (a : α) : Alike (.done a) (.done a)
  | send {request request' : Request} {next next' : Exchange → Talk α}
      (calls : (Remote.grafana request).Alike (.grafana request'))
      (rest : ∀ answer, Alike (next answer) (next' answer)) :
      Alike (.send request next) (.send request' next')

variable {α β : Type}

/-- A talk is like itself, for it holds no secret that another run could
have put elsewhere. -/
theorem Alike.refl (talk : Talk α) : talk.Alike talk := by
  induction talk with
  | done a => exact .done a
  | send request next ih => exact .send (.grafana request) ih

/-- Talks that go on alike are alike. -/
theorem Alike.bind {talk talk' : Talk α} {f f' : α → Talk β}
    (first : talk.Alike talk') (rest : ∀ a, (f a).Alike (f' a)) :
    (talk >>= f).Alike (talk' >>= f') := by
  show (talk.bind f).Alike (talk'.bind f')
  induction first with
  | done a => exact rest a
  | send calls _ ih => exact .send calls ih

end Http.Talk

namespace Grafana.Client

open Http

variable {client : Client} {p p' : DatasourceParams}

/-- The creation of a datasource differs by the token alone. -/
theorem alike_createDatasource (same : p.masked = p'.masked) :
    (client.createDatasource p).Alike (client.createDatasource p') := by
  -- whether a request can be sent is decided by its address
  have hsendable : (client.request "POST" "/api/datasources"
      (some p.payload)).isSendable
    = (client.request "POST" "/api/datasources"
      (some p'.payload)).isSendable := rfl
  refine Talk.Alike.bind ?_ fun _ => .refl _
  unfold ask
  rw [hsendable]
  split
  · exact .send (.createDatasource client same) fun _ => .refl _
  · exact .refl _

/-- A token has no part in the lookup, so both talks decide alike whether to
create. -/
theorem alike_ensureDatasource (same : p.masked = p'.masked) :
    (client.ensureDatasource p).Alike (client.ensureDatasource p') := by
  have hname : p.masked.name = p'.masked.name := by rw [same]
  change p.name = p'.name at hname
  unfold ensureDatasource
  rw [hname]
  refine Talk.Alike.bind (.refl _) fun r => ?_
  split
  · exact .refl _
  · exact alike_createDatasource same
  · exact .refl _

end Grafana.Client

-- =============================================================== flows

namespace Flow

variable {α β : Type} {post : α → α → Prop} {post' : β → β → Prop}

/-- Two flows take the same steps but for secrets, whatever they are
answered, and end with related results. -/
inductive Alike (post : α → α → Prop) : Flow α → Flow α → Prop where
  | done {a a' : α} (related : post a a') : Alike post (.done a) (.done a')
  | crash : Alike post .crash .crash
  | session {β : Type} {op op' : SessionOp β} {next next' : β → Flow α}
      (ops : op.masked = op'.masked)
      (rest : ∀ a a', op.maskedAnswer a = op'.maskedAnswer a' →
        Alike post (next a) (next' a')) :
      Alike post (.session op next) (.session op' next')
  | remote {β : Type} {call call' : Remote β} {next next' : β → Flow α}
      (calls : call.Alike call')
      (rest : ∀ a, Alike post (next a) (next' a)) :
      Alike post (.remote call next) (.remote call' next')
  | clock {next next' : Instant → Flow α}
      (rest : ∀ t, Alike post (next t) (next' t)) :
      Alike post (.clock next) (.clock next')

/-- Flows that go on alike after related results are alike. -/
theorem Alike.bind {flow flow' : Flow α} {f f' : α → Flow β}
    (first : Alike post flow flow')
    (rest : ∀ a a', post a a' → Alike post' (f a) (f' a')) :
    Alike post' (flow >>= f) (flow' >>= f') := by
  show Alike post' (flow.bind f) (flow'.bind f')
  induction first with
  | done related => exact rest _ _ related
  | crash => exact .crash
  | session ops _ ih => exact .session ops ih
  | remote calls _ ih => exact .remote calls ih
  | clock _ ih => exact .clock ih

/-- Talks that are alike are alike as parts of a flow. -/
theorem alike_ofTalk {talk talk' : Http.Talk α} (h : talk.Alike talk') :
    Alike Eq (ofTalk talk) (ofTalk talk') := by
  induction h with
  | done a => exact .done rfl
  | send calls _ ih => exact .remote calls ih

end Flow

-- ============================================================ handlers

namespace Handler

variable {α β : Type} {post : α → α → Prop} {post' : β → β → Prop}

/-- Two handlers take the same steps but for secrets, and end with related
results or the same refusal. -/
def Alike (post : α → α → Prop) (h h' : Handler α) : Prop :=
  Flow.Alike (ResultsAlike post) h.run h'.run

/-- Related results are alike. -/
theorem alike_pure {a a' : α} (related : post a a') :
    Alike post (pure a) (pure a') := .done (.ok related)

/-- A refusal is like itself. -/
theorem alike_throw (e : ApiError) : Alike post (throw e) (throw e) :=
  .done (.error e)

/-- Handlers that go on alike after related results are alike, and a refusal
ends both. -/
theorem alike_bind {h h' : Handler α} {f f' : α → Handler β}
    (first : Alike post h h')
    (rest : ∀ a a', post a a' → Alike post' (f a) (f' a')) :
    Alike post' (h >>= f) (h' >>= f') := by
  show Flow.Alike _ (h.run >>= ExceptT.bindCont f)
    (h'.run >>= ExceptT.bindCont f')
  refine Flow.Alike.bind first fun r r' hr => ?_
  cases hr with
  | ok related => exact rest _ _ related
  | error e => exact alike_throw e

/-- What would come after a refusal does not matter. -/
theorem alike_throwThen {f f' : α → Handler β} (e : ApiError) :
    Alike post' (throw e >>= f) (throw e >>= f') :=
  have hthrow : Alike (fun _ _ => False) (throw e : Handler α) (throw e) :=
    alike_throw e
  alike_bind hthrow fun _ _ => nofun

/-- Where the first results are the same. -/
theorem alike_bind_eq {h h' : Handler α} {f f' : α → Handler β}
    (first : Alike Eq h h') (rest : ∀ a, Alike post' (f a) (f' a)) :
    Alike post' (h >>= f) (h' >>= f') :=
  alike_bind first fun a _ heq => heq ▸ rest a

/-- What is known without a step is the same in both. -/
theorem alike_require (result : Except ApiError α) :
    Alike Eq (require result) (require result) :=
  .done (.refl result)

/-- Both take the same branch. -/
theorem alike_ite {c : Prop} [Decidable c] {h h' k k' : Handler α}
    (first : Alike post h h') (second : Alike post k k') :
    Alike post (if c then h else k) (if c then h' else k') := by
  split
  · exact first
  · exact second

/-- An operation whose answer holds no secret. -/
theorem alike_session {op op' : SessionOp α} (ops : op.masked = op'.masked)
    (plain : op.maskedAnswer = id) (plain' : op'.maskedAnswer = id) :
    Alike Eq (session op) (session op') := by
  refine .session ops fun a a' ha => .done (.ok ?_)
  rwa [plain, plain'] at ha

/-- An operation on one session whose answer holds no secret gives the same
in both. -/
theorem alike_within {op : SessionOp (Except SessionError α)}
    (plain : op.maskedAnswer = id) : Alike Eq (within op) (within op) := by
  refine .session rfl fun a a' ha => .done ?_
  rw [plain] at ha
  obtain rfl : a = a' := ha
  exact .refl _

/-- Two runs may find different secrets in the same session. -/
theorem alike_withinCredentials (token : String) :
    Alike (fun c c' => c.masked = c'.masked) (within (.credentials token))
      (within (.credentials token)) := by
  refine .session rfl fun a a' ha => .done ?_
  have ha : a.map Credentials.masked = a'.map Credentials.masked := ha
  -- the answers agree but for secrets, so both are refusals or neither is
  cases a with
  | error e =>
      cases a' with
      | error e' =>
          obtain rfl : e = e' := Except.error.inj ha
          exact .error _
      | ok => cases ha
  | ok c =>
      cases a' with
      | error => cases ha
      | ok c' => exact .ok (Except.ok.inj ha)

/-- Calls that are alike are answered the same. -/
theorem alike_attempt {call call' : Remote (Except InfluxError α)}
    (calls : call.Alike call') :
    Alike Eq (attempt call) (attempt call') :=
  .remote calls fun _ => .done (.ok rfl)

/-- Calls of the database that are alike are answered the same. -/
theorem alike_database {call call' : Remote (Except InfluxError α)}
    (calls : call.Alike call') :
    Alike Eq (database call) (database call') :=
  .remote calls fun _ => .done (.refl _)

/-- Talks that are alike end the same. -/
theorem alike_publish {talk talk' : Http.Talk (Except GrafanaError α)}
    (talks : talk.Alike talk') : Alike Eq (publish talk) (publish talk') :=
  (Flow.alike_ofTalk talks).bind fun _ _ heq => heq ▸ .done (.refl _)

/-- Both read the same time. -/
theorem alike_now : Alike Eq now now := .clock fun _ => .done (.ok rfl)

/-- A crash is like itself. -/
theorem alike_crash : Alike post crash crash := .crash

/-- The flows of handlers that are alike. -/
theorem Alike.run {h h' : Handler α} (alike : Alike post h h') :
    Flow.Alike (ResultsAlike post) h.run h'.run := alike

end Handler

-- from here on handlers are compared by the laws above alone
attribute [irreducible] Handler.Alike

-- ============================================================= actions

/-- API tokens of which both are blank or neither is. -/
def TokensAlike (apiToken apiToken' : String) : Prop :=
  Text.isBlankText apiToken = Text.isBlankText apiToken'

/-- Two actions are the same, or logins with tokens that are alike. -/
inductive Action.Alike : Action → Action → Prop where
  | same (action : Action) : Alike action action
  | login {apiToken apiToken' : String} (organization : String)
      (tokens : TokensAlike apiToken apiToken') :
      Alike (.login apiToken organization) (.login apiToken' organization)

namespace Service

open Handler

variable (svc : Service) (authorization : List String)

/-- Logins with tokens that are both blank or both not are alike. -/
theorem alike_login (apiToken apiToken' organization : String)
    (tokens : TokensAlike apiToken apiToken') :
    Alike Eq (login apiToken organization)
      (login apiToken' organization) := by
  have hblank : Text.isBlankText apiToken = Text.isBlankText apiToken' :=
    tokens
  unfold login
  simp only [Text.isEmpty_trimmed, hblank]
  refine alike_ite (alike_throwThen _) ?_
  have hmasked :
      Credentials.masked ⟨Text.trimmed apiToken, Text.trimmed organization⟩
        = Credentials.masked
          ⟨Text.trimmed apiToken', Text.trimmed organization⟩ :=
    Credentials.masked_eq_iff.2 rfl
  refine alike_bind_eq (alike_attempt (.buckets hmasked)) fun answer => ?_
  -- by what the database says: it accepts, it rejects, or it cannot be
  -- reached
  split
  · refine alike_bind_eq (alike_session (congrArg SessionOp.create hmasked)
      rfl rfl) fun issued => ?_
    cases issued with
    | none => exact alike_crash
    | some issued => exact alike_pure rfl
  all_goals exact alike_throwThen _

/-- The credentials of a session are the same but for secrets, whatever is
done with them. -/
theorem alike_authenticateThen
    {next : String × Credentials → Handler Response}
    (rest : ∀ token c c', c.masked = c'.masked →
      Alike Eq (next (token, c)) (next (token, c'))) :
    Alike Eq (authenticate authorization >>= next)
      (authenticate authorization >>= next) := by
  have hauthenticate : Alike
      (fun r r' => r.1 = r'.1 ∧ r.2.masked = r'.2.masked)
      (authenticate authorization) (authenticate authorization) :=
    alike_bind_eq (alike_require _) fun token =>
      alike_bind (alike_withinCredentials token) fun c c' hc =>
        alike_pure ⟨rfl, hc⟩
  refine alike_bind hauthenticate ?_
  rintro ⟨token, c⟩ ⟨_, c'⟩ ⟨rfl, hc⟩
  exact rest token c c' hc

variable {c c' : Credentials}

/-- Measurements are asked for with the credentials, which differ by the
secret. -/
theorem alike_measurementsCall (same : c.masked = c'.masked)
    (bucket : String) :
    (svc.measurementsCall c bucket).Alike (svc.measurementsCall c' bucket) :=
  .query same _

/-- Fields are asked for with the credentials, which differ by the
secret. -/
theorem alike_fieldsCall (same : c.masked = c'.masked)
    (bucket measurement : String) :
    (svc.fieldsCall c bucket measurement).Alike
      (svc.fieldsCall c' bucket measurement) := .query same _

/-- A call of the database whose result is the answer. -/
theorem alike_databaseOnly {α : Type}
    {call call' : Remote (Except InfluxError α)} (calls : call.Alike call')
    (answer : α → Response) :
    Alike Eq (do let a ← database call; return answer a)
      (do let a ← database call'; return answer a) :=
  alike_bind_eq (alike_database calls) fun _ => alike_pure rfl

/-- An edit has no secret in it. -/
theorem alike_edit (token : String) (e : Builder.Edit) :
    Alike Eq (edit token e) (edit token e) := alike_within rfl

/-- A view has no secret in it. -/
theorem alike_view (token : String) : Alike Eq (view token) (view token) :=
  alike_bind_eq (alike_within rfl) fun _ => alike_pure rfl

/-- An edit, and then a view or a refusal. -/
theorem alike_editThen {token : String} {e : Builder.Edit}
    {next : Builder.Outcome × Builder → Handler Response}
    (answers : ∀ result, next result = view token
      ∨ ∃ err, next result = throw err) :
    Alike Eq (edit token e >>= next) (edit token e >>= next) := by
  refine alike_bind_eq (alike_edit token e) fun result => ?_
  rcases answers result with hview | ⟨err, hthrow⟩
  · rw [hview]
    exact alike_view token
  · rw [hthrow]
    exact alike_throw err

/-- A listing is taken over alike where it was asked for alike. -/
theorem alike_listing (token : String)
    {call call' : Remote (Except InfluxError (List Table))}
    (calls : call.Alike call') (e : List Table → Builder.Edit) :
    Alike Eq
      (do
        match ← attempt call with
        | .ok tables =>
          let _ ← edit token (e tables)
          view token
        | .error _ => view token)
      (do
        match ← attempt call' with
        | .ok tables =>
          let _ ← edit token (e tables)
          view token
        | .error _ => view token) := by
  refine alike_bind_eq (alike_attempt calls) fun answer => ?_
  cases answer with
  | ok tables => exact alike_editThen fun _ => .inl rfl
  | error => exact alike_view token

/-- A bucket is selected alike, whatever secret the session has. -/
theorem alike_selectBucket (position : Nat) :
    Alike Eq (svc.selectBucket authorization position)
      (svc.selectBucket authorization position) := by
  refine alike_authenticateThen authorization fun token c c' hc => ?_
  refine alike_bind_eq (alike_edit token _) fun (o, _) => ?_
  cases o with
  | selected bucket =>
      exact alike_listing token (svc.alike_measurementsCall hc _) fun tables =>
        .applyMeasurements _ (Schema.distinctValues tables "_measurement")
  | done | refused | lookup | removed => exact alike_throw _

/-- A measurement is selected alike, whatever secret the session has. -/
theorem alike_selectMeasurement (position : Nat) :
    Alike Eq (svc.selectMeasurement authorization position)
      (svc.selectMeasurement authorization position) := by
  refine alike_authenticateThen authorization fun token c c' hc => ?_
  refine alike_bind_eq (alike_edit token _) fun (o, _) => ?_
  cases o with
  | lookup lookup =>
      exact alike_listing token (svc.alike_fieldsCall hc _ _) fun tables =>
        .applyFields _ (Schema.distinctValues tables "_field")
  | done | refused | selected | removed => exact alike_throw _

/-- A publication carries the secret into the datasource and nowhere
else. -/
theorem alike_publication (p : Publication) :
    Alike Eq (svc.publish authorization p)
      (svc.publish authorization p) := by
  refine alike_bind_eq (alike_require _) fun client => ?_
  refine alike_ite (alike_throw _) (alike_ite (alike_throw _) ?_)
  refine alike_authenticateThen authorization fun token c c' hc => ?_
  have hparams : (svc.datasourceParams c).masked
      = (svc.datasourceParams c').masked := by
    have horganization := Credentials.masked_eq_iff.1 hc
    simp only [Grafana.DatasourceParams.masked, datasourceParams,
      horganization]
  refine alike_bind_eq (alike_publish
    (Grafana.Client.alike_ensureDatasource hparams)) fun datasource => ?_
  exact alike_bind_eq (alike_publish (.refl _)) fun _ => alike_pure rfl

/-- What a request does and is answered does not depend on secrets. -/
theorem alike_handle {action action' : Action}
    (actions : action.Alike action') :
    Alike Eq (svc.handle authorization action)
      (svc.handle authorization action') := by
  cases actions with
  | @login apiToken apiToken' organization tokens =>
    exact alike_login apiToken apiToken' organization tokens
  | same =>
    cases action with
    | login apiToken organization =>
        exact alike_login apiToken apiToken organization rfl
    | render | parse | live | ready => exact alike_pure rfl
    | validate =>
        refine alike_authenticateThen authorization fun _ c c' hc => ?_
        dsimp only
        rw [Credentials.masked_eq_iff.1 hc]
        exact alike_pure rfl
    | logout =>
        exact alike_bind_eq (alike_require _) fun _ =>
          alike_bind_eq (alike_session rfl rfl rfl) fun _ => alike_pure rfl
    | buckets =>
        exact alike_authenticateThen authorization fun _ _ _ hc =>
          alike_databaseOnly (.buckets hc) _
    | measurements bucket =>
        exact alike_authenticateThen authorization fun _ _ _ hc =>
          alike_databaseOnly (svc.alike_measurementsCall hc bucket) _
    | fields bucket measurement =>
        exact alike_authenticateThen authorization fun _ _ _ hc =>
          alike_databaseOnly (svc.alike_fieldsCall hc bucket measurement) _
    | analyze query =>
        exact alike_authenticateThen authorization fun _ _ _ hc =>
          alike_bind_eq (alike_require _) fun _ =>
            alike_databaseOnly (.analyze hc _) _
    | run query =>
        exact alike_authenticateThen authorization fun _ _ _ hc =>
          alike_bind_eq (alike_require _) fun _ =>
            alike_databaseOnly (.query hc _) _
    | view => exact alike_bind_eq (alike_require _) alike_view
    | refreshBuckets =>
        exact alike_authenticateThen authorization fun _ _ _ hc =>
          alike_bind_eq (alike_database (.buckets hc)) fun _ =>
            alike_editThen fun _ => .inl rfl
    | selectBucket position =>
        exact svc.alike_selectBucket authorization position
    | selectMeasurement position =>
        exact svc.alike_selectMeasurement authorization position
    | selectFields | removePart =>
        refine alike_bind_eq (alike_require _) fun _ =>
          alike_editThen fun (o, _) => ?_
        cases o with
        | refused => exact .inr ⟨_, rfl⟩
        | done | selected | lookup | removed => exact .inl rfl
    | selectRange =>
        exact alike_bind_eq (alike_require _) fun _ =>
          alike_ite (alike_throw _) (alike_editThen fun _ => .inl rfl)
    | updateText | reset =>
        exact alike_bind_eq (alike_require _) fun _ =>
          alike_editThen fun _ => .inl rfl
    | publish p => exact svc.alike_publication authorization p
    | datasources =>
        refine alike_bind_eq (alike_require _) fun client =>
          alike_authenticateThen authorization fun _ _ _ _ => ?_
        exact alike_bind_eq (alike_publish (.refl _)) fun _ =>
          alike_pure rfl
    | health =>
        exact alike_bind_eq (alike_session rfl rfl rfl) fun _ =>
          alike_bind_eq alike_now fun _ =>
            alike_bind_eq (alike_session rfl rfl rfl) fun _ =>
              alike_pure rfl

end Service
end FluxComposer
