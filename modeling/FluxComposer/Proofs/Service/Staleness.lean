import FluxComposer.Proofs.Builder.Lookup
import FluxComposer.Proofs.Service.Rule
/-
Listings that come late. A selection leaves the session free while its
listing is fetched, and meanwhile other requests may change the query. So
the listing is taken over with the revision that the selection has left,
and is dropped if the query has changed since.

That a request takes over only what it has itself fetched for its own
selection is a rule that all requests keep to (`obeys_handle`). Between
the two the session is followed through the log
(`builder_since_selection`): the revision counts the changes, so if it is
the same there were none, and the query is the one that the selection has
left (`current_of_done`).
-/
namespace FluxComposer

open Builder (Edit Outcome Lookup)

-- ============================================================== fetches

/-- The call that fetches a listing. -/
def Service.listingCall (svc : Service) (c : Credentials) :
    Lookup → Remote (Except InfluxError (List Table))
  | .measurements bucket => svc.measurementsCall c bucket
  | .fields lookup => svc.fieldsCall c lookup.bucket lookup.measurement

/-- A listing that a request has fetched for its own selection. -/
structure Fetch where
  token : String
  credentials : Credentials
  selection : Edit
  outcome : Outcome
  /-- The builder that the selection has left. -/
  installed : Builder
  lookup : Lookup
  asked : outcome.lookup? = some lookup
  tables : List Table

namespace Fetch

/-- The names that are listed. -/
def names (fetch : Fetch) : List String :=
  Schema.distinctValues fetch.tables fetch.lookup.column.name

/-- The operation that takes the listing over. -/
def takeOver (fetch : Fetch) : Edit :=
  .takeOver fetch.installed.revision fetch.names fetch.lookup.column

/-- What a request has done to fetch a listing: it has resolved its
token, made its selection, and asked for what was selected. -/
def deeds (svc : Service) (fetch : Fetch) : List Deed :=
  [.session (.credentials fetch.token) (.ok fetch.credentials),
    .session (.edit fetch.token fetch.selection)
      (.ok (fetch.outcome, fetch.installed)),
    .remote (svc.listingCall fetch.credentials fetch.lookup)
      (.ok fetch.tables)]

/-- A request has fetched a listing: after `early` it made its selection,
and of what has happened since, nothing but the fetch is its own. -/
structure MadeBy (svc : Service) (fetch : Fetch) (request : Nat)
    (early : List Entry) (selection : Entry) (mid : List Entry) : Prop where
  deeds : deedsOf request (early ++ selection :: mid) = fetch.deeds svc
  own : selection.request = request
  selected : selection.deed = .session (.edit fetch.token fetch.selection)
    (.ok (fetch.outcome, fetch.installed))
  fetched : deedsOf request mid
    = [.remote (svc.listingCall fetch.credentials fetch.lookup)
      (.ok fetch.tables)]

/-- A request takes over what it has fetched, and nothing else. -/
def rule (svc : Service) : Rule := fun past deed =>
  match deed.edit? with
  | none => True
  | some (token, e, _) => e.column?.isSome →
    ∃ fetch : Fetch, past = fetch.deeds svc ∧ token = fetch.token
      ∧ e = fetch.takeOver

end Fetch

-- ============================================================= handlers

section Handlers

variable (svc : Service) (authorization : List String)

theorem obeys_login (apiToken organization : String) :
    Handler.Obeys (Fetch.rule svc) (fun _ _ => True) []
      (Service.login apiToken organization) := by
  unfold Service.login
  rw [Handler.obeys_ite]
  refine ⟨fun _ => Handler.obeys_throw _, fun _ => ?_⟩
  rw [Handler.obeys_bind, Handler.obeys_attempt]
  refine fun answer => ⟨trivial, ?_⟩
  dsimp only
  split
  · rw [Handler.obeys_bind, Handler.obeys_session]
    refine fun issued => ⟨trivial, ?_⟩
    split
    · exact Handler.obeys_crash
    · exact (Handler.obeys_pure _).2 trivial
  all_goals
    rw [Handler.obeys_bind]
    exact Handler.obeys_throw _

/-- What comes after a selection: what it asks for is fetched and taken
over. -/
theorem obeys_listing {token : String} {c : Credentials} {selection : Edit}
    {o : Outcome} {b : Builder} {lookup : Lookup}
    (asked : o.lookup? = some lookup) :
    Handler.Obeys (Fetch.rule svc) (fun _ _ => True)
      [.session (.credentials token) (.ok c),
        .session (.edit token selection) (.ok (o, b))] (do
      match ← Handler.attempt (svc.listingCall c lookup) with
      | .ok tables =>
        let names := Schema.distinctValues tables lookup.column.name
        let _ ← Service.edit token
          (.takeOver b.revision names lookup.column)
        Service.view token
      | .error _ => Service.view token) := by
  refine (Handler.obeys_bind _ _).2 ((Handler.obeys_attempt _).2 ?_)
  refine fun answer => ⟨trivial, ?_⟩
  cases answer with
  | error => exact (Service.obeys_view token).2 fun _ => trivial
  | ok tables =>
      refine (Handler.obeys_bind _ _).2 ((Service.obeys_edit _ _).2 ?_)
      -- what was done so far is exactly what a fetch is
      refine ⟨fun _ _ => ?_, fun _ => ?_⟩
      · exact ⟨⟨token, c, selection, o, b, lookup, asked, tables⟩,
          rfl, rfl, rfl⟩
      · exact (Service.obeys_view token).2 fun _ => trivial

/-- A selected bucket is what its measurements are fetched for. -/
theorem obeys_selectBucket (position : Nat) :
    Handler.Obeys (Fetch.rule svc) (fun _ _ => True) []
      (svc.selectBucket authorization position) := by
  unfold Service.selectBucket
  rw [Handler.obeys_bind, Service.obeys_authenticate]
  refine fun token _ => ⟨fun _ => trivial, fun c => ?_⟩
  rw [Handler.obeys_bind, Service.obeys_edit]
  refine ⟨fun _ => nofun, fun (o, b) => ?_⟩
  cases o with
  | selected bucket =>
      have hasked : (Outcome.selected bucket).lookup?
          = some (.measurements bucket.name) := rfl
      exact obeys_listing svc hasked
  | done | refused | lookup | removed => exact Handler.obeys_throw _

/-- A selected measurement is what its fields are fetched for. -/
theorem obeys_selectMeasurement (position : Nat) :
    Handler.Obeys (Fetch.rule svc) (fun _ _ => True) []
      (svc.selectMeasurement authorization position) := by
  unfold Service.selectMeasurement
  rw [Handler.obeys_bind, Service.obeys_authenticate]
  refine fun token _ => ⟨fun _ => trivial, fun c => ?_⟩
  rw [Handler.obeys_bind, Service.obeys_edit]
  refine ⟨fun _ => nofun, fun (o, b) => ?_⟩
  cases o with
  | lookup fields =>
      have hasked : (Outcome.lookup fields).lookup?
          = some (.fields fields) := rfl
      exact obeys_listing svc hasked
  | done | refused | selected | removed => exact Handler.obeys_throw _

/-- A publication takes no listing over. -/
theorem obeys_publish (p : Publication) :
    Handler.Obeys (Fetch.rule svc) (fun _ _ => True) []
      (svc.publish authorization p) := by
  simp only [Service.publish, Handler.obeys_bind, Handler.obeys_require,
    Handler.obeys_ite, Handler.obeys_throw, Service.obeys_authenticate,
    Handler.obeys_pure, implies_true, true_and]
  intro client _ _ _ token _
  refine ⟨fun _ => trivial, fun c => ?_⟩
  apply Handler.obeys_publish
  · exact fun _ _ _ => trivial
  intro later datasource
  apply Handler.obeys_publish
  · exact fun _ _ _ => trivial
  · exact fun _ _ => trivial

theorem obeys_listDatasources :
    Handler.Obeys (Fetch.rule svc) (fun _ _ => True) []
      (svc.listDatasources authorization) := by
  simp only [Service.listDatasources, Handler.obeys_bind,
    Handler.obeys_require, Service.obeys_authenticate, Handler.obeys_pure]
  intro client _ token _
  refine ⟨fun _ => trivial, fun c => ?_⟩
  apply Handler.obeys_publish
  · exact fun _ _ _ => trivial
  · exact fun _ _ => trivial

/-- An edit of another kind, and then a view or a refusal. -/
theorem obeys_editThen {token : String} {e : Edit} (h : e.column? = none)
    {past : List Deed} {next : Outcome × Builder → Handler Response}
    (answers : ∀ result, next result = Service.view token
      ∨ ∃ err, next result = throw err) :
    Handler.Obeys (Fetch.rule svc) (fun _ _ => True) past
      (Service.edit token e >>= next) := by
  rw [Handler.obeys_bind, Service.obeys_edit]
  refine ⟨fun _ hsome => ?_, fun result => ?_⟩
  · rw [h] at hsome
    cases hsome
  · rcases answers result with hview | ⟨err, hthrow⟩
    · rw [hview]
      exact (Service.obeys_view token).2 fun _ => trivial
    · rw [hthrow]
      exact Handler.obeys_throw err

theorem obeys_editAndView {e : Edit} (h : e.column? = none) :
    Handler.Obeys (Fetch.rule svc) (fun _ _ => True) []
      (Service.editAndView authorization e) := by
  refine (Handler.obeys_bind _ _).2 ((Handler.obeys_require _).2 ?_)
  intro token _
  exact obeys_editThen svc h fun _ => .inl rfl

theorem obeys_selectFields (positions : List Nat) :
    Handler.Obeys (Fetch.rule svc) (fun _ _ => True) []
      (Service.selectFields authorization positions) := by
  refine (Handler.obeys_bind _ _).2 ((Handler.obeys_require _).2 ?_)
  intro token _
  refine obeys_editThen svc rfl fun (o, b) => ?_
  cases o with
  | refused => exact .inr ⟨_, rfl⟩
  | done | selected | lookup | removed => exact .inl rfl

theorem obeys_removePart (index : Nat) :
    Handler.Obeys (Fetch.rule svc) (fun _ _ => True) []
      (Service.removePart authorization index) := by
  refine (Handler.obeys_bind _ _).2 ((Handler.obeys_require _).2 ?_)
  intro token _
  refine obeys_editThen svc rfl fun (o, b) => ?_
  cases o with
  | refused => exact .inr ⟨_, rfl⟩
  | done | selected | lookup | removed => exact .inl rfl

theorem obeys_selectRange (start : String) (stop : Option String) :
    Handler.Obeys (Fetch.rule svc) (fun _ _ => True) []
      (Service.selectRange authorization start stop) := by
  refine (Handler.obeys_bind _ _).2 ((Handler.obeys_require _).2 ?_)
  intro token _
  rw [Handler.obeys_ite]
  refine ⟨fun _ => Handler.obeys_throw _, fun _ => ?_⟩
  exact obeys_editThen svc rfl fun _ => .inl rfl

/-- Every request keeps to the rule. -/
theorem obeys_handle (action : Action) :
    Handler.Obeys (Fetch.rule svc) (fun _ _ => True) []
      (svc.handle authorization action) := by
  cases action with
  | login apiToken organization => exact obeys_login svc apiToken organization
  | selectBucket position =>
      exact obeys_selectBucket svc authorization position
  | selectMeasurement position =>
      exact obeys_selectMeasurement svc authorization position
  | selectFields positions =>
      exact obeys_selectFields svc authorization positions
  | selectRange start stop =>
      exact obeys_selectRange svc authorization start stop
  | removePart index => exact obeys_removePart svc authorization index
  | updateText | reset => exact obeys_editAndView svc authorization rfl
  | publish p => exact obeys_publish svc authorization p
  | datasources => exact obeys_listDatasources svc authorization
  | render | parse | live | ready => exact (Handler.obeys_pure _).2 trivial
  -- the others make no edit, or only one of the buckets that are offered
  | validate | logout | buckets | measurements | fields | analyze | run
  | view | refreshBuckets | health =>
      simp [Service.handle, Service.validate, Service.logout,
        Service.listBuckets, Service.listMeasurements, Service.listFields,
        Service.analyze, Service.run, Service.showBuilder,
        Service.refreshBuckets, Service.health, Fetch.rule, Deed.edit?,
        Edit.column?]

end Handlers

-- ============================================================ staleness

variable {svc : Service} {store : SessionStore} {moves : List Move}
  {front rest : List Entry} {entry : Entry} {token : String} {e : Edit}
  {answer : Except SessionError (Outcome × Builder)}

/-- In every run, a listing that is taken over is one that its request
has fetched. -/
theorem exists_fetch
    (split : (Server.run svc { store } moves).log = front ++ entry :: rest)
    (deed : entry.deed = .session (.edit token e) answer)
    (takesOver : e.column?.isSome) :
    ∃ (fetch : Fetch) (early mid : List Entry) (selection : Entry),
      front = early ++ selection :: mid
        ∧ fetch.MadeBy svc entry.request early selection mid
        ∧ token = fetch.token ∧ e = fetch.takeOver := by
  have hrule := Server.rule_run
    (Service.obeys_respond (obeys_handle svc)) split
  rw [deed] at hrule
  obtain ⟨fetch, hdeeds, htoken, he⟩ := hrule takesOver
  obtain ⟨early, selection, mid, hfront, hrequest, hselected, -, hfetched⟩ :=
    split_of_deedsOf [_] hdeeds
  exact ⟨fetch, early, mid, selection, hfront,
    ⟨hfront ▸ hdeeds, hrequest, hselected, hfetched⟩, htoken, he⟩

/-- A listing that is not taken over leaves every builder as it is. -/
theorem builders_of_dropped {revision : UInt64} {names : List String}
    {column : Column} (step : entry.IsStep)
    (deed : entry.deed
      = .session (.edit token (.takeOver revision names column)) answer)
    (dropped : ∀ b, answer ≠ .ok (.done, b)) (token' : String) :
    entry.after.find? token' = entry.before.find? token'
      ∨ (token' = token ∧ entry.after.find? token' = none) := by
  by_cases htoken : token' = token
  · subst htoken
    cases answer with
    | error => exact .inr ⟨rfl, Entry.edit_error step deed⟩
    | ok result =>
        obtain ⟨o, b⟩ := result
        obtain ⟨s, hs, happly, hafter⟩ := Entry.edit_ok step deed
        have hdropped : o ≠ .done := fun ho => dropped b (ho ▸ rfl)
        have hsame := Builder.takeOver_dropped
          (Builder.transition_of_apply happly) hdropped
        rw [hsame] at hafter
        exact .inl (hafter.trans hs.symm)
  · exact .inl (Entry.edit_other step deed htoken)

/-- Between the selection of a request and what it takes over, the session
is the same, and its revision counts the changes in between. -/
theorem builder_since_selection {early mid : List Entry}
    {selection : Entry} {store' : SessionStore} {o : Outcome}
    {installed : Builder} {s : Session} {e₀ : Edit}
    (traces : Traces store
      (early ++ selection :: (mid ++ entry :: rest)) store')
    (issued : IssuesOnce store
      (early ++ selection :: (mid ++ entry :: rest)))
    (selected : selection.deed
      = .session (.edit token e₀) (.ok (o, installed)))
    (found : entry.before.find? token = some s) :
    s.builder.revision = installed.revision
        + UInt64.ofNat (mid.countP (Entry.changesQuery token))
      ∧ (mid.countP (Entry.changesQuery token) = 0 →
        s.builder.query = installed.query) := by
  obtain ⟨hearly, hselection, hlate⟩ := traces_split traces
  obtain ⟨hmid, -, -⟩ := traces_split hlate
  have hkeyed : selection.after.WellKeyed :=
    Entry.wellKeyed_step hselection
      (wellKeyed_traces hearly (List.nodup_append.1 issued).1)
  obtain ⟨s₀, -, -, hinstalled⟩ := Entry.edit_ok hselection selected
  -- the token is taken when the selection is made
  have hkept : token ∉ openedTokens mid := by
    have hselected : Traces store (early ++ [selection]) selection.after :=
      traces_append_iff.2 ⟨_, hearly, .cons rfl hselection (.nil _)⟩
    rw [List.append_cons early] at issued
    have hlater := not_opened_of_found hselected issued hinstalled
    unfold openedTokens at hlater ⊢
    rw [List.filterMap_append, List.mem_append, not_or] at hlater
    exact hlater.1
  -- from the selection on, the log in between is followed
  obtain ⟨s₁, hs₁, hrevision, hquery⟩ :=
    builder_traces hmid hkeyed hkept found
  rw [hinstalled] at hs₁
  cases hs₁
  exact ⟨hrevision, hquery⟩

/-- A listing that is taken over finds the query that the selection of its
request has left, and the builder has the listing then. -/
theorem current_of_done {fetch : Fetch} {early mid : List Entry}
    {selection : Entry} {store' : SessionStore} {b : Builder}
    (traces : Traces store
      (early ++ selection :: (mid ++ entry :: rest)) store')
    (issued : IssuesOnce store
      (early ++ selection :: (mid ++ entry :: rest)))
    (made : fetch.MadeBy svc entry.request early selection mid)
    (few : mid.countP (Entry.changesQuery fetch.token) < UInt64.size)
    (deed : entry.deed
      = .session (.edit fetch.token fetch.takeOver) (.ok (.done, b))) :
    mid.countP (Entry.changesQuery fetch.token) = 0
      ∧ ∃ s, entry.before.find? fetch.token = some s
        ∧ s.builder.query = fetch.installed.query
        ∧ fetch.lookup.IsSelected s.builder := by
  obtain ⟨-, hselection, hlate⟩ := traces_split traces
  obtain ⟨-, hentry, -⟩ := traces_split hlate
  obtain ⟨s, hs, happly, -⟩ := Entry.edit_ok hentry deed
  obtain ⟨hrevision, hquery⟩ :=
    builder_since_selection traces issued made.selected hs
  obtain ⟨hcurrent, -⟩ :=
    Builder.takeOver_transition (Builder.transition_of_apply happly)
  rw [hcurrent] at hrevision
  have hnone := Builder.eq_zero_of_revision few hrevision
  refine ⟨hnone, s, hs, hquery hnone, ?_⟩
  obtain ⟨_, -, hinstalled, -⟩ :=
    Entry.edit_ok hselection made.selected
  exact Builder.isSelected_of_query (hquery hnone)
    (Builder.isSelected_transition (Builder.transition_of_apply hinstalled)
      fetch.asked)

/-- A listing is taken over only while the query is still the one that the
selection of its request has left, so what was selected then is selected
now. Once the query has changed it is dropped, and no builder changes. -/
theorem takeOver_guarded (svc : Service) (store : SessionStore)
    (moves : List Move)
    (issued : IssuesOnce store (Server.run svc { store } moves).log)
    (few : ∀ token, (Server.run svc { store } moves).log.countP
      (Entry.changesQuery token) < UInt64.size)
    {front rest : List Entry} {entry : Entry} {token : String} {e : Edit}
    {answer : Except SessionError (Outcome × Builder)}
    (split : (Server.run svc { store } moves).log = front ++ entry :: rest)
    (deed : entry.deed = .session (.edit token e) answer)
    (takesOver : e.column?.isSome) :
    ∃ (fetch : Fetch) (early mid : List Entry) (selection : Entry),
      front = early ++ selection :: mid
        ∧ fetch.MadeBy svc entry.request early selection mid
        ∧ token = fetch.token ∧ e = fetch.takeOver
        ∧ (∀ b, answer = .ok (.done, b) →
          ∃ s, entry.before.find? token = some s
            ∧ s.builder.query = fetch.installed.query
            ∧ fetch.lookup.IsSelected s.builder)
        ∧ ((∃ change ∈ mid, change.changesQuery token) →
          (∀ b, answer ≠ .ok (.done, b))
            ∧ ∀ token', entry.after.find? token' = entry.before.find? token'
              ∨ (token' = token ∧ entry.after.find? token' = none)) := by
  obtain ⟨fetch, early, mid, selection, rfl, hmade, rfl, rfl⟩ :=
    exists_fetch split deed takesOver
  have htraces := traces_run svc store moves
  have hfew := few fetch.token
  rw [split] at htraces issued hfew
  rw [List.append_assoc, List.cons_append] at htraces issued hfew
  -- the changes in between are among all changes
  have hmid : mid.countP (Entry.changesQuery fetch.token)
      < UInt64.size := by
    rw [List.countP_append, List.countP_cons, List.countP_append] at hfew
    omega
  have hcurrent : ∀ b, answer = .ok (.done, b) → _ := fun b hb =>
    current_of_done htraces issued hmade hmid (b := b) (hb ▸ deed)
  refine ⟨fetch, early, mid, selection, rfl, hmade, rfl, rfl,
    fun b hb => (hcurrent b hb).2, fun ⟨change, hchange, hchanges⟩ => ?_⟩
  have hdropped : ∀ b, answer ≠ .ok (.done, b) := by
    intro b hb
    have hnone := List.countP_eq_zero.1 (hcurrent b hb).1 change hchange
    exact hnone hchanges
  obtain ⟨-, -, hlate⟩ := traces_split htraces
  obtain ⟨-, hentry, -⟩ := traces_split hlate
  exact ⟨hdropped, builders_of_dropped hentry deed hdropped⟩

-- ============================================================= a session

/-- A service over a database that is near. -/
def sampleService : Service where
  influxUrl := "http://localhost:8086"
  lookback := "-10y"
  startedAt := ⟨0⟩

/-- A store with one session, whose builder is new. -/
def sampleStore : SessionStore where
  lifetime := 3600
  sessions := [("alice", { credentials := ⟨"secret", "acme"⟩
                           expiresAt := ⟨3600000⟩ })]

/-- What a database with two buckets answers. -/
def sampleAnswer {β : Type} : Remote β → β
  | .buckets _ => .ok [.named "metrics", .named "logs"]
  | .query .. => .ok [⟨["_value"], [["cpu"]]⟩]
  | .analyze .. => .ok []
  | .grafana _ => .refused

/-- What a request finds outside the service. -/
def sampleWorld : World where
  now := ⟨0⟩
  fresh := "bob"
  answer := sampleAnswer

/-- A request of the session. -/
def sampleRequest (method target body : String) : Request where
  method
  target
  authorization := ["Bearer alice"]
  contentType := some "application/json"
  body

/-- A request comes and takes so many steps, before any other. -/
def alone (n steps : Nat) (request : Request) : List Move :=
  .arrive (toString n) request :: List.replicate steps (.step n sampleWorld)

/-- The buckets are listed and the first one is selected. -/
def selectingRun : List Move :=
  alone 0 4 (sampleRequest "POST" "/api/v1/builder/buckets/refresh" "")
    ++ alone 1 5 (sampleRequest "POST" "/api/v1/builder/bucket"
      "\x7b\"position\": 0\x7d")

theorem takeOver_guarded_selectingRun :
    let log := (Server.run sampleService ⟨sampleStore, [], []⟩
      selectingRun).log
    IssuesOnce sampleStore log
      ∧ (∀ token, log.countP (Entry.changesQuery token) < UInt64.size)
      ∧ ∃ (entry : Entry) (fetch : Fetch) (s : Session),
        log[7]? = some entry
          ∧ fetch.takeOver = .applyMeasurements 1 ["cpu"]
          ∧ entry.before.find? "alice" = some s
          ∧ s.builder.query = fetch.installed.query
          ∧ fetch.lookup.IsSelected s.builder := by
  intro log
  have hissued : IssuesOnce sampleStore log := by decide +kernel
  have hfew : ∀ token,
      log.countP (Entry.changesQuery token) < UInt64.size := fun token =>
    Nat.lt_of_le_of_lt List.countP_le_length
      (by decide +kernel : log.length < UInt64.size)
  have hedit : log[7]?.bind (·.deed.edit?)
      = some ("alice", .applyMeasurements 1 ["cpu"],
        .ok (.done, Builder.applyAll {} [
          .setBuckets [.named "metrics", .named "logs"], .selectBucket 0,
          .applyMeasurements 1 ["cpu"]])) := by decide +kernel
  obtain ⟨entry, hentry, hdeed⟩ := Option.bind_eq_some_iff.1 hedit
  obtain ⟨fetch, _, _, _, _, _, htoken, htakeOver, hcurrent, _⟩ :=
    takeOver_guarded sampleService sampleStore selectingRun hissued hfew
      (split_at hentry) (Deed.eq_of_edit? hdeed) rfl
  obtain ⟨s, hs, hquery, hselected⟩ := hcurrent _ rfl
  exact ⟨hissued, hfew, entry, fetch, s, hentry, htakeOver.symm, hs,
    hquery, hselected⟩

end FluxComposer
