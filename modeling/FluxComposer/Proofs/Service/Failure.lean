import FluxComposer.Proofs.Service.Outcome
import FluxComposer.Proofs.Service.Staleness
import Mathlib.Logic.Function.Basic
/-
Requests that fail. A request that is handled alone, while no session is
over, is answered with an error only if it has left all sessions as they
were (`find?_of_failed`).

What its steps can find is `Sees`: sessions are over at no time, so a
step drops none, and a session that the request has worked on is still
there for its next step (`WorksOn`). So a request can fail at its first
step on a session, where it has done nothing, or at a step that is refused
by the builder, which changes nothing either; after an edit that was
carried out nothing can fail any more. Most handlers do not edit and
leave the sessions as they are whatever comes of them (`Spares`).
-/
namespace FluxComposer

-- =============================================================== stores

namespace SessionStore

variable {start store store' : SessionStore} {now : Instant}
  {token token' : String} {s : Session}

/-- No session is over at some time. -/
def IsLive (store : SessionStore) (now : Instant) : Prop :=
  ∀ token s, store.find? token = some s → s.isExpired now = false

/-- Taking out entries takes out no key whose first entry stays. -/
theorem lookup_filter_of_keeps (keeps : Session → Bool)
    {sessions : List (String × Session)} {token : String}
    (kept : ∀ s, sessions.lookup token = some s → keeps s = true) :
    (sessions.filter fun entry => keeps entry.2).lookup token
      = sessions.lookup token := by
  induction sessions with
  | nil => rfl
  | cons entry sessions ih =>
      obtain ⟨key, s⟩ := entry
      -- the first entry of the token is the one that counts, and it stays
      by_cases htoken : token = key
      · subst htoken
        have hkeeps : keeps s = true := kept s List.lookup_cons_self
        rw [List.filter_cons, if_pos hkeeps, List.lookup_cons_self,
          List.lookup_cons_self]
      · have hkey : (token == key) = false := beq_eq_false_iff_ne.2 htoken
        rw [List.lookup_cons, hkey] at kept ⊢
        rw [List.filter_cons]
        split
        · rw [List.lookup_cons, hkey]
          exact ih kept
        · exact ih kept

/-- Where no session is over, a purge hides none. -/
theorem find?_purge_of_isLive (live : store.IsLive now) :
    (store.purge now).find? = store.find? := by
  funext token
  refine lookup_filter_of_keeps (fun s => !s.isExpired now)
    fun s hs => ?_
  rw [live token s hs]
  rfl

/-- What touching a session does where none is over. -/
theorem touch_of_isLive {α : Type} (live : store.IsLive now)
    (token : String) (use : Session → α × Session) :
    store.touch now token use
      = match store.find? token with
        | none => (.error .unknown, store)
        | some s => (.ok (use s).1, store.insert token (use s).2) := by
  unfold touch
  cases hs : store.find? token with
  | none => rfl
  | some s =>
      have hend := live token s hs
      simp only [hend]
      rfl

/-- A session that is put in is found at its token, and all others as
before. -/
theorem find?_insert_eq (store : SessionStore) (token : String)
    (s : Session) : (store.insert token s).find?
      = Function.update store.find? token (some s) := by
  funext token'
  rw [find?_insert, Function.update_apply]

/-- The sessions are those at the start, but for the builder of one. -/
def WorksOn (start : SessionStore) (token : String)
    (store : SessionStore) : Prop :=
  ∃ s b, start.find? token = some s
    ∧ store.find?
      = Function.update start.find? token (some { s with builder := b })

/-- A store with the same sessions has none that is over either. -/
theorem isLive_congr (same : store.find? = start.find?)
    (live : start.IsLive now) : store.IsLive now :=
  fun token s hs => live token s (same ▸ hs)

/-- Working on a session does not bring its end nearer. -/
theorem WorksOn.isLive (works : WorksOn start token store)
    (live : start.IsLive now) : store.IsLive now := by
  obtain ⟨s, b, hs, hstore⟩ := works
  intro token' s' hs'
  rw [hstore, Function.update_apply] at hs'
  split at hs'
  · obtain rfl := Option.some.inj hs'
    exact live token s hs
  · exact live token' s' hs'

/-- A session that was worked on is there to be worked on again. -/
theorem WorksOn.withBuilder {α : Type} (works : WorksOn start token store)
    (live : start.IsLive now) (use : Builder → α × Builder) :
    (∃ a, (store.withBuilder now token use).1 = .ok a)
      ∧ WorksOn start token (store.withBuilder now token use).2 := by
  have htouch := touch_of_isLive (works.isLive live) token fun s =>
    ((use s.builder).1, { s with builder := (use s.builder).2 })
  obtain ⟨s, b, hs, hstore⟩ := works
  have hfound : store.find? token = some { s with builder := b } := by
    rw [hstore, Function.update_self]
  rw [hfound] at htouch
  rw [show store.withBuilder now token use = _ from htouch]
  -- the second change to the same session replaces the first
  refine ⟨⟨_, rfl⟩, s, (use b).2, hs, ?_⟩
  rw [find?_insert_eq, hstore, Function.update_idem]

/-- Touching a session and leaving it as it is leaves all sessions. -/
theorem find?_touch_same {α : Type} {use : Session → α × Session}
    (looks : ∀ s, (use s).2 = s) (live : store.IsLive now)
    (token : String) :
    (store.touch now token use).2.find? = store.find? := by
  rw [touch_of_isLive live]
  cases hs : store.find? token with
  | none => rfl
  | some s =>
      rw [find?_insert_eq, looks, ← hs, Function.update_eq_self]

/-- An edit of a session that is not there changes nothing; otherwise it
works on the session. -/
theorem edit_cases {e : Builder.Edit}
    {answer : Except SessionError (Builder.Outcome × Builder)}
    {fresh : String} {issuedAt : Instant} (live : store.IsLive now)
    (run : (SessionOp.edit token e).run now fresh store issuedAt
      = (answer, store')) :
    (∃ err, answer = .error err ∧ store' = store)
      ∨ ∃ s, store.find? token = some s
        ∧ answer = .ok (s.builder.apply e)
        ∧ store'.find? = Function.update store.find? token
          (some { s with builder := (s.builder.apply e).2 }) := by
  have htouch : store.touch now token (fun s =>
      (s.builder.apply e, { s with builder := (s.builder.apply e).2 }))
        = (answer, store') := run
  rw [touch_of_isLive live] at htouch
  cases hs : store.find? token with
  | none =>
      rw [hs] at htouch
      cases htouch
      exact .inl ⟨_, rfl, rfl⟩
  | some s =>
      rw [hs] at htouch
      cases htouch
      exact .inr ⟨s, rfl, rfl, find?_insert_eq store token _⟩

end SessionStore

-- ============================================================= handlers

/-- What a step can find, and leave, while no session of a store is
over. -/
def SessionStore.Sees (start store : SessionStore) (deed : Deed)
    (store' : SessionStore) : Prop :=
  match deed with
  | .session op answer => ∃ now fresh issuedAt, start.IsLive now
      ∧ op.run now fresh store issuedAt = (answer, store')
  | .remote .. | .clock .. => store' = store

/-- Whether an answer reports success. -/
def Response.isSuccess (r : Response) : Bool :=
  200 ≤ r.status && r.status < 300

/-- An operation leaves the sessions as they are, where none is over. -/
def SessionOp.Looks {α : Type} (op : SessionOp α) : Prop :=
  ∀ (store : SessionStore) (now : Instant) (fresh : String)
    (issuedAt : Instant), store.IsLive now →
    (op.run now fresh store issuedAt).2.find? = store.find?

/-- Looking up credentials leaves the sessions as they are. -/
theorem looks_credentials (token : String) :
    (SessionOp.credentials token).Looks :=
  fun _ _ _ _ live =>
    SessionStore.find?_touch_same (fun _ => rfl) live token

/-- Viewing a builder leaves the sessions as they are. -/
theorem looks_view (token : String) : (SessionOp.view token).Looks :=
  fun _ _ _ _ live =>
    SessionStore.find?_touch_same (fun _ => rfl) live token

/-- A purge drops nothing where no session is over. -/
theorem looks_purge : SessionOp.purge.Looks :=
  fun _ _ _ _ live => SessionStore.find?_purge_of_isLive live

/-- Counting the sessions leaves them as they are. -/
theorem looks_size : SessionOp.size.Looks := fun _ _ _ _ _ => rfl

/-- After an operation that only looks, the sessions are still those at the
start. -/
theorem SessionStore.Sees.find?_of_looks {α : Type} {op : SessionOp α}
    {answer : α} {start store store' : SessionStore}
    (seen : start.Sees store (.session op answer) store')
    (looks : op.Looks) (same : store.find? = start.find?) :
    store'.find? = start.find? := by
  obtain ⟨now, fresh, issuedAt, live, hrun⟩ := seen
  have hstore := looks store now fresh issuedAt
    (SessionStore.isLive_congr same live)
  rw [hrun] at hstore
  exact hstore.trans same

namespace Handler

variable {α β : Type} {start store : SessionStore}

/-- Whatever comes of a handler, it leaves the sessions as they were. -/
def Spares (start : SessionStore) (h : Handler α) : Prop :=
  ∀ store : SessionStore, store.find? = start.find? →
    h.Leads start.Sees True (fun store _ => store.find? = start.find?)
      (fun store _ => store.find? = start.find?) store

/-- A handler leaves the sessions as they were unless it reports
success. -/
def SparesOnFailure (start : SessionStore) (h : Handler Response) : Prop :=
  ∀ store : SessionStore, store.find? = start.find? →
    h.Leads start.Sees True
      (fun store r => r.isSuccess = false → store.find? = start.find?)
      (fun store _ => store.find? = start.find?) store

/-- What always leaves the sessions does so where it fails. -/
theorem sparesOnFailure_of_spares {h : Handler Response}
    (spares : h.Spares start) : h.SparesOnFailure start :=
  fun store same => leads_mono (fun _ _ hs _ => hs) (fun _ _ hs => hs)
    (spares store same)

/-- A result takes no step. -/
theorem spares_pure (a : α) : Spares start (pure a) :=
  fun _ same => (leads_pure a).2 same

/-- A refusal takes no step. -/
theorem spares_throw (e : ApiError) :
    Spares start (throw e : Handler α) :=
  fun _ same => (leads_throw e).2 same

/-- Two handlers that leave the sessions do so one after the other. -/
theorem spares_bind {h : Handler α} {f : α → Handler β}
    (first : h.Spares start) (rest : ∀ a, (f a).Spares start) :
    Spares start (h >>= f) := fun store same =>
  (leads_bind h f).2 (leads_mono (fun store a hs => rest a store hs)
    (fun _ _ hs => hs) (first store same))

/-- What is known is looked at without a step. -/
theorem spares_require (result : Except ApiError α) :
    Spares start (require result) := fun _ same =>
  (leads_require result).2 ⟨fun _ _ => same, fun _ _ => same⟩

/-- A call of the database has nothing to do with the sessions. -/
theorem spares_database (call : Remote (Except InfluxError α)) :
    Spares start (database call) := by
  intro store same
  refine (leads_database call).2 ⟨?_, ?_⟩
  · rintro a store' rfl
    exact same
  · rintro e store' rfl
    exact same

/-- A talk with the dashboard server has nothing to do with the sessions. -/
theorem spares_publish (talk : Http.Talk (Except GrafanaError α)) :
    Spares start (publish talk) := by
  intro store same
  refine leads_publish (fun store => store.find? = start.find?) talk ?_
    (fun _ _ hs => hs) (fun _ _ hs => hs) same
  rintro store request answer store' hs rfl
  exact hs

/-- Both branches leave the sessions. -/
theorem spares_ite {c : Prop} [Decidable c] {h h' : Handler α}
    (first : h.Spares start) (second : h'.Spares start) :
    Spares start (if c then h else h') := by
  split
  · exact first
  · exact second

/-- An operation that only looks leaves the sessions. -/
theorem spares_session {op : SessionOp α} (looks : op.Looks) :
    Spares start (session op) := fun _ same =>
  (leads_session op).2 fun _ _ seen => seen.find?_of_looks looks same

/-- An operation that only looks leaves the sessions, whether it succeeds or
is refused. -/
theorem spares_within {op : SessionOp (Except SessionError α)}
    (looks : op.Looks) : Spares start (within op) := fun _ same =>
  (leads_within op).2 ⟨fun _ _ seen => seen.find?_of_looks looks same,
    fun _ _ seen => seen.find?_of_looks looks same⟩

/-- Reading the clock leaves the sessions. -/
theorem spares_now : Spares start now := by
  refine fun store same => leads_now.2 ?_
  rintro t store' rfl
  exact same

/-- A handler may do what it wants after one that leaves the sessions, as
long as its failures leave them. -/
theorem sparesOnFailure_bind {h : Handler α} {f : α → Handler Response}
    (first : h.Spares start) (rest : ∀ a, (f a).SparesOnFailure start) :
    SparesOnFailure start (h >>= f) := fun store same =>
  (leads_bind h f).2 (leads_mono (fun store a hs => rest a store hs)
    (fun _ _ hs => hs) (first store same))

-- ============================================================ after work

/-- Once the session with a token has been worked on, a handler
succeeds. -/
def SucceedsAfterWork (start : SessionStore) (token : String)
    (h : Handler Response) : Prop :=
  ∀ store : SessionStore, start.WorksOn token store →
    h.Leads start.Sees True (fun _ r => r.isSuccess = true)
      (fun _ _ => False) store

variable {token : String}

/-- The session that was worked on is there to be viewed. -/
theorem succeeds_view : SucceedsAfterWork start token (Service.view token) := by
  intro store works
  unfold Service.view
  rw [leads_bind, leads_within]
  refine ⟨fun builder store' _ => (leads_pure _).2 rfl, ?_⟩
  rintro e store' ⟨now, fresh, _, live, hrun⟩
  have hview : store.withBuilder now token (fun b => (b, b))
      = (.error e, store') := hrun
  obtain ⟨⟨a, hok⟩, -⟩ := works.withBuilder live fun b => (b, b)
  rw [hview] at hok
  cases hok

/-- The session that was worked on is there to be edited, and is worked on
again. -/
theorem succeeds_editThen {e : Builder.Edit}
    {next : Builder.Outcome × Builder → Handler Response}
    (rest : ∀ result, SucceedsAfterWork start token (next result)) :
    SucceedsAfterWork start token (Service.edit token e >>= next) := by
  intro store works
  rw [leads_bind, Service.leads_edit]
  have hwork : ∀ answer store',
      start.Sees store (.session (.edit token e) answer) store' →
      (∃ result, answer = .ok result) ∧ start.WorksOn token store' := by
    rintro answer store' ⟨now, fresh, _, live, hrun⟩
    have hedit : store.withBuilder now token
        (fun b => (b.apply e, (b.apply e).2)) = (answer, store') := hrun
    have hbuilder := works.withBuilder live fun b =>
      (b.apply e, (b.apply e).2)
    rwa [hedit] at hbuilder
  refine ⟨fun result store' seen => ?_, fun err store' seen => ?_⟩
  · exact rest result store' (hwork _ _ seen).2
  · obtain ⟨⟨result, hresult⟩, -⟩ := hwork _ _ seen
    cases hresult

/-- A call whose error is looked at does not end a request. -/
theorem succeeds_attemptThen {call : Remote (Except InfluxError α)}
    {next : Except InfluxError α → Handler Response}
    (rest : ∀ answer, SucceedsAfterWork start token (next answer)) :
    SucceedsAfterWork start token (attempt call >>= next) := by
  intro store works
  rw [leads_bind, leads_attempt]
  rintro answer store' rfl
  exact rest answer store' works

/-- An edit and what comes after it: a refusal where the builder has
refused the edit, and otherwise nothing that can fail. -/
theorem sparesOnFailure_editThen {e : Builder.Edit}
    {next : Builder.Outcome × Builder → Handler Response}
    (answers : ∀ {b o b'}, Builder.Transition b e o b' →
      SucceedsAfterWork start token (next (o, b'))
        ∨ (o = .refused ∧ ∃ err, next (o, b') = throw err)) :
    SparesOnFailure start (Service.edit token e >>= next) := by
  intro store same
  rw [leads_bind, Service.leads_edit]
  refine ⟨?_, ?_⟩
  · rintro ⟨o, b'⟩ store' ⟨now, fresh, _, live, hrun⟩
    rcases SessionStore.edit_cases (SessionStore.isLive_congr same live)
      hrun with ⟨err, herr, -⟩ | ⟨s, hs, hanswer, hstore⟩
    · cases herr
    have happly : s.builder.apply e = (o, b') :=
      (Except.ok.inj hanswer).symm
    rw [happly, same] at hstore
    have htransition := Builder.transition_of_apply happly
    rcases answers htransition with hsucceeds | ⟨rfl, err, hthrow⟩
    · refine leads_mono (fun _ r hr hfail => ?_) (fun _ _ => False.elim)
        (hsucceeds store' ⟨s, b', same ▸ hs, hstore⟩)
      rw [hr] at hfail
      cases hfail
    · -- a refused edit has left the builder as it was
      cases htransition
      rw [hthrow, leads_throw, hstore, ← same, ← hs,
        Function.update_eq_self]
  · rintro err store' ⟨now, fresh, _, live, hrun⟩
    rcases SessionStore.edit_cases (SessionStore.isLive_congr same live)
      hrun with ⟨_, -, rfl⟩ | ⟨s, -, hanswer, -⟩
    · exact same
    · cases hanswer

end Handler

-- ============================================================= requests

section Requests

open Handler

variable {start : SessionStore} (svc : Service)
  (authorization : List String)

/-- Looking up who is asking leaves the sessions. -/
theorem spares_authenticate :
    Spares start (Service.authenticate authorization) :=
  spares_bind (spares_require _) fun token =>
    spares_bind (spares_within (looks_credentials token)) fun _ =>
      spares_pure _

/-- A login fails before it opens a session. -/
theorem sparesOnFailure_login (apiToken organization : String) :
    SparesOnFailure start (Service.login apiToken organization) := by
  intro store same
  unfold Service.login
  rw [leads_ite]
  refine ⟨fun _ => (leads_throw _).2 same, fun _ => ?_⟩
  rw [leads_bind, leads_attempt]
  rintro answer store' rfl
  dsimp only
  split
  · -- the session that is opened is a change, but nothing fails after it
    rw [leads_bind, leads_session]
    rintro issued store' -
    cases issued with
    | none => exact leads_crash.2 trivial
    | some issued => exact (leads_pure _).2 nofun
  all_goals
    rw [leads_bind]
    exact (leads_throw _).2 same

/-- A logout with a token does not fail. -/
theorem sparesOnFailure_logout :
    SparesOnFailure start (Service.logout authorization) := by
  refine sparesOnFailure_bind (spares_require _) fun token store same => ?_
  rw [leads_bind, leads_session]
  exact fun _ _ _ => (leads_pure _).2 nofun

/-- A report leaves the sessions. -/
theorem spares_health : Spares start svc.health :=
  spares_bind (spares_session looks_purge) fun _ =>
    spares_bind spares_now fun _ =>
      spares_bind (spares_session looks_size) fun _ => spares_pure _

/-- A view leaves the sessions. -/
theorem spares_view (token : String) : Spares start (Service.view token) :=
  spares_bind (spares_within (looks_view token)) fun _ => spares_pure _

/-- A publication leaves the sessions. -/
theorem spares_publish (p : Publication) :
    Spares start (svc.publish authorization p) := by
  unfold Service.publish
  refine spares_bind (spares_require _) fun client => ?_
  refine spares_ite (spares_throw _) (spares_ite (spares_throw _) ?_)
  refine spares_bind (spares_authenticate _) fun (_, c) => ?_
  refine Handler.spares_bind (Handler.spares_publish _) fun _ => ?_
  exact spares_bind (Handler.spares_publish _) fun _ => spares_pure _

/-- After a selection, its listing is taken over if it can be had. -/
theorem succeeds_listing {token : String}
    (call : Remote (Except InfluxError (List Table)))
    (e : List Table → Builder.Edit) :
    SucceedsAfterWork start token (do
      match ← attempt call with
      | .ok tables =>
        let _ ← Service.edit token (e tables)
        Service.view token
      | .error _ => Service.view token) := by
  refine succeeds_attemptThen fun answer => ?_
  cases answer with
  | ok tables => exact succeeds_editThen fun _ => succeeds_view
  | error => exact succeeds_view

/-- The selection of a bucket fails at the credentials or at the edit, which
changes nothing then. -/
theorem sparesOnFailure_selectBucket (position : Nat) :
    SparesOnFailure start (svc.selectBucket authorization position) := by
  refine sparesOnFailure_bind (spares_authenticate authorization) ?_
  rintro ⟨token, c⟩
  refine sparesOnFailure_editThen fun transition => ?_
  cases transition with
  | refused => exact .inr ⟨rfl, _, rfl⟩
  | selectBucket =>
      exact .inl (succeeds_listing _ fun tables => .applyMeasurements _
        (Schema.distinctValues tables "_measurement"))

/-- The selection of a measurement fails at the credentials or at the edit,
which changes nothing then. -/
theorem sparesOnFailure_selectMeasurement (position : Nat) :
    SparesOnFailure start
      (svc.selectMeasurement authorization position) := by
  refine sparesOnFailure_bind (spares_authenticate authorization) ?_
  rintro ⟨token, c⟩
  refine sparesOnFailure_editThen fun transition => ?_
  cases transition with
  | refused => exact .inr ⟨rfl, _, rfl⟩
  | selectMeasurement =>
      exact .inl (succeeds_listing _ fun tables => .applyFields _
        (Schema.distinctValues tables "_field"))

/-- An edit that is never refused. -/
theorem sparesOnFailure_editAndView (e : Builder.Edit) :
    SparesOnFailure start (Service.editAndView authorization e) :=
  sparesOnFailure_bind (spares_require _) fun _ =>
    sparesOnFailure_editThen fun _ => .inl succeeds_view

/-- The selection of fields fails at a position that no field has, and
nothing is changed then. -/
theorem sparesOnFailure_selectFields (positions : List Nat) :
    SparesOnFailure start (Service.selectFields authorization positions) := by
  refine sparesOnFailure_bind (spares_require _) fun token => ?_
  refine sparesOnFailure_editThen fun transition => ?_
  cases transition with
  | refused => exact .inr ⟨rfl, _, rfl⟩
  | dropFields | selectFields => exact .inl succeeds_view

/-- The removal of a part fails where there is no such part, and nothing is
changed then. -/
theorem sparesOnFailure_removePart (index : Nat) :
    SparesOnFailure start (Service.removePart authorization index) := by
  refine sparesOnFailure_bind (spares_require _) fun token => ?_
  refine sparesOnFailure_editThen fun transition => ?_
  cases transition with
  | refused => exact .inr ⟨rfl, _, rfl⟩
  | removePart => exact .inl succeeds_view

/-- A blank start is refused before the builder is touched. -/
theorem sparesOnFailure_selectRange (first : String)
    (stop : Option String) : SparesOnFailure start
      (Service.selectRange authorization first stop) := by
  refine sparesOnFailure_bind (spares_require _) fun token => ?_
  show SparesOnFailure start (ite _ _ _)
  split
  · exact sparesOnFailure_of_spares (spares_throw _)
  · exact sparesOnFailure_editThen fun _ => .inl succeeds_view

/-- Buckets that cannot be listed are not taken over. -/
theorem sparesOnFailure_refreshBuckets :
    SparesOnFailure start (Service.refreshBuckets authorization) :=
  sparesOnFailure_bind (spares_authenticate authorization) fun _ =>
    sparesOnFailure_bind (spares_database _) fun _ =>
      sparesOnFailure_editThen fun _ => .inl succeeds_view

/-- A request that fails leaves the sessions as they were, whatever it
asks for. -/
theorem sparesOnFailure_handle (action : Action) :
    SparesOnFailure start (svc.handle authorization action) := by
  cases action with
  | login apiToken organization =>
      exact sparesOnFailure_login apiToken organization
  | logout => exact sparesOnFailure_logout authorization
  | refreshBuckets => exact sparesOnFailure_refreshBuckets authorization
  | selectBucket position =>
      exact sparesOnFailure_selectBucket svc authorization position
  | selectMeasurement position =>
      exact sparesOnFailure_selectMeasurement svc authorization position
  | selectFields positions =>
      exact sparesOnFailure_selectFields authorization positions
  | selectRange first stop =>
      exact sparesOnFailure_selectRange authorization first stop
  | updateText | reset => exact sparesOnFailure_editAndView authorization _
  | removePart index => exact sparesOnFailure_removePart authorization index
  | render | parse | live | ready =>
      exact sparesOnFailure_of_spares (spares_pure _)
  | validate =>
      exact sparesOnFailure_of_spares
        (spares_bind (spares_authenticate authorization) fun _ =>
          spares_pure _)
  | buckets | measurements | fields =>
      exact sparesOnFailure_of_spares
        (spares_bind (spares_authenticate authorization) fun _ =>
          spares_bind (spares_database _) fun _ => spares_pure _)
  | analyze | run =>
      exact sparesOnFailure_of_spares
        (spares_bind (spares_authenticate authorization) fun _ =>
          spares_bind (spares_require _) fun _ =>
            spares_bind (spares_database _) fun _ => spares_pure _)
  | view =>
      exact sparesOnFailure_of_spares
        (spares_bind (spares_require _) spares_view)
  | publish p =>
      exact sparesOnFailure_of_spares (spares_publish svc authorization p)
  | datasources =>
      exact sparesOnFailure_of_spares
        (spares_bind (spares_require _) fun _ =>
          spares_bind (spares_authenticate authorization) fun _ =>
            spares_bind (Handler.spares_publish _) fun _ => spares_pure _)
  | health => exact sparesOnFailure_of_spares (spares_health svc)

/-- What a step finds at a time at which no session is over. -/
theorem sees_of_step? {world : World} {flow flow' : Flow Response}
    {deed : Deed} {store store' : SessionStore}
    (live : start.IsLive world.now)
    (next : flow.step? world store = some (deed, flow', store')) :
    start.Sees store deed store' := by
  cases flow with
  | done | crash => cases next
  | session op =>
      cases next
      exact ⟨world.now, world.fresh, world.issuedAt, live, rfl⟩
  | remote | clock =>
      cases next
      rfl

/-- A request that fails leaves the sessions as they were at its start, at
every step. -/
theorem leads_respond_failure (id : String) (request : Request) :
    (svc.respond id request).Leads start.Sees True
      (fun store r => r.isSuccess = false → store.find? = start.find?)
      start := by
  refine Service.leads_respond (fun _ => nofun) (fun _ _ _ => rfl)
    (fun _ _ h => h) fun action _ => ?_
  exact leads_mono (fun _ _ h => h) (fun _ _ h _ => h)
    (sparesOnFailure_handle svc request.authorization action start rfl)

/-- A request that is handled alone while no session is over and is not
answered with success has left every session as it was. -/
theorem find?_of_failed (server : Server) (id : String)
    (request : Request) (worlds : List World)
    (live : ∀ world ∈ worlds, server.store.IsLive world.now) :
    let i := server.flows.length
    let after := server.run svc
      (.arrive id request :: worlds.map (.step i))
    ∀ response, after.flows[i]? = some (.done response) →
      response.isSuccess = false →
      after.store.find? = server.store.find? := by
  intro i after response hanswer hfail
  have hstanding : (server.move svc (.arrive id request)).flows[i]?
      = some (svc.respond id request) := List.getElem?_concat_length
  -- the flow that has come to the answer is the one that the steps of this
  -- request have led to
  obtain ⟨flow, hflow, hleads⟩ := Server.leads_alone
    (fun world hworld _ _ _ _ _ next =>
      sees_of_step? (live world hworld) next)
    hstanding (leads_respond_failure svc id request)
  obtain rfl := Option.some.inj (hanswer.symm.trans hflow)
  exact hleads hfail

end Requests

/-- The status of the answer that a flow has come to. -/
def Flow.status? : Flow Response → Option Nat
  | .done response => some response.status
  | _ => none

/-- A flow with a status has come to its answer. -/
theorem Flow.exists_of_status? {flow : Flow Response} {status : Nat}
    (h : flow.status? = some status) :
    ∃ response, flow = .done response ∧ response.status = status := by
  cases flow with
  | done response => exact ⟨response, rfl, Option.some.inj h⟩
  | crash | session | remote | clock => cases h

/-- The session of the sample is not over at the beginning. -/
theorem isLive_sampleStore : sampleStore.IsLive ⟨0⟩ := by
  intro token s hs
  unfold sampleStore SessionStore.find? at hs
  rw [List.lookup_cons] at hs
  split at hs
  · cases hs
    rfl
  · cases hs

/-- A bucket is selected before any is listed. -/
theorem find?_of_failed_unlisted :
    let after := Server.run sampleService { store := sampleStore }
      (alone 0 2 (sampleRequest "POST" "/api/v1/builder/bucket"
        "\x7b\"position\": 0\x7d"))
    sampleStore.IsLive ⟨0⟩
      ∧ (∃ response, after.flows[0]? = some (.done response)
        ∧ response.status = 400)
      ∧ after.store.find? = sampleStore.find? := by
  intro after
  have hstatus : after.flows[0]?.bind Flow.status? = some 400 := by
    decide +kernel
  obtain ⟨flow, hflow, hdone⟩ := Option.bind_eq_some_iff.1 hstatus
  obtain ⟨response, rfl, hresponse⟩ := Flow.exists_of_status? hdone
  refine ⟨isLive_sampleStore, ⟨response, hflow, hresponse⟩, ?_⟩
  refine find?_of_failed sampleService { store := sampleStore } "0" _
    (List.replicate 2 sampleWorld) ?_ response hflow ?_
  · intro world hworld
    rw [List.eq_of_mem_replicate hworld]
    exact isLive_sampleStore
  · unfold Response.isSuccess
    rw [hresponse]
    rfl

end FluxComposer
