import FluxComposer.Proofs.Service.Asked
import FluxComposer.Proofs.Service.Permit
import FluxComposer.Proofs.Session.History
/-
Who is let in. In every run, however the requests are interleaved, another
server is called only for a session: by a login, about the credentials
that it was given, or by a request that has found the session of its own
token, stored and not over, with the credentials for which a login has
opened it (`isGuarded_run`). A request that has no token, or whose token
gives no session, does nothing else and is answered with an error.

The first part carries the rule that all requests keep to over to runs
(`stands_run`) and finds the moves behind a log (`Made`). The second goes
back from a session to the login that opened it (`openedFor_of_found`).
-/
namespace FluxComposer

/-- What a request asks for, if it is one that is carried out. -/
def Request.asked? (r : Request) : Option Action :=
  if r.method = "OPTIONS" then none else r.action.toOption

/-- What is carried out is what the request asks for. -/
theorem Request.action_of_asked? {r : Request} {action : Action}
    (asked : r.asked? = some action) : r.action = .ok action := by
  unfold Request.asked? at asked
  split at asked
  case isTrue => cases asked
  case isFalse =>
    cases hread : r.action with
    | error status =>
        rw [hread] at asked
        cases asked
    | ok action' =>
        rw [hread] at asked
        cases asked
        rfl

/-- An answer to an error reports an error. -/
theorem ApiError.le_status (id : String) (e : ApiError) :
    400 ≤ (e.response id).status := by
  cases e with
  | session e => cases e <;> exact Nat.le_of_ble_eq_true rfl
  | influx e =>
      cases e with
      | api status message =>
          show 400 ≤ (influxCode (.api status message)).1
          simp only [influxCode]
          split <;> exact Nat.le_of_ble_eq_true rfl
      | unauthorized | unavailable | timeout | request | decode =>
          exact Nat.le_of_ble_eq_true rfl
  | grafana e => cases e <;> exact Nat.le_of_ble_eq_true rfl
  | validation | notFound | unauthorized | internal | io =>
      exact Nat.le_of_ble_eq_true rfl

/-- Every operation can be answered. -/
theorem SessionOp.nonempty {α : Type} (op : SessionOp α) : Nonempty α :=
  ⟨(op.run ⟨0⟩ "" { lifetime := 0 }).1⟩

/-- Every call can be answered. -/
theorem Remote.nonempty {α : Type} (call : Remote α) : Nonempty α := by
  cases call with
  | buckets | query | analyze => exact ⟨.error .timeout⟩
  | grafana => exact ⟨.refused⟩

namespace Access

variable {svc : Service} {authorization : List String} {action : Action}
  {past : List Deed} {deed : Deed} {request : Request}

-- ============================================================= requests

/-- A request has no token, or was refused a session. -/
def TurnedAway (authorization : List String) (past : List Deed) : Prop :=
  (∃ e, Service.bearer authorization = .error e) ∨ ¬ Unrefused past

/-- A request that is turned away was not granted what it needs. -/
theorem not_granted (needed : action.isProtected = true)
    (away : TurnedAway authorization past) :
    ¬ Granted authorization action past := by
  intro granted
  obtain ⟨hunrefused, hown⟩ := granted
  obtain ⟨token, htoken⟩ := hown needed
  rcases away with ⟨e, he⟩ | hrefused
  · rw [htoken] at he
    cases he
  · exact hrefused hunrefused

/-- A request that needs a session does nothing once it is turned
away. -/
theorem not_rule (needed : action.isProtected = true)
    (away : TurnedAway authorization past) :
    ¬ rule svc authorization action past deed := by
  intro follows
  obtain ⟨hpermits, hunrefused⟩ := follows
  rcases away with ⟨e, he⟩ | hrefused
  · cases hpermits with
    | lookup _ own | call _ own =>
        rw [own] at he
        cases he
    | ask h | enter h | leave h | purge h | size h | clock h =>
        rw [h] at needed
        cases needed
  · exact hrefused hunrefused

/-- Only a login opens a session. -/
theorem login_of_created {c : Credentials}
    (h : Permits svc authorization action past deed)
    (created : deed.created? = some c) :
    ∃ apiToken organization buckets,
      action = .login apiToken organization
        ∧ c = Action.asked apiToken organization
        ∧ .remote (.buckets c) (.ok buckets) ∈ past := by
  -- of what is permitted only `enter` opens a session
  cases h with
  | lookup _ _ looks =>
      cases deed with
      | remote | clock => cases looks
      | session op answer =>
          cases op with
          | create | remove | purge | size => cases looks
          | credentials | edit | view => cases created
  | enter login accepted =>
      cases created
      exact ⟨_, _, _, login, rfl, accepted⟩
  | call | ask | leave | purge | size | clock => cases created

/-- Another server is called for a login or for a session. -/
theorem carries_of_call {β : Type} {call : Remote β} {answer : β}
    (h : Permits svc authorization action past (.remote call answer)) :
    (∃ apiToken organization, action = .login apiToken organization
        ∧ call.Carries svc (Action.asked apiToken organization))
      ∨ ∃ token c, Service.bearer authorization = .ok token
        ∧ .session (.credentials token) (.ok c) ∈ past
        ∧ call.Carries svc c := by
  cases h with
  | lookup _ _ looks => cases looks
  | call _ own resolved carries =>
      exact .inr ⟨_, _, own, resolved, carries⟩
  | ask login => exact .inl ⟨_, _, login, rfl⟩

/-- The first that a request does that needs a session is to look it
up. -/
theorem lookedUp_of_first (needed : action.isProtected = true)
    (h : Permits svc authorization action [] deed) :
    ∃ token, Service.bearer authorization = .ok token
      ∧ deed.lookedUp? = some token := by
  cases h with
  | lookup _ own looks => exact ⟨_, own, looks⟩
  | call _ _ resolved => cases resolved
  | ask h | enter h | leave h | purge h | size h | clock h =>
      rw [h] at needed
      cases needed

/-- Where a request can stand after what it has done. -/
def Stands (svc : Service) (request : Request) (past : List Deed)
    (flow : Flow Response) : Prop :=
  match request.asked? with
  | none => ∃ response, flow = .done response
  | some action =>
    flow.Obeys (rule svc request.authorization action)
        (fun past response => Granted request.authorization action past
          ∨ 400 ≤ response.status) past
      ∧ (action.isProtected = true → Ends flow)

/-- A request that has just come stands where it can. -/
theorem stands_respond (id : String) (request : Request) :
    Stands svc request [] (svc.respond id request) := by
  unfold Stands Request.asked?
  by_cases hoptions : request.method = "OPTIONS"
  · rw [if_pos hoptions]
    exact ⟨_, if_pos hoptions⟩
  rw [if_neg hoptions]
  cases haction : request.action with
  | error status =>
      refine ⟨{ status }, ?_⟩
      unfold Service.respond
      rw [if_neg hoptions, haction]
      rfl
  | ok action =>
      have hrejected : ∀ status, request.action ≠ .error status := by
        rw [haction]
        exact fun _ => nofun
      refine ⟨Service.obeys_respond_post (absurd · hoptions)
        (fun status h => absurd h (hrejected status))
        (fun _ e => .inr (e.le_status id)) (fun _ _ h => h) ?_,
        fun needed => Service.leads_respond (fun _ => trivial)
          (fun _ _ => trivial) (fun _ _ h => h) ?_⟩
      · intro action' haction'
        obtain rfl := Except.ok.inj (haction.symm.trans haction')
        exact Handler.obeys_mono (fun _ _ => .inl)
          (keeps_handle svc request.authorization action)
      · intro action' haction'
        obtain rfl := Except.ok.inj (haction.symm.trans haction')
        refine returns_handle fun apiToken organization hlogin => ?_
        rw [hlogin] at needed
        cases needed

/-- A step leaves a request where it can stand. -/
theorem stands_step? {flow flow' : Flow Response} {world : World}
    {before after : SessionStore} (h : Stands svc request past flow)
    (next : flow.step? world before = some (deed, flow', after)) :
    Stands svc request (past ++ [deed]) flow' := by
  unfold Stands at h ⊢
  cases hasked : request.asked? with
  | none =>
      rw [hasked] at h
      obtain ⟨response, rfl⟩ := h
      cases next
  | some action =>
      rw [hasked] at h
      exact ⟨(Flow.obeys_step? h.1 next).2,
        fun needed => Flow.leads_step? (h.2 needed) next trivial⟩

/-- A step of a request is of what it asks for, and keeps to the rule. -/
theorem rule_of_step? {flow flow' : Flow Response} {world : World}
    {before after : SessionStore} (h : Stands svc request past flow)
    (next : flow.step? world before = some (deed, flow', after)) :
    ∃ action, request.asked? = some action
      ∧ rule svc request.authorization action past deed := by
  unfold Stands at h
  cases hasked : request.asked? with
  | none =>
      rw [hasked] at h
      obtain ⟨response, rfl⟩ := h
      cases next
  | some action =>
      rw [hasked] at h
      exact ⟨action, rfl, (Flow.obeys_step? h.1 next).1⟩

/-- A request that needs a session and is turned away has got its answer,
an error. -/
theorem answered_of_turnedAway {flow : Flow Response}
    (h : Stands svc request past flow)
    (asked : request.asked? = some action)
    (needed : action.isProtected = true)
    (away : TurnedAway request.authorization past) :
    ∃ response, flow = .done response ∧ 400 ≤ response.status := by
  unfold Stands at h
  rw [asked] at h
  obtain ⟨hobeys, hends⟩ := h
  -- a flow that is not at its end has a step to take, which the rule
  -- forbids whatever it would be answered
  cases flow with
  | done response =>
      rcases hobeys with hgranted | hstatus
      · exact absurd hgranted (not_granted needed away)
      · exact ⟨response, rfl, hstatus⟩
  | crash => exact (hends needed).elim
  | session op next =>
      obtain ⟨answer⟩ := op.nonempty
      exact absurd (hobeys answer).1 (not_rule needed away)
  | remote call next =>
      obtain ⟨answer⟩ := call.nonempty
      exact absurd (hobeys answer).1 (not_rule needed away)
  | clock next => exact absurd (hobeys ⟨0⟩).1 (not_rule needed away)

-- ================================================================= runs

variable {store : SessionStore} {moves : List Move}
  {front rest : List Entry} {entry : Entry}

/-- All requests stand where they can stand after what they have done. -/
theorem stands_run (svc : Service) (store : SessionStore)
    (moves : List Move) : Server.Keeps (Stands svc) (arrivals moves)
      (Server.run svc { store } moves) :=
  Server.keeps_run stands_respond stands_step?

/-- A move of a run has made an entry of its log: after the moves that
came before it, and at the time of its world. -/
structure Made (svc : Service) (store : SessionStore) (moves : List Move)
    (early : List Move) (world : World) (entry : Entry) : Prop where
  moved : early ++ [.step entry.request world] <+: moves
  before : (Server.run svc { store } early).store = entry.before
  log : (Server.run svc { store }
      (early ++ [.step entry.request world])).log
    = (Server.run svc { store } early).log ++ [entry]

/-- The step of a request in a run, as an entry of its log. -/
theorem made_of_step? {early : List Move} {i : Nat} {world : World}
    {flow flow' : Flow Response} {after : SessionStore}
    (standing : (Server.run svc { store } early).flows[i]? = some flow)
    (next : flow.step? world (Server.run svc { store } early).store
      = some (deed, flow', after))
    (moved : early ++ [.step i world] <+: moves) :
    Made svc store moves early world
      ⟨i, deed, (Server.run svc { store } early).store, after⟩ where
  moved := moved
  before := rfl
  log := by rw [Server.run_snoc, Server.move_step standing next]

/-- An entry of a log was made by a request that has arrived before, and
keeps to the rule. -/
theorem exists_made
    (split : (Server.run svc { store } moves).log = front ++ entry :: rest) :
    ∃ (early : List Move) (world : World) (flow flow' : Flow Response)
      (request : Request) (action : Action),
      Made svc store moves early world entry
        ∧ (Server.run svc { store } early).log = front
        ∧ flow.step? world entry.before
          = some (entry.deed, flow', entry.after)
        ∧ (arrivals moves)[entry.request]? = some request
        ∧ request.asked? = some action
        ∧ rule svc request.authorization action
          (deedsOf entry.request front) entry.deed := by
  obtain ⟨early, world, flow, flow', hmoves, hfront, hstore, hflow, next⟩ :=
    Server.exists_step_of_split split
  obtain ⟨request, harrived, hstands⟩ :=
    (stands_run svc store early).flows entry.request flow hflow
  rw [hfront] at hstands
  obtain ⟨action, hasked, hrule⟩ := rule_of_step? hstands next
  have hmade := made_of_step? hflow (hstore ▸ next) hmoves
  rw [hstore] at hmade
  exact ⟨early, world, flow, flow', request, action, hmade, hfront, next,
    arrivals_early ((List.prefix_append _ _).trans hmoves) harrived,
    hasked, hrule⟩

/-- What a move has made was a step of a request. -/
theorem Made.exists_step? {early : List Move} {world : World}
    (made : Made svc store moves early world entry) :
    ∃ flow flow' : Flow Response, flow.step? world entry.before
      = some (entry.deed, flow', entry.after) := by
  have hlog := made.log
  have hmoved := Server.moved_move svc (Server.run svc { store } early)
    (.step entry.request world)
  rw [Server.run_snoc] at hlog
  generalize (Server.run svc { store } early).move svc
    (.step entry.request world) = server' at hmoved hlog
  cases hmoved with
  | idle => exact absurd hlog (by simp)
  | @step _ _ flow flow' deed after standing next =>
      have hentry := List.singleton_inj.1 (List.append_cancel_left hlog)
      rw [made.before] at next
      refine ⟨flow, flow', ?_⟩
      rw [next, ← congrArg Entry.deed hentry,
        ← congrArg Entry.after hentry]

/-- What a move has made stands in the log, behind what was there. -/
theorem Made.exists_split {early : List Move} {world : World}
    (made : Made svc store moves early world entry) :
    ∃ rest, (Server.run svc { store } moves).log
      = (Server.run svc { store } early).log ++ entry :: rest := by
  obtain ⟨rest, hrest⟩ := log_run_mono svc store made.moved
  refine ⟨rest, ?_⟩
  rw [← hrest, made.log, List.append_assoc, List.singleton_append]

/-- A step on the sessions is their operation, at the times of its
world. -/
theorem run_of_step? {α : Type} {flow flow' : Flow Response}
    {world : World} {before after : SessionStore} {op : SessionOp α}
    {answer : α}
    (next : flow.step? world before
      = some (.session op answer, flow', after)) :
    op.run world.now world.fresh before world.issuedAt
      = (answer, after) := by
  cases flow with
  | done | crash | remote | clock => cases next
  | session op' next' =>
      cases next
      rfl

end Access

-- ============================================================== sessions

namespace SessionStore

variable {α : Type} {store : SessionStore} {now : Instant}
  {token : String} {use : Session → α × Session}

/-- A lookup that is refused drops at most a session that is over. -/
theorem find?_of_touch_error {e : SessionError} {token' : String}
    {s : Session} (h : (store.touch now token use).1 = .error e)
    (found : store.find? token' = some s)
    (live : s.isExpired now = false) :
    (store.touch now token use).2.find? token' = some s := by
  have hnone := touch_error h
  rw [find?_touch] at hnone ⊢
  split
  case isTrue htoken =>
    subst htoken
    rw [if_pos rfl, found] at hnone
    rw [Option.bind_some, live] at hnone
    cases hnone
  case isFalse => exact found

end SessionStore

namespace Access

variable {svc : Service} {store : SessionStore} {moves : List Move}
  {front rest : List Entry} {entry : Entry} {token : String}
  {c : Credentials}

/-- The session of a token was opened for credentials: a login that asked
for them was accepted by the database and has opened it, and the token was
not issued again. -/
inductive OpenedFor (requests : List Request) (log : List Entry)
    (token : String) (c : Credentials) : Prop where
  | intro {front rest : List Entry} {opening : Entry} {issued : Issued}
      {request : Request} {apiToken organization : String}
      {buckets : List Bucket}
      (split : log = front ++ opening :: rest)
      (opened : opening.deed = .session (.create c) (some issued))
      (issues : issued.token = token)
      (last : token ∉ openedTokens rest)
      (arrived : requests[opening.request]? = some request)
      (asked : request.asked? = some (.login apiToken organization))
      (credentials : c = Action.asked apiToken organization)
      (accepted : .remote (.buckets c) (.ok buckets)
        ∈ deedsOf opening.request front)

/-- A step has found the credentials of the session of a token: it was
stored, it was not over, and it was opened for them. -/
inductive Finds (svc : Service) (store : SessionStore)
    (moves : List Move) (token : String) (c : Credentials)
    (resolved : Entry) : Prop where
  | intro {early : List Move} {world : World} {s : Session}
      (made : Made svc store moves early world resolved)
      (deed : resolved.deed = .session (.credentials token) (.ok c))
      (stored : resolved.before.find? token = some s)
      (live : s.isExpired world.now = false)
      (credentials : s.credentials = c)
      (opened : OpenedFor (arrivals moves)
        (Server.run svc { store } early).log token c)

/-- A session of a service that began without any was opened by a
login. -/
theorem openedFor_of_found {s : Session} (setting : UInt64)
    (found : (Server.run svc { store := .ofLifetime setting }
      moves).store.find? token = some s) :
    OpenedFor (arrivals moves)
      (Server.run svc { store := .ofLifetime setting } moves).log token
      s.credentials := by
  have htraces := traces_run svc (.ofLifetime setting) moves
  -- the store began empty, so the session was opened by an entry of the log
  rcases opening_of_found htraces
      (SessionStore.wellKeyed_ofLifetime setting) found with
    ⟨-, s₀, hnone, -⟩ | ⟨front, opening, rest, hlog, hopening, hlast⟩
  · cases hnone
  obtain ⟨_, _, _, _, request, action, -, -, -, harrived, hasked,
    hpermits, -⟩ := exists_made hlog
  rw [hopening] at hpermits
  obtain ⟨apiToken, organization, buckets, rfl, hcredentials, haccepted⟩ :=
    login_of_created hpermits rfl
  exact ⟨hlog, hopening, rfl, hlast, harrived, hasked, hcredentials,
    haccepted⟩

/-- A session that was opened in the beginning of a run was opened in the
run. -/
theorem openedFor_mono {early : List Move} {log : List Entry}
    (h : OpenedFor (arrivals early) log token c)
    (earlier : early <+: moves) :
    OpenedFor (arrivals moves) log token c := by
  obtain ⟨split, opened, issues, last, arrived, asked, credentials,
    accepted⟩ := h
  exact ⟨split, opened, issues, last, arrivals_early earlier arrived, asked,
    credentials, accepted⟩

/-- A step that has resolved a token has found its session. -/
theorem finds_of_resolved (setting : UInt64)
    (split : (Server.run svc { store := .ofLifetime setting } moves).log
      = front ++ entry :: rest)
    (deed : entry.deed = .session (.credentials token) (.ok c)) :
    Finds svc (.ofLifetime setting) moves token c entry := by
  obtain ⟨early, world, flow, flow', -, -, hmade, -, next, -⟩ :=
    exists_made split
  rw [deed] at next
  have hrun := run_of_step? next
  obtain ⟨s, hs, hlive, rfl⟩ := (SessionStore.touch_ok_iff
    (SessionStore.shows_find? entry.before world.now)).1
    (congrArg Prod.fst hrun)
  have hopened := openedFor_of_found setting (hmade.before ▸ hs)
  exact ⟨hmade, deed, hs, hlive, rfl, openedFor_mono hopened
    ((List.prefix_append _ _).trans hmade.moved)⟩

-- =============================================================== guard

/-- What a run of the service allows to whom. -/
structure IsGuarded (svc : Service) (store : SessionStore)
    (moves : List Move) : Prop where
  /-- Another server is called by a login, about the credentials that it
  was given, or by a request that has found the session of its token
  before, with the credentials of that session. -/
  calls : ∀ {front rest : List Entry} {entry : Entry} {β : Type}
    {call : Remote β} {answer : β},
    (Server.run svc { store } moves).log = front ++ entry :: rest →
    entry.deed = .remote call answer →
    ∃ request action, (arrivals moves)[entry.request]? = some request
      ∧ request.asked? = some action
      ∧ ((∃ apiToken organization, action = .login apiToken organization
          ∧ call.Carries svc (Action.asked apiToken organization))
        ∨ ∃ token c resolved,
          Bears request.authorization token
            ∧ resolved ∈ front ∧ resolved.request = entry.request
            ∧ Finds svc store moves token c resolved
            ∧ call.Carries svc c)
  /-- A request that needs a session and bears no token does nothing, and
  is answered with an error. -/
  missing : ∀ {i : Nat} {request : Request} {action : Action},
    (arrivals moves)[i]? = some request →
    request.asked? = some action → action.isProtected = true →
    (∀ token, ¬ Bears request.authorization token) →
    deedsOf i (Server.run svc { store } moves).log = []
      ∧ ∃ response, (Server.run svc { store } moves).flows[i]?
          = some (.done response)
        ∧ 400 ≤ response.status
  /-- A request that needs a session begins with a lookup of its token. -/
  begins : ∀ {i : Nat} {request : Request} {action : Action} {deed : Deed},
    (arrivals moves)[i]? = some request →
    request.asked? = some action → action.isProtected = true →
    (deedsOf i (Server.run svc { store } moves).log).head? = some deed →
    ∃ token, Bears request.authorization token
      ∧ deed.lookedUp? = some token
  /-- A lookup of a token that has no session, or one that is over, is the
  last that its request does, which is answered with an error. It changes
  no session that is not over. -/
  refused : ∀ {early : List Move} {world : World} {entry : Entry}
    {token : String}, Made svc store moves early world entry →
    entry.deed.lookedUp? = some token →
    (∀ s, entry.before.find? token = some s →
      s.isExpired world.now = true) →
    deedsOf entry.request (Server.run svc { store } moves).log
        = deedsOf entry.request (Server.run svc { store } early).log
          ++ [entry.deed]
      ∧ (∃ response,
        (Server.run svc { store } moves).flows[entry.request]?
            = some (.done response)
          ∧ 400 ≤ response.status)
      ∧ ∀ token' s, entry.before.find? token' = some s →
        s.isExpired world.now = false →
        entry.after.find? token' = some s
  /-- Every step of a log was made by a move. -/
  made : ∀ {front rest : List Entry} {entry : Entry},
    (Server.run svc { store } moves).log = front ++ entry :: rest →
    ∃ early world, Made svc store moves early world entry
      ∧ (Server.run svc { store } early).log = front

/-- What a request has done it has done by the rule. -/
theorem rule_of_deedsOf {i : Nat} {request : Request} {action : Action}
    (before : List Deed) {after : List Deed} {deed : Deed}
    (split : deedsOf i (Server.run svc { store } moves).log
      = before ++ deed :: after)
    (arrived : (arrivals moves)[i]? = some request)
    (asked : request.asked? = some action) :
    rule svc request.authorization action before deed := by
  obtain ⟨front, entry, rest, hlog, rfl, rfl, rfl, -⟩ :=
    split_of_deedsOf before split
  obtain ⟨-, -, -, -, request', action', -, -, -, harrived, hasked,
    hrule⟩ := exists_made hlog
  obtain rfl := Option.some.inj (arrived.symm.trans harrived)
  obtain rfl := Option.some.inj (asked.symm.trans hasked)
  exact hrule

/-- A request that needs a session and was turned away has got its answer,
an error. -/
theorem answered_in_run {i : Nat} {request : Request} {action : Action}
    (arrived : (arrivals moves)[i]? = some request)
    (asked : request.asked? = some action)
    (needed : action.isProtected = true)
    (away : TurnedAway request.authorization
      (deedsOf i (Server.run svc { store } moves).log)) :
    ∃ response, (Server.run svc { store } moves).flows[i]?
        = some (.done response)
      ∧ 400 ≤ response.status := by
  have hstands := stands_run svc store moves
  obtain ⟨hlt, -⟩ := List.getElem?_eq_some_iff.1 arrived
  rw [hstands.count] at hlt
  have hflow := List.getElem?_eq_getElem hlt
  obtain ⟨request', harrived, hstand⟩ := hstands.flows i _ hflow
  obtain rfl := Option.some.inj (arrived.symm.trans harrived)
  obtain ⟨response, hdone, hstatus⟩ :=
    answered_of_turnedAway hstand asked needed away
  exact ⟨response, hdone ▸ hflow, hstatus⟩

/-- Only a request that needs a session is refused one. -/
theorem protected_of_refused {authorization : List String}
    {action : Action} {past : List Deed} {deed : Deed}
    (h : Permits svc authorization action past deed)
    (refused : deed.isRefused = true) : action.isProtected = true := by
  cases h with
  | lookup needed => exact needed
  | call | ask | enter | leave | purge | size | clock => cases refused

/-- A step that is refused is the last of its request, which has got its
answer, an error. -/
theorem ends_of_refused
    (split : (Server.run svc { store } moves).log = front ++ entry :: rest)
    (refused : entry.deed.isRefused = true) :
    deedsOf entry.request (Server.run svc { store } moves).log
        = deedsOf entry.request front ++ [entry.deed]
      ∧ ∃ response,
        (Server.run svc { store } moves).flows[entry.request]?
            = some (.done response)
          ∧ 400 ≤ response.status := by
  obtain ⟨-, -, -, -, request, action, -, -, -, harrived, hasked,
    hpermits, -⟩ := exists_made split
  have hneeded := protected_of_refused hpermits refused
  have hdeeds : deedsOf entry.request
      (Server.run svc { store } moves).log
        = deedsOf entry.request front
          ++ entry.deed :: deedsOf entry.request rest := by
    rw [split]
    simp [deedsOf]
  have haway : ¬ Unrefused (deedsOf entry.request front
      ++ [entry.deed]) := by
    intro hunrefused
    have hfalse := hunrefused entry.deed (by simp)
    rw [refused] at hfalse
    cases hfalse
  -- a later step of the request would break the rule
  have hlast : deedsOf entry.request rest = [] := by
    cases hrest : deedsOf entry.request rest with
    | nil => rfl
    | cons deed later =>
        rw [hrest, List.append_cons] at hdeeds
        exact absurd (rule_of_deedsOf _ hdeeds harrived hasked)
          (not_rule hneeded (.inr haway))
  rw [hlast] at hdeeds
  refine ⟨hdeeds, answered_in_run harrived hasked hneeded ?_⟩
  rw [hdeeds]
  exact .inr haway

/-- A step that is refused drops at most a session that is over. -/
theorem find?_of_refused {flow flow' : Flow Response} {world : World}
    {before after : SessionStore} {deed : Deed} {s : Session}
    (next : flow.step? world before = some (deed, flow', after))
    (refused : deed.isRefused = true)
    (found : before.find? token = some s)
    (live : s.isExpired world.now = false) :
    after.find? token = some s := by
  -- only the three lookups can be refused, and each is a touch
  cases deed with
  | remote | clock => cases refused
  | session op answer =>
      have hrun := run_of_step? next
      cases op with
      | create | remove | purge | size => cases refused
      | credentials | edit | view =>
          cases answer with
          | ok => cases refused
          | error e =>
              have hkept := SessionStore.find?_of_touch_error
                (congrArg Prod.fst hrun) found live
              rw [← show _ = after from congrArg Prod.snd hrun]
              exact hkept

/-- A step that looks up a token without a session, or one whose session
is over, is refused. -/
theorem refused_of_lookup {flow flow' : Flow Response} {world : World}
    {before after : SessionStore} {deed : Deed}
    (next : flow.step? world before = some (deed, flow', after))
    (looks : deed.lookedUp? = some token)
    (ended : ∀ s, before.find? token = some s →
      s.isExpired world.now = true) :
    deed.isRefused = true := by
  cases deed with
  | remote | clock => cases looks
  | session op answer =>
      have hrun := run_of_step? next
      cases op with
      | create | remove | purge | size => cases looks
      | credentials | edit | view =>
          cases looks
          cases answer with
          | error => rfl
          | ok a =>
              obtain ⟨s, hs, hlive, -⟩ := (SessionStore.touch_ok_iff
                (SessionStore.shows_find? before world.now)).1
                (congrArg Prod.fst hrun)
              rw [ended s hs] at hlive
              cases hlive

/-- In every run, requests do what they do for a session that they have
found, or not at all. -/
theorem isGuarded_run (svc : Service) (setting : UInt64)
    (moves : List Move) :
    IsGuarded svc (.ofLifetime setting) moves where
  calls := by
    intro front rest entry β call answer hsplit hdeed
    obtain ⟨-, -, -, -, request, action, -, -, -, harrived, hasked,
      hpermits, -⟩ := exists_made hsplit
    rw [hdeed] at hpermits
    refine ⟨request, action, harrived, hasked, ?_⟩
    rcases carries_of_call hpermits with
      hlogin | ⟨token, c, hown, hresolved, hcarries⟩
    · exact .inl hlogin
    · obtain ⟨before, after, hdeeds⟩ := List.append_of_mem hresolved
      obtain ⟨early, resolved, late, rfl, hrequest, hresolves, -⟩ :=
        split_of_deedsOf before hdeeds
      rw [List.append_assoc, List.cons_append] at hsplit
      exact .inr ⟨token, c, resolved, Service.bearer_eq_ok_iff.1 hown,
        by simp, hrequest, finds_of_resolved setting hsplit hresolves, hcarries⟩
  missing := by
    intro i request action harrived hasked hneeded hmissing
    have haway : ∀ past, TurnedAway request.authorization past :=
      fun _ => .inl (Service.exists_bearer_eq_error_iff.2 hmissing)
    refine ⟨?_, answered_in_run harrived hasked hneeded (haway _)⟩
    cases hdeeds : deedsOf i _ with
    | nil => rfl
    | cons deed later =>
        exact absurd (rule_of_deedsOf [] hdeeds harrived hasked)
          (not_rule hneeded (haway _))
  begins := by
    intro i request action deed harrived hasked hneeded hfirst
    cases hdeeds : deedsOf i _ with
    | nil =>
        rw [hdeeds] at hfirst
        cases hfirst
    | cons deed' later =>
        rw [hdeeds] at hfirst
        cases hfirst
        obtain ⟨token, hown, hlooks⟩ := lookedUp_of_first hneeded
          (rule_of_deedsOf [] hdeeds harrived hasked).1
        exact ⟨token, Service.bearer_eq_ok_iff.1 hown, hlooks⟩
  refused := by
    intro early world entry token hmade hlooks hover
    obtain ⟨flow, flow', next⟩ := hmade.exists_step?
    obtain ⟨rest, hsplit⟩ := hmade.exists_split
    have hrefused := refused_of_lookup next hlooks hover
    obtain ⟨hdeeds, hanswered⟩ := ends_of_refused hsplit hrefused
    exact ⟨hdeeds, hanswered, fun _ _ => find?_of_refused next hrefused⟩
  made := by
    intro front rest entry hsplit
    obtain ⟨early, world, -, -, -, -, hmade, hfront, -⟩ :=
      exists_made hsplit
    exact ⟨early, world, hmade, hfront⟩

end Access

end FluxComposer
