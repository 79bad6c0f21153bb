import FluxComposer.Proofs.Service.Access
/-
What a step leaves of the session of one token. An operation works on the
session of a token (`SessionOp.token?`), and then its answer and what it
does to that session are read off that session alone (`find?_run_congr`);
or it opens one or drops those that are over. So a step of a request that
neither carries the token nor opens its session spares it: unless the
session is over, it is the same afterwards (`spares_step`).
-/
namespace FluxComposer

-- ========================================================= one session

/-- The token of the session on which an operation works. -/
def SessionOp.token? {α : Type} : SessionOp α → Option String
  | .credentials token | .edit token _ | .view token
  | .remove token => some token
  | .create _ | .purge | .size => none

/-- The session that a deed opens. -/
def Deed.issued? : Deed → Option Issued
  | .session (.create _) issued => issued
  | _ => none

namespace SessionStore

variable {store store' : SessionStore} {token : String} {now : Instant}

/-- What a step leaves of the session of a token: it is the same if it is
there, and it is there unless it is over. -/
structure Spares (token : String) (now : Instant)
    (before after : SessionStore) : Prop where
  found : ∀ s, after.find? token = some s → before.find? token = some s
  live : ∀ s, before.find? token = some s → ¬ s.expiresAt ≤ now →
    after.find? token = some s

theorem spares_of_eq (h : store'.find? token = store.find? token) :
    Spares token now store store' :=
  ⟨fun _ hs => h ▸ hs, fun _ hs _ => h.trans hs⟩

/-- Dropping what is over spares what is not. -/
theorem spares_purge (keyed : store.WellKeyed) :
    Spares token now store (store.purge now) := by
  refine ⟨fun s hs => ?_, fun s hs hlive => ?_⟩
  · rw [find?_purge keyed, Option.filter_eq_some_iff] at hs
    exact hs.1
  · rw [find?_purge keyed, Option.filter_eq_some_iff]
    exact ⟨hs, by simpa [Session.isExpired] using hlive⟩

/-- A session that is not over is spared. -/
theorem Spares.find?_eq {ends : Instant} (h : Spares token now store store')
    (ended : ∀ s, store.find? token = some s → s.expiresAt = ends)
    (live : ¬ ends ≤ now) : store'.find? token = store.find? token := by
  cases hs : store.find? token with
  | some s => exact h.live s hs (ended s hs ▸ live)
  | none =>
      rw [Option.eq_none_iff_forall_ne_some]
      intro s hs'
      rw [h.found s hs'] at hs
      cases hs

/-- An operation that neither works on a session nor opens it spares it. -/
theorem spares_run {α : Type} {op : SessionOp α} {answer : α}
    {fresh : String} {issuedAt : Instant} (keyed : store.WellKeyed)
    (run : op.run now fresh store issuedAt = (answer, store'))
    (other : op.token? ≠ some token)
    (unissued : ∀ issued, (Deed.session op answer).issued? = some issued →
      issued.token ≠ token) : Spares token now store store' := by
  cases op with
  | create c =>
      change store.create now fresh c issuedAt = _ at run
      unfold create at run
      split at run
      · cases run
        exact spares_of_eq rfl
      · cases run
        have hne : token ≠ fresh := (unissued _ rfl).symm
        have hpurge : Spares token now store (store.purge now) :=
          spares_purge keyed
        refine ⟨fun s hs => hpurge.found s ?_, fun s hs hlive => ?_⟩
        · rwa [find?_insert, if_neg hne] at hs
        · rw [find?_insert, if_neg hne]
          exact hpurge.live s hs hlive
  | credentials touched | edit touched | view touched =>
      have hne : token ≠ touched := fun h => other (congrArg some h.symm)
      obtain rfl := congrArg Prod.snd run
      exact spares_of_eq ((find?_touch _).trans (if_neg hne))
  | remove touched =>
      have hne : token ≠ touched := fun h => other (congrArg some h.symm)
      obtain rfl := congrArg Prod.snd run
      exact spares_of_eq ((find?_erase ..).trans (if_neg hne))
  | purge =>
      obtain rfl := congrArg Prod.snd run
      exact spares_purge keyed
  | size =>
      obtain rfl := congrArg Prod.snd run
      exact spares_of_eq rfl

/-- An operation on a session answers by that session. -/
theorem answer_run_congr {α : Type} {op : SessionOp α}
    (own : op.token? = some token)
    (same : store.find? token = store'.find? token) (fresh : String)
    (issuedAt : Instant) :
    (op.run now fresh store issuedAt).1
      = (op.run now fresh store' issuedAt).1 := by
  cases op with
  | create | purge | size => cases own
  | credentials | edit | view =>
      cases own
      exact touch_congr same _
  | remove =>
      cases own
      exact congrArg Option.isSome same

/-- Opening a session is answered by the clock and the lifetime. -/
theorem answer_create_congr {α : Type} {op : SessionOp α} {answer : α}
    (creates : (Deed.session op answer).created?.isSome = true)
    (lifetimes : store.lifetime = store'.lifetime) (fresh : String)
    (issuedAt : Instant) :
    (op.run now fresh store issuedAt).1
      = (op.run now fresh store' issuedAt).1 := by
  cases op with
  | create c =>
      change (store.create now fresh c issuedAt).1
        = (store'.create now fresh c issuedAt).1
      unfold create
      rw [lifetimes]
      split <;> rfl
  | credentials | edit | view | remove | purge | size => cases creates

/-- What an operation does to a session depends on that session only. -/
theorem find?_run_congr {α : Type} (op : SessionOp α) (now : Instant)
    (fresh : String) (issuedAt : Instant)
    (lifetimes : store.lifetime = store'.lifetime)
    (keyed : store.WellKeyed) (keyed' : store'.WellKeyed)
    (same : store.find? token = store'.find? token) :
    (op.run now fresh store issuedAt).2.find? token
      = (op.run now fresh store' issuedAt).2.find? token := by
  have hpurge : (store.purge now).find? token
      = (store'.purge now).find? token := by
    rw [find?_purge keyed, find?_purge keyed', same]
  cases op with
  | create c =>
      change (store.create now fresh c issuedAt).2.find? token
        = (store'.create now fresh c issuedAt).2.find? token
      unfold create
      rw [lifetimes]
      split
      · exact same
      · rw [find?_insert, find?_insert, hpurge]
  | credentials | edit | view => exact find?_touch_congr same _
  | remove touched =>
      change (store.erase touched).find? token
        = (store'.erase touched).find? token
      rw [find?_erase, find?_erase, same]
  | purge => exact hpurge
  | size => exact same

end SessionStore

-- ============================================================= requests

/-- Whether requests for an action are those of the session whose token
they carry: all but logins and reports of the health. -/
def Action.isOfSession : Action → Bool
  | .login .. | .health => false
  | _ => true

/-- A request of the session with a token: it carries the token, and not
to a login or a report. -/
def Request.IsOf (token : String) (r : Request) : Prop :=
  Service.bearer r.authorization = .ok token
    ∧ ∀ action, r.asked? = some action → action.isOfSession = true

/-- The number of a request of the session with a token. -/
def IsOwn (token : String) (moves : List Move) (i : Nat) : Prop :=
  ∃ r, (arrivals moves)[i]? = some r ∧ r.IsOf token

/-- Where only one request carries anything, no other is one of a
session. -/
theorem IsOwn.eq {token : String} {moves : List Move} {n i : Nat}
    (others : ∀ j < (arrivals moves).length, j ≠ n →
      ((arrivals moves).map (·.authorization))[j]? = some [])
    (own : IsOwn token moves i) : i = n := by
  obtain ⟨r, hr, hbearer, -⟩ := own
  by_contra hne
  have hnone := others i (List.getElem?_eq_some_iff.1 hr).1 hne
  rw [List.getElem?_map, hr, Option.map_some, Option.some_inj] at hnone
  rw [hnone] at hbearer
  cases hbearer

namespace Access

variable {svc : Service} {authorization : List String} {action : Action}
  {past : List Deed} {token : String} {store : SessionStore}
  {early : List Move} {i : Nat} {world : World}

/-- What a request does on the sessions it does on that of its own token.
Logins and reports do not look at their token. -/
theorem token_of_permits {α : Type} {op : SessionOp α} {answer : α}
    (h : Permits svc authorization action past (.session op answer)) :
    (action.isOfSession = true ∧ ∃ token,
        Service.bearer authorization = .ok token ∧ op.token? = some token)
      ∨ (action.isOfSession = false ∧ op.token? = none) := by
  cases h with
  | @lookup _ token needed own looks =>
      refine .inl ⟨?_, token, own, ?_⟩
      · cases action <;> first | rfl | cases needed
      · cases op with
        | credentials | edit | view => exact looks
        | create | remove | purge | size => cases looks
  | leave logout own =>
      subst logout
      exact .inl ⟨rfl, _, own, rfl⟩
  | enter login | purge login | size login =>
      subst login
      exact .inr ⟨rfl, rfl⟩

/-- On the sessions, a login does nothing but open one. -/
theorem created_of_login {α : Type} {op : SessionOp α} {answer : α}
    {apiToken organization : String}
    (h : Permits svc authorization (.login apiToken organization) past
      (.session op answer)) :
    (Deed.session op answer).created?.isSome = true := by
  cases h with
  | enter => rfl
  | lookup needed => cases needed
  | leave login | purge login | size login => cases login

/-- A step of a request that is not of a session, and does not open it,
leaves it as it is unless it is over. -/
theorem spares_step (keyed : store.WellKeyed)
    (other : ¬ IsOwn token early i)
    (unissued : ∀ entry ∈ (Server.run svc { store }
        (early ++ [.step i world])).log, entry.request = i →
      ∀ issued, entry.deed.issued? = some issued → issued.token ≠ token) :
    (Server.run svc { store } early).store.Spares token world.now
      (Server.run svc { store } (early ++ [.step i world])).store := by
  have hkeyed := wellKeyed_traces (traces_run svc store early) keyed
  rw [Server.run_snoc] at unissued ⊢
  have hmoved := Server.moved_move svc (Server.run svc { store } early)
    (.step i world)
  generalize hserver : (Server.run svc { store } early).move svc
    (.step i world) = server' at hmoved unissued ⊢
  cases hmoved with
  | idle => exact SessionStore.spares_of_eq rfl
  | @step _ _ flow flow' deed after standing next =>
      obtain ⟨request, harrived, hstands⟩ :=
        (stands_run svc store early).flows i flow standing
      obtain ⟨action, hasked, hpermits, -⟩ := rule_of_step? hstands next
      cases deed with
      | remote | clock =>
          have hafter : after = (Server.run svc { store } early).store :=
            isStep_of_step? i next
          exact SessionStore.spares_of_eq (by rw [hafter])
      | session op answer =>
          refine SessionStore.spares_run hkeyed (run_of_step? next) ?_
            (unissued _
              (List.mem_append_right _ (List.mem_singleton_self _)) rfl)
          -- what works on this session would be a request of it
          intro htoken
          rcases token_of_permits hpermits with
            ⟨hof, own, hown, hop⟩ | ⟨-, hop⟩
          · rw [htoken] at hop
            cases hop
            refine other ⟨request, harrived, hown, fun action' h => ?_⟩
            obtain rfl := Option.some.inj (hasked.symm.trans h)
            exact hof
          · rw [htoken] at hop
            cases hop

end Access

/-- One step of the same flow over two stores, where the operation has the
same answer: the deed and the rest of the flow are the same. -/
theorem Flow.step?_congr {α : Type} (flow : Flow α) (world : World)
    {store store' : SessionStore}
    (answers : ∀ (β : Type) (op : SessionOp β) (next : β → Flow α),
      flow = .session op next →
      (op.run world.now world.fresh store world.issuedAt).1
        = (op.run world.now world.fresh store' world.issuedAt).1) :
    (flow.step? world store).map (fun next => (next.1, next.2.1))
      = (flow.step? world store').map (fun next => (next.1, next.2.1)) := by
  cases flow with
  | done | crash | remote | clock => rfl
  | session op next =>
      have hanswer := answers _ op next rfl
      unfold Flow.step?
      simp only [Option.map_some, hanswer]

end FluxComposer
