import FluxComposer.Proofs.Service.Secrecy
import FluxComposer.Proofs.Service.Thinned
/-
Sessions are isolated. Take requests out of a run that are not those of a
session: then its requests end the same, with the same answers, and its
credentials and its builder are the same at every point, as long as the
session is unexpired when its requests take a step (`same_of_twoRuns`).
That is so although a login and a report of the health drop sessions of
others, since they drop none that is not over.

A step takes its request further and changes the sessions. `Agree` says
what is the same in both runs: where the requests of the session stand,
and the session itself while no clock reading has reached its end. Steps
of others keep that since they spare the session, in the first run
(`agree_skip`) and in the second (`agree_other`); a step of its own is the
same step in both (`agree_stepped`).
-/
namespace FluxComposer

-- ============================================================== clocks

/-- What the clock shows at a move. -/
def Move.reading? : Move → Option Instant
  | .arrive .. => none
  | .step _ world => some world.now

/-- The clock readings of the steps of a run. -/
def readings (moves : List Move) : List Instant :=
  moves.filterMap Move.reading?

/-- A session that ends then has not expired: no reading of the clock so
far has reached its end. -/
def Unexpired (ends : Instant) (moves : List Move) : Prop :=
  ∀ t ∈ readings moves, ¬ ends ≤ t

section Clocks

variable {ends : Instant} {early moves : List Move} {i : Nat}
  {world : World}

/-- The clock is not read when a request arrives. -/
theorem unexpired_arrive {id : String} {r : Request} :
    Unexpired ends (moves ++ [.arrive id r]) ↔ Unexpired ends moves := by
  simp [Unexpired, readings, Move.reading?]

theorem unexpired_step : Unexpired ends (moves ++ [.step i world])
    ↔ Unexpired ends moves ∧ ¬ ends ≤ world.now := by
  simp [Unexpired, readings, Move.reading?, or_imp, forall_and]

/-- Where the clock does not go back, its last reading tells. -/
theorem Access.Made.unexpired {svc : Service} {store : SessionStore}
    {entry : Entry} (made : Made svc store moves early world entry)
    (ordered : (readings moves).Pairwise (· ≤ ·))
    (live : ¬ ends ≤ world.now) :
    Unexpired ends (early ++ [.step entry.request world]) := by
  refine unexpired_step.2 ⟨fun t ht hover => live ?_, live⟩
  have hreadings : readings early ++ [world.now] <+: readings moves := by
    have hprefix := made.moved.filterMap Move.reading?
    rw [List.filterMap_append] at hprefix
    exact hprefix
  have hordered := ordered.sublist hreadings.sublist
  exact Int.le_trans hover ((List.pairwise_append.1 hordered).2.2 t ht
    world.now (List.mem_singleton_self _))

end Clocks

-- =========================================================== isolation

/-- The session that a token gives at a time. -/
def SessionStore.session? (store : SessionStore) (token : String)
    (now : Instant) : Option Session :=
  (store.find? token).filter fun s => !s.isExpired now

/-- The number of a request of a session, or of the login that opened
it. -/
def IsMine (token : String) (opener : Nat) (moves : List Move) (i : Nat) :
    Prop := i = opener ∨ IsOwn token moves i

/-- Two runs of a service that begins without the session of a token, of
which the second lacks requests that are not those of the session. -/
structure TwoRuns (svc : Service) (store : SessionStore) (token : String)
    (opener : Nat) (ends : Instant) (kept : Nat → Prop)
    [DecidablePred kept] (moves moves' : List Move) : Prop where
  keyed : store.WellKeyed
  unknown : store.find? token = none
  /-- The requests of the session and its login are kept, and what their
  steps find outside the service is the same. -/
  thinned : Thinned kept (IsMine token opener moves) moves moves'
  stays : ∀ i, IsMine token opener moves i → kept i
  login : ∀ r, (arrivals moves)[opener]? = some r →
    ∃ apiToken organization,
      r.asked? = some (.login apiToken organization)
  /-- No other request is issued the token, and its session ends then. -/
  opened : ∀ entry ∈ (Server.run svc { store } moves).log,
    ∀ issued ∈ entry.deed.issued?, issued.token = token →
      entry.request = opener ∧ issued.expiresAt = ends
  opened' : ∀ entry ∈ (Server.run svc { store } moves').log,
    ∀ issued ∈ entry.deed.issued?, issued.token = token →
      entry.request = Nat.count kept opener
  /-- The session is unexpired at every step of its requests. -/
  live : ∀ early world entry, Access.Made svc store moves early world entry →
    IsOwn token moves entry.request →
    Unexpired ends (early ++ [.step entry.request world])
  live' : ∀ early world entry,
    Access.Made svc store moves' early world entry →
    IsOwn token moves' entry.request →
    Unexpired ends (early ++ [.step entry.request world])

/-- What is the same for the session with a token in two runs. -/
structure SameFor (svc : Service) (store : SessionStore) (token : String)
    (kept : Nat → Prop) [DecidablePred kept] (moves moves' : List Move) :
    Prop where
  /-- Its requests stand where they stand, those that have ended with the
  same response. -/
  responses : ∀ i r, (arrivals moves)[i]? = some r → r.IsOf token →
    (arrivals moves')[Nat.count kept i]? = some r
      ∧ (Server.run svc { store } moves').flows[Nat.count kept i]?
        = (Server.run svc { store } moves).flows[i]?
  /-- Its credentials and its builder. -/
  session : ∀ now, (∀ t ∈ readings moves, t ≤ now) →
    (∀ t ∈ readings moves', t ≤ now) →
    (Server.run svc { store } moves').store.session? token now
      = (Server.run svc { store } moves).store.session? token now

/-- What two runs agree on as they go. -/
structure Agree (svc : Service) (store : SessionStore) (token : String)
    (ends : Instant) (kept mine : Nat → Prop) [DecidablePred kept]
    (moves moves' : List Move) : Prop where
  flows : ∀ i, mine i → (Server.run svc { store } moves).flows[i]?
    = (Server.run svc { store } moves').flows[Nat.count kept i]?
  found : Unexpired ends moves → Unexpired ends moves' →
    (Server.run svc { store } moves).store.find? token
      = (Server.run svc { store } moves').store.find? token
  ends' : ∀ s,
    (Server.run svc { store } moves').store.find? token = some s →
    s.expiresAt = ends

section Isolation

variable {svc : Service} {store : SessionStore} {token : String}
  {opener : Nat} {ends : Instant} {kept mine : Nat → Prop}
  [DecidablePred kept] {moves moves' early early' : List Move} {i : Nat}
  {world : World}

-- ============================================================ arrivals

/-- A request that is kept arrives in both runs, each time as the next
one. -/
theorem Agree.arrive
    (agree : Agree svc store token ends kept mine early early')
    (thinned : Thinned kept mine early early')
    (stay : ∀ i, mine i → kept i) (id : String) (r : Request)
    (stays : kept (arrivals early).length) :
    Agree svc store token ends kept mine (early ++ [.arrive id r])
      (early' ++ [.arrive id r]) where
  flows j hj := by
    -- the next number in the second run is the count of the requests kept
    -- before
    have hcount := (Access.stands_run svc store early).count
    have hcount' := (Access.stands_run svc store early').count
    have hlength := thinned.length
    rw [hcount, hcount'] at hlength
    rw [hcount] at stays
    rw [Server.run_snoc, Server.run_snoc]
    exact getElem?_concat_count _ hlength stays (stay j hj)
      (agree.flows j hj)
  found live live' := by
    rw [Server.run_snoc, Server.run_snoc]
    exact agree.found (unexpired_arrive.1 live) (unexpired_arrive.1 live')
  ends' := by
    rw [Server.run_snoc]
    exact agree.ends'

/-- A request that is taken out arrives in the first run only, and is none
of the session. -/
theorem Agree.leave
    (agree : Agree svc store token ends kept mine early early')
    (stay : ∀ i, mine i → kept i) (id : String) (r : Request)
    (gone : ¬ kept (arrivals early).length) :
    Agree svc store token ends kept mine (early ++ [.arrive id r])
      early' where
  flows j hj := by
    have hne : j ≠ (Server.run svc { store } early).flows.length := by
      rw [← (Access.stands_run svc store early).count]
      rintro rfl
      exact gone (stay _ hj)
    rw [Server.run_snoc]
    exact (getElem?_concat_ne _ hne).trans (agree.flows j hj)
  found live := by
    rw [Server.run_snoc]
    exact agree.found (unexpired_arrive.1 live)
  ends' := agree.ends'

-- =============================================================== steps

/-- A step of a request that has ended, or has not come yet. -/
theorem Agree.idle {i' : Nat} {world' : World}
    (agree : Agree svc store token ends kept mine early early')
    (run : Server.run svc { store } (early ++ [.step i world])
      = Server.run svc { store } early)
    (run' : Server.run svc { store } (early' ++ [.step i' world'])
      = Server.run svc { store } early') :
    Agree svc store token ends kept mine (early ++ [.step i world])
      (early' ++ [.step i' world']) where
  flows j hj := by
    rw [run, run']
    exact agree.flows j hj
  found live live' := by
    rw [run, run']
    exact agree.found (unexpired_step.1 live).1 (unexpired_step.1 live').1
  ends' := by
    rw [run']
    exact agree.ends'

/-- The lifetime of new sessions is the same in all runs. -/
theorem lifetime_congr (svc : Service) (store : SessionStore)
    (moves moves' : List Move) :
    (Server.run svc { store } moves).store.lifetime
      = (Server.run svc { store } moves').store.lifetime :=
  (lifetime_traces (traces_run svc store moves)).trans
    (lifetime_traces (traces_run svc store moves')).symm

/-- A step is one of its request only. -/
theorem Server.flows_step_ne {server : Server} {j : Nat} (h : j ≠ i) :
    (server.move svc (.step i world)).flows[j]? = server.flows[j]? := by
  have hmoved := moved_move svc server (.step i world)
  generalize server.move svc (.step i world) = server' at hmoved
  cases hmoved with
  | idle => rfl
  | step => exact List.getElem?_set_ne h.symm

namespace TwoRuns

variable (h : TwoRuns svc store token opener ends kept moves moves')
include h

/-- In the first run, the session ends at the time that its login was
told. -/
theorem expiresAt_of_found
    (earlier : early <+: moves) {s : Session}
    (found : (Server.run svc { store } early).store.find? token = some s) :
    s.expiresAt = ends := by
  -- the session was not there at first, so the log holds its login
  rcases opening_of_found (traces_run svc store early) h.keyed found with
    ⟨-, s₀, hs₀, -⟩ | ⟨front, entry, rest, hlog, hdeed, -⟩
  · rw [h.unknown] at hs₀
    cases hs₀
  · have hmem : entry ∈ (Server.run svc { store } early).log := by
      rw [hlog]
      simp
    refine (h.opened entry ((log_run_mono svc store earlier).subset hmem)
      ⟨token, s.expiresAt⟩ ?_ rfl).2
    rw [hdeed]
    exact Option.mem_some_self _

/-- A step of another request in the first run. -/
theorem agree_skip
    (agree : Agree svc store token ends kept (IsMine token opener moves)
      early early')
    (moved : early ++ [.step i world] <+: moves)
    (other : ¬ IsMine token opener moves i) :
    Agree svc store token ends kept (IsMine token opener moves)
      (early ++ [.step i world]) early' where
  flows j hj := by
    have hne : j ≠ i := by
      rintro rfl
      exact other hj
    rw [Server.run_snoc, Server.flows_step_ne hne]
    exact agree.flows j hj
  found live live' := by
    obtain ⟨hbefore, hnow⟩ := unexpired_step.1 live
    have hearlier := (List.prefix_append _ _).trans moved
    -- the step neither is one of the session nor issues its token
    have hspares : (Server.run svc { store } early).store.Spares token
        world.now (Server.run svc { store }
          (early ++ [.step i world])).store := by
      refine Access.spares_step h.keyed (fun ⟨r, hr, hof⟩ => ?_) ?_
      · exact other (.inr ⟨r, arrivals_early hearlier hr, hof⟩)
      · rintro entry hentry rfl issued hissued htoken
        have hlogged := (log_run_mono svc store moved).subset hentry
        exact other (.inl (h.opened entry hlogged issued hissued htoken).1)
    rw [hspares.find?_eq
      (fun _ => h.expiresAt_of_found hearlier) hnow]
    exact agree.found hbefore live'
  ends' := agree.ends'

/-- A step of another request in the second run. -/
theorem agree_other
    {point : List Move}
    (agree : Agree svc store token ends kept (IsMine token opener moves)
      point early')
    (thinned : Thinned kept (IsMine token opener moves) early early')
    (earlier : early <+: moves) (stays : kept i)
    (moved' : early' ++ [.step (Nat.count kept i) world] <+: moves')
    (other : ¬ IsMine token opener moves i) :
    Agree svc store token ends kept (IsMine token opener moves)
      point (early' ++ [.step (Nat.count kept i) world]) := by
  have hne : ∀ j, IsMine token opener moves j →
      Nat.count kept j ≠ Nat.count kept i := by
    intro j hj hcount
    exact other (Nat.count_injective (h.stays j hj) stays hcount ▸ hj)
  have hspares : (Server.run svc { store } early').store.Spares token
      world.now (Server.run svc { store }
        (early' ++ [.step (Nat.count kept i) world])).store := by
    refine Access.spares_step h.keyed (fun hown => ?_) ?_
    · obtain ⟨r, hr, hof⟩ := (thinned.isOwn_iff stays).1 hown
      exact other (.inr ⟨r, arrivals_early earlier hr, hof⟩)
    · intro entry hentry hrequest issued hissued htoken
      have hlogged := (log_run_mono svc store moved').subset hentry
      have hopener := h.opened' entry hlogged issued hissued htoken
      exact hne opener (.inl rfl) (hopener.symm.trans hrequest)
  refine ⟨fun j hj => ?_, fun live live' => ?_, fun s hs => ?_⟩
  · rw [Server.run_snoc, Server.flows_step_ne (hne j hj)]
    exact agree.flows j hj
  · obtain ⟨hbefore, hnow⟩ := unexpired_step.1 live'
    rw [hspares.find?_eq agree.ends' hnow]
    exact agree.found live hbefore
  · exact agree.ends' s (hspares.found s hs)

/-- What the step of a request of the session, or of its login, is
answered. -/
theorem answers
    (agree : Agree svc store token ends kept (IsMine token opener moves)
      early early')
    (moved : early ++ [.step i world] <+: moves)
    (moved' : early' ++ [.step (Nat.count kept i) world] <+: moves')
    (mine : IsMine token opener moves i) {β : Type} {op : SessionOp β}
    {next : β → Flow Response}
    (standing : (Server.run svc { store } early).flows[i]?
      = some (.session op next)) :
    (op.run world.now world.fresh
        (Server.run svc { store } early).store world.issuedAt).1
      = (op.run world.now world.fresh
        (Server.run svc { store } early').store world.issuedAt).1 := by
  have hearlier := (List.prefix_append _ _).trans moved
  obtain ⟨r, harrived, hstands⟩ :=
    (Access.stands_run svc store early).flows i _ standing
  have hstep : (Flow.session op next).step? world
      (Server.run svc { store } early).store
        = some (.session op _, _, _) := rfl
  obtain ⟨action, hasked, hpermits, -⟩ :=
    Access.rule_of_step? hstands hstep
  have hr := arrivals_early hearlier harrived
  rcases mine with rfl | hown
  · -- a login does not look at the sessions
    obtain ⟨apiToken, organization, hlogin⟩ := h.login r hr
    obtain rfl := Option.some.inj (hasked.symm.trans hlogin)
    exact SessionStore.answer_create_congr
      (Access.created_of_login hpermits) (lifetime_congr ..) _ _
  · -- the session is unexpired, so it is the same in both runs
    have hown' := (h.thinned.isOwn_iff (h.stays i (.inr hown))).2 hown
    have hmade := Access.made_of_step? standing hstep moved
    have standing' := (agree.flows i (.inr hown)).symm.trans standing
    have hmade' := Access.made_of_step? standing' rfl moved'
    have hlive := h.live _ _ _ hmade hown
    have hlive' := h.live' _ _ _ hmade' hown'
    have hsame := agree.found (unexpired_step.1 hlive).1
      (unexpired_step.1 hlive').1
    obtain ⟨r', hr', hbearer, hof⟩ := hown
    obtain rfl := Option.some.inj (hr.symm.trans hr')
    rcases Access.token_of_permits hpermits with
      ⟨-, own, hbearer', hop⟩ | ⟨hnot, -⟩
    · rw [hbearer] at hbearer'
      cases hbearer'
      exact SessionStore.answer_run_congr hop hsame _ _
    · rw [hof action hasked] at hnot
      cases hnot

/-- A request of the session, or its login, takes the same step in both
runs. -/
theorem agree_stepped
    (agree : Agree svc store token ends kept (IsMine token opener moves)
      early early')
    (moved : early ++ [.step i world] <+: moves)
    (mine : IsMine token opener moves i)
    {flow rest : Flow Response} {deed : Deed} {after after' : SessionStore}
    (standing : (Server.run svc { store } early).flows[i]? = some flow)
    (standing' : (Server.run svc { store } early').flows[Nat.count kept i]?
      = some flow)
    (next : flow.step? world (Server.run svc { store } early).store
      = some (deed, rest, after))
    (next' : flow.step? world (Server.run svc { store } early').store
      = some (deed, rest, after')) :
    Agree svc store token ends kept (IsMine token opener moves)
      (early ++ [.step i world])
      (early' ++ [.step (Nat.count kept i) world]) := by
  have hkeyed := wellKeyed_traces (traces_run svc store early) h.keyed
  have hkeyed' := wellKeyed_traces (traces_run svc store early') h.keyed
  have hrun := (Server.run_snoc svc { store } early (.step i world)).trans
    (Server.move_step standing next)
  have hrun' := (Server.run_snoc svc { store } early' (.step
    (Nat.count kept i) world)).trans (Server.move_step standing' next')
  refine ⟨fun j hj => ?_, fun live live' => ?_, fun s hs => ?_⟩
  · rw [hrun, hrun']
    -- the request that has taken the step goes on the same, every other
    -- stands where it stood
    by_cases hij : i = j
    · subst hij
      rw [List.getElem?_set_self (List.getElem?_eq_some_iff.1 standing).1,
        List.getElem?_set_self (List.getElem?_eq_some_iff.1 standing').1]
    · have hcount : Nat.count kept i ≠ Nat.count kept j := fun h' =>
        hij (Nat.count_injective (h.stays i mine) (h.stays j hj) h')
      rw [List.getElem?_set_ne hij, List.getElem?_set_ne hcount]
      exact agree.flows j hj
  · have hsame := agree.found (unexpired_step.1 live).1
      (unexpired_step.1 live').1
    rw [hrun, hrun']
    -- only a session operation changes the sessions
    cases deed with
    | remote | clock =>
        have hafter : after = (Server.run svc { store } early).store :=
          isStep_of_step? i next
        have hafter' : after' = (Server.run svc { store } early').store :=
          isStep_of_step? i next'
        rw [hafter, hafter']
        exact hsame
    | session op answer =>
        have hfind := SessionStore.find?_run_congr op world.now world.fresh
          world.issuedAt (lifetime_congr ..) hkeyed hkeyed' hsame
        rwa [Access.run_of_step? next, Access.run_of_step? next'] at hfind
  · rw [hrun'] at hs
    rcases Entry.origin_of_step (isStep_of_step? i next') hkeyed' hs with
      hdeed | ⟨-, s₀, hs₀, -, hend⟩
    · -- the first run has issued the token in this step, too
      have hlogged := (log_run_mono svc store moved).subset
      rw [hrun] at hlogged
      refine (h.opened _ (hlogged (List.mem_append_right _
        (List.mem_singleton_self _))) ⟨token, s.expiresAt⟩ ?_ rfl).2
      rw [show deed = _ from hdeed]
      exact Option.mem_some_self _
    · exact hend.trans (agree.ends' s₀ hs₀)

/-- A step of a request of the session, or of its login. -/
theorem agree_step
    (agree : Agree svc store token ends kept (IsMine token opener moves)
      early early')
    (moved : early ++ [.step i world] <+: moves)
    (moved' : early' ++ [.step (Nat.count kept i) world] <+: moves')
    (mine : IsMine token opener moves i) :
    Agree svc store token ends kept (IsMine token opener moves)
      (early ++ [.step i world])
      (early' ++ [.step (Nat.count kept i) world]) := by
  have hflow := agree.flows i mine
  have hrun := Server.run_snoc svc { store } early (.step i world)
  have hrun' := Server.run_snoc svc { store } early'
    (.step (Nat.count kept i) world)
  cases standing : (Server.run svc { store } early).flows[i]? with
  | none =>
      have standing' := hflow.symm.trans standing
      refine agree.idle (hrun.trans ?_) (hrun'.trans ?_)
      · simp only [Server.move, standing]
      · simp only [Server.move, standing']
  | some flow =>
      have standing' := hflow.symm.trans standing
      have hsteps := flow.step?_congr world
        fun β op next hsession =>
          h.answers agree moved moved' mine (hsession ▸ standing)
      cases next : flow.step? world
          (Server.run svc { store } early).store with
      | none =>
          rw [next, Option.map_none, eq_comm, Option.map_eq_none_iff]
            at hsteps
          refine agree.idle (hrun.trans ?_) (hrun'.trans ?_)
          · simp only [Server.move, standing, next]
          · simp only [Server.move, standing', hsteps]
      | some stepped =>
          obtain ⟨deed, rest, after⟩ := stepped
          rw [next, Option.map_some, eq_comm, Option.map_eq_some_iff]
            at hsteps
          obtain ⟨⟨_, _, after'⟩, next', hsame⟩ := hsteps
          cases hsame
          exact h.agree_stepped agree moved mine standing standing'
            next next'

/-- At every point, the two runs agree. -/
theorem agree
    (thinned : Thinned kept (IsMine token opener moves) early early')
    (earlier : early <+: moves) (earlier' : early' <+: moves') :
    Agree svc store token ends kept (IsMine token opener moves) early
      early' := by
  -- one case for each way in which the second run follows the first
  induction thinned with
  | start =>
      refine ⟨fun _ _ => rfl, fun _ _ => rfl, fun s hs => ?_⟩
      have hs : store.find? token = some s := hs
      rw [h.unknown] at hs
      cases hs
  | arrive before id r stays ih =>
      exact (ih ((List.prefix_append _ _).trans earlier)
        ((List.prefix_append _ _).trans earlier')).arrive before h.stays id
        r stays
  | leave before id r gone ih =>
      exact (ih ((List.prefix_append _ _).trans earlier) earlier').leave
        h.stays id r gone
  | @step _ _ i before stays world world' same ih =>
      have hbefore := (List.prefix_append _ _).trans earlier
      have hagree := ih hbefore ((List.prefix_append _ _).trans earlier')
      by_cases hmine : IsMine token opener moves i
      · obtain rfl := same hmine
        exact h.agree_step hagree earlier earlier' hmine
      · -- what the two runs do here need not have to do with each other
        exact h.agree_other
          (h.agree_skip hagree earlier hmine) before hbefore
          stays earlier' hmine
  | @skip _ _ i before world gone ih =>
      exact h.agree_skip
        (ih ((List.prefix_append _ _).trans earlier) earlier') earlier
        fun hmine => gone (h.stays i hmine)

/-- Where the two runs agree, they are the same for the session. -/
theorem sameFor
    (thinned : Thinned kept (IsMine token opener moves) early early')
    (earlier : early <+: moves) (earlier' : early' <+: moves') :
    SameFor svc store token kept early early' where
  responses i r hr hof := by
    have hmine : IsMine token opener moves i :=
      .inr ⟨r, arrivals_early earlier hr, hof⟩
    have hagree := h.agree thinned earlier earlier'
    rw [← thinned.arrivals_eq (h.stays i hmine)]
    exact ⟨hr, (hagree.flows i hmine).symm⟩
  session now hnow hnow' := by
    have hagree := h.agree thinned earlier earlier'
    unfold SessionStore.session?
    by_cases hover : ends ≤ now
    · -- the session is over, whether or not it was dropped
      have hnone : ∀ {found : Option Session},
          (∀ s, found = some s → s.expiresAt = ends) →
          found.filter (fun s => !s.isExpired now) = none := by
        intro found hends
        rw [Option.filter_eq_none_iff]
        intro s hs
        simp [Session.isExpired, hends s hs, hover]
      rw [hnone hagree.ends', hnone fun _ =>
        h.expiresAt_of_found earlier]
    · have hlive : ∀ {ms : List Move}, (∀ t ∈ readings ms, t ≤ now) →
          Unexpired ends ms :=
        fun hms t ht hend => hover (Int.le_trans hend (hms t ht))
      rw [hagree.found (hlive hnow) (hlive hnow')]

end TwoRuns

end Isolation

/-- Whatever requests of others are taken out of a run, and however those
that stay go on: the requests of a session get the same answers at the same
steps, and it has the same credentials and the same builder at every point,
if it is unexpired when its requests take a step and the servers answer
them the same at the same times. -/
theorem same_of_twoRuns (svc : Service) (store : SessionStore)
    (token : String) (opener : Nat) (ends : Instant) (kept : Nat → Prop)
    [DecidablePred kept] (moves moves' : List Move)
    (runs : TwoRuns svc store token opener ends kept moves moves') :
    SameFor svc store token kept moves moves'
      ∧ ∀ early, early <+: moves → ∃ early', early' <+: moves'
        ∧ Thinned kept (IsMine token opener moves) early early'
        ∧ SameFor svc store token kept early early' := by
  refine ⟨runs.sameFor runs.thinned (List.prefix_refl _)
    (List.prefix_refl _), fun early hearly => ?_⟩
  obtain ⟨early', hearly', hthinned⟩ := runs.thinned.exists_early hearly
  exact ⟨early', hearly', hthinned,
    runs.sameFor hthinned hearly hearly'⟩

-- ======================================================== a run of two

/-- A session is opened and lists the buckets. Meanwhile others log in, the
last of them when the session is over, and somebody asks for a report. -/
def sharedRun : List Move :=
  let login : Request := ⟨"POST", "/api/v1/auth/login", [],
    some "application/json", loginText "secret"⟩
  let steps (i n : Nat) (now : Int) (fresh : String) : List Move :=
    List.replicate n
      (.step i { now := ⟨now⟩, fresh, answer := sampleAnswer })
  .arrive "0" login :: steps 0 2 0 "bob"
    ++ [.arrive "1" login, .arrive "2" ⟨"POST",
      "/api/v1/builder/buckets/refresh", ["Bearer bob"], none, ""⟩]
    ++ steps 2 2 1000 "" ++ steps 1 2 2000 "eve" ++ steps 2 2 3000 ""
    ++ .arrive "3" ⟨"GET", "/health", [], none, ""⟩ :: steps 3 3 4000 ""
    ++ .arrive "4" login :: steps 4 2 4000000 "zoe"

/-- The other logins are taken out. -/
def sharedKept (i : Nat) : Prop := i ≠ 1 ∧ i ≠ 4

instance : DecidablePred sharedKept := fun i =>
  inferInstanceAs (Decidable (i ≠ 1 ∧ i ≠ 4))

theorem same_of_sharedRun :
    let moves' := without sharedKept 0 sharedRun
    let server := Server.run sampleService ⟨.ofLifetime 3600, [], []⟩
      sharedRun
    let server' := Server.run sampleService ⟨.ofLifetime 3600, [], []⟩
      moves'
    TwoRuns sampleService (.ofLifetime 3600) "bob" 0 ⟨3600000⟩ sharedKept
        sharedRun moves'
      ∧ (server.flows[2]?.bind Flow.ended?).map
          (Option.map Response.status) = some (some 200)
      ∧ (server.store.find? "bob" = none
        ∧ (server'.store.find? "bob").map (·.builder.buckets.length)
          = some 2)
      ∧ SameFor sampleService (.ofLifetime 3600) "bob" sharedKept sharedRun
        moves' := by
  intro moves' server server'
  have hordered : (readings sharedRun).Pairwise (· ≤ ·) := by
    decide +kernel
  have hordered' : (readings moves').Pairwise (· ≤ ·) := by
    decide +kernel
  have hlive : ∀ m ∈ sharedRun, m.request? = some 2 →
      ∀ t ∈ m.reading?, ¬ (⟨3600000⟩ : Instant) ≤ t := by decide +kernel
  have hlive' : ∀ m ∈ moves', m.request? = some 1 →
      ∀ t ∈ m.reading?, ¬ (⟨3600000⟩ : Instant) ≤ t := by decide +kernel
  have hown : ∀ i, IsOwn "bob" sharedRun i → i = 2 := fun _ =>
    IsOwn.eq (by decide +kernel)
  have hown' : ∀ i, IsOwn "bob" moves' i → i = 1 := fun _ =>
    IsOwn.eq (by decide +kernel)
  have hlogin : (arrivals sharedRun)[0]?.bind Request.asked?
      = some (.login "secret" "acme") := by decide +kernel
  have hruns : TwoRuns sampleService (.ofLifetime 3600) "bob" 0 ⟨3600000⟩
      sharedKept sharedRun moves' := by
    refine ⟨SessionStore.wellKeyed_ofLifetime 3600, rfl,
      thinned_without .start sharedRun, ?_, fun r hr => ?_,
      by decide +kernel, by decide +kernel, ?_, ?_⟩
    · rintro i (rfl | hmine)
      · decide
      · rw [hown i hmine]
        decide
    · rw [hr] at hlogin
      exact ⟨_, _, hlogin⟩
    · intro early world entry made hmine
      have hmem := made.moved.subset (List.mem_append_right _
        (List.mem_singleton_self _))
      exact made.unexpired hordered
        (hlive _ hmem (congrArg some (hown _ hmine)) _ rfl)
    · intro early world entry made hmine
      have hmem := made.moved.subset (List.mem_append_right _
        (List.mem_singleton_self _))
      exact made.unexpired hordered'
        (hlive' _ hmem (congrArg some (hown' _ hmine)) _ rfl)
  exact ⟨hruns, by decide +kernel, by decide +kernel,
    (same_of_twoRuns _ _ _ _ _ _ _ _ hruns).1⟩

end FluxComposer
