import FluxComposer.Proofs.Session.Store
import Mathlib.Data.List.Induction
import Mathlib.Data.List.Nodup
import Mathlib.Logic.Function.Basic
/-
What callers of a store see of it. A store drops the sessions that are
over, some when they are touched and the others when sessions are purged,
so it holds more or fewer sessions than the calls account for. A register
(`Register`) is the same without any dropping: every session that was
opened and not closed, over or not.

The store shows the register (`Shows`): what it holds is registered, and
what is registered and not over it holds. Time only goes on, so what is
over stays over, and every turn keeps it so (`shows_after`). That is why
lookups answer by the register and the clock (`touch_ok_iff`), and the
register is read off the turns that came before (`registered_iff`).
-/
namespace FluxComposer.SessionStore

variable {store : SessionStore} {token : String} {now : Instant}
  {s s' : Session}

-- =============================================================== calls

/-- A call of a store. Of a session's builder any use can be made. A
token is issued, and the lifetime of its session begins, before the store
is free; what is over is purged then. -/
inductive Call : Type 1 where
  | create (issuedAt : Instant) (token : String) (credentials : Credentials)
  | credentials (token : String)
  | withBuilder {α : Type} (token : String) (use : Builder → α × Builder)
  | remove (token : String)
  | purge
  | size

/-- A call and the time at which it has its turn. -/
structure Turn : Type 1 where
  now : Instant
  call : Call

/-- The store after a call. -/
def after (now : Instant) (store : SessionStore) : Call → SessionStore
  | .create issuedAt token c => (store.create now token c issuedAt).2
  | .credentials token => (store.credentials now token).2
  | .withBuilder token use => (store.withBuilder now token use).2
  | .remove token => (store.remove token).2
  | .purge => store.purge now
  | .size => store

/-- The store after a list of calls, for sessions of a lifetime. -/
def afterAll (lifetime : Nat) (turns : List Turn) : SessionStore :=
  turns.foldl (fun store turn => store.after turn.now turn.call) { lifetime }

/-- The token that a call issues. -/
def Call.issued? : Call → Option String
  | .create _ token _ => some token
  | _ => none

/-- The token that a call is about. -/
def Call.token? : Call → Option String
  | .create _ token _ | .credentials token | .withBuilder token _
  | .remove token => some token
  | .purge | .size => none

/-- The tokens that are issued. -/
def issuedTokens (turns : List Turn) : List String :=
  turns.filterMap (·.call.issued?)

/-- Turns come one after another. A token is issued once, before its call
has its turn, and the clock reaches to the end of its session. -/
structure InOrder (lifetime : Nat) (turns : List Turn) : Prop where
  ordered : turns.Pairwise fun a b => a.now ≤ b.now
  fresh : (issuedTokens turns).Nodup
  issued : ∀ turn ∈ turns, ∀ issuedAt token c,
    turn.call = .create issuedAt token c →
      issuedAt ≤ turn.now ∧ (issuedAt.after? lifetime).isSome

-- ============================================================ registers

/-- The sessions by their tokens, over or not. -/
abbrev Register := String → Option Session

/-- What a turn makes of the builder of a session that ends at some time.
A use that comes too late is refused. -/
def Turn.build (token : String) (expiresAt : Instant) (b : Builder)
    (turn : Turn) : Builder :=
  match turn.call with
  | .withBuilder token' use =>
    if token' = token ∧ ¬ expiresAt ≤ turn.now then (use b).2 else b
  | _ => b

/-- What a turn does to the register of sessions of a lifetime. -/
def Turn.register (lifetime : Nat) (reg : Register) (turn : Turn) :
    Register :=
  match turn.call with
  | .create issuedAt token c =>
    Function.update reg token ((issuedAt.after? lifetime).map
      fun expiresAt => { credentials := c, expiresAt })
  | .withBuilder token _ =>
    Function.update reg token ((reg token).map fun s =>
      { s with builder := turn.build token s.expiresAt s.builder })
  | .remove token => Function.update reg token none
  | .credentials _ | .purge | .size => reg

/-- The register that turns lead to. -/
def registered (lifetime : Nat) (turns : List Turn) : Register :=
  turns.foldl (Turn.register lifetime) fun _ => none

/-- A store shows a register: it holds nothing else, and all that is not
over. -/
structure Shows (now : Instant) (store : SessionStore) (reg : Register) :
    Prop where
  held : ∀ token s, store.find? token = some s → reg token = some s
  shown : ∀ token s, reg token = some s → s.isExpired now = false →
    store.find? token = some s

variable {reg : Register}

theorem shows_find? (store : SessionStore) (now : Instant) :
    Shows now store store.find? :=
  ⟨fun _ _ h => h, fun _ _ h _ => h⟩

/-- What is not over now was not over before. -/
theorem isExpired_mono {now' : Instant} (later : now ≤ now')
    (h : s.isExpired now' = false) : s.isExpired now = false := by
  have hlater : now.millis ≤ now'.millis := later
  have hend : ¬ s.expiresAt.millis ≤ now'.millis := of_decide_eq_false h
  refine decide_eq_false (p := s.expiresAt.millis ≤ now.millis) ?_
  omega

/-- As time goes on, less of the register has to be shown. -/
theorem shows_later {now' : Instant} (h : Shows now store reg)
    (later : now ≤ now') : Shows now' store reg :=
  ⟨h.held, fun token s hreg hend =>
    h.shown token s hreg (isExpired_mono later hend)⟩

/-- A purge drops only what need not be shown. -/
theorem shows_purge {now' : Instant} (keyed : store.WellKeyed)
    (h : Shows now store reg) (earlier : now' ≤ now) :
    Shows now (store.purge now') reg := by
  refine ⟨fun token s hfound => ?_, fun token s hreg hend => ?_⟩
  · rw [find?_purge keyed, Option.filter_eq_some_iff] at hfound
    exact h.held token s hfound.1
  · rw [find?_purge keyed, h.shown token s hreg hend,
      Option.filter_some, isExpired_mono earlier hend]
    rfl

/-- A session that is put in is registered. -/
theorem shows_insert (h : Shows now store reg) (token : String)
    (s : Session) :
    Shows now (store.insert token s)
      (Function.update reg token (some s)) := by
  refine ⟨fun token' s' hfound => ?_, fun token' s' hreg hend => ?_⟩
  · rw [find?_insert] at hfound
    rw [Function.update_apply]
    by_cases htoken : token' = token
    · rwa [if_pos htoken] at hfound ⊢
    · rw [if_neg htoken] at hfound ⊢
      exact h.held token' s' hfound
  · rw [Function.update_apply] at hreg
    rw [find?_insert]
    by_cases htoken : token' = token
    · rwa [if_pos htoken] at hreg ⊢
    · rw [if_neg htoken] at hreg ⊢
      exact h.shown token' s' hreg hend

/-- A session that is closed is taken out of the register. -/
theorem shows_erase (h : Shows now store reg) (token : String) :
    Shows now (store.erase token) (Function.update reg token none) := by
  refine ⟨fun token' s hfound => ?_, fun token' s hreg hend => ?_⟩
  · rw [find?_erase] at hfound
    rw [Function.update_apply]
    by_cases htoken : token' = token
    · rwa [if_pos htoken] at hfound ⊢
    · rw [if_neg htoken] at hfound ⊢
      exact h.held token' s hfound
  · rw [Function.update_apply] at hreg
    rw [find?_erase]
    by_cases htoken : token' = token
    · rwa [if_pos htoken] at hreg ⊢
    · rw [if_neg htoken] at hreg ⊢
      exact h.shown token' s hreg hend

/-- A session that is touched keeps its end, so the register can take the
change over whether or not the session is over. -/
theorem shows_touch {α : Type} (use : Session → α × Session)
    (kept : Session → Session)
    (ends : ∀ s, (kept s).expiresAt = s.expiresAt)
    (uses : ∀ s, s.isExpired now = false → kept s = (use s).2)
    (h : Shows now store reg) (token : String) :
    Shows now (store.touch now token use).2
      (Function.update reg token ((reg token).map kept)) := by
  have hexpired : ∀ s, (kept s).isExpired now = s.isExpired now :=
    fun s => by unfold Session.isExpired; rw [ends]
  refine ⟨fun token' s' hfound => ?_, fun token' s' hreg hend => ?_⟩
  · rw [find?_touch] at hfound
    rw [Function.update_apply]
    by_cases htoken : token' = token
    · rw [if_pos htoken] at hfound ⊢
      obtain ⟨s, hs, huse⟩ := Option.bind_eq_some_iff.1 hfound
      rw [h.held token s hs]
      split at huse
      · cases huse
      · rwa [← uses s (Bool.eq_false_iff.2 ‹_›)] at huse
    · rw [if_neg htoken] at hfound ⊢
      exact h.held token' s' hfound
  · rw [Function.update_apply] at hreg
    rw [find?_touch]
    by_cases htoken : token' = token
    · rw [if_pos htoken] at hreg ⊢
      obtain ⟨s, hs, rfl⟩ := Option.map_eq_some_iff.1 hreg
      rw [hexpired] at hend
      rw [h.shown token s hs hend, Option.bind_some, hend, uses s hend]
      rfl
    · rw [if_neg htoken] at hreg ⊢
      exact h.shown token' s' hreg hend

/-- What a lookup gives, by the register and the clock. -/
theorem touch_ok_iff {α : Type} {use : Session → α × Session} {a : α}
    (h : Shows now store reg) :
    (store.touch now token use).1 = .ok a
      ↔ ∃ s, reg token = some s ∧ s.isExpired now = false
        ∧ (use s).1 = a := by
  unfold touch
  constructor
  · cases hs : store.find? token with
    | none => nofun
    | some s =>
        cases hend : s.isExpired now with
        | true => simp [hend]
        | false =>
            intro hok
            simp only [hend] at hok
            exact ⟨s, h.held token s hs, hend, Except.ok.inj hok⟩
  · rintro ⟨s, hreg, hend, rfl⟩
    simp only [h.shown token s hreg hend, hend]
    rfl

-- ================================================================ steps

theorem lifetime_after (store : SessionStore) (now : Instant)
    (call : Call) : (store.after now call).lifetime = store.lifetime := by
  cases call with
  | create issuedAt token c =>
      exact lifetime_run (.create c) now token store issuedAt
  | credentials | withBuilder => exact lifetime_touch _ _ _ _
  | remove | purge | size => rfl

theorem wellKeyed_after (keyed : store.WellKeyed) (now : Instant)
    (call : Call) : (store.after now call).WellKeyed := by
  cases call with
  | create issuedAt token c =>
      exact wellKeyed_run keyed (.create c) now token issuedAt
  | credentials | withBuilder => exact wellKeyed_touch keyed _
  | remove token => exact wellKeyed_erase keyed token
  | purge => exact wellKeyed_purge keyed now
  | size => exact keyed

/-- A turn does to the store what it does to the register that the store
shows. -/
theorem shows_after {turn : Turn} (keyed : store.WellKeyed)
    (issued : ∀ issuedAt token c, turn.call = .create issuedAt token c →
      issuedAt ≤ turn.now ∧ (issuedAt.after? store.lifetime).isSome)
    (h : Shows turn.now store reg) :
    Shows turn.now (store.after turn.now turn.call)
      (turn.register store.lifetime reg) := by
  obtain ⟨now, call⟩ := turn
  -- by the call: each is one of the changes above, or none
  cases call with
  | create issuedAt token c =>
      obtain ⟨-, hreach⟩ := issued issuedAt token c rfl
      obtain ⟨expiresAt, hend⟩ := Option.isSome_iff_exists.1 hreach
      simp only [after, create, Turn.register, hend]
      exact shows_insert (shows_purge keyed h (Int.le_refl _)) token _
  | credentials token =>
      have htouch := shows_touch (fun s => (s.credentials, s)) id
        (fun _ => rfl) (fun _ _ => rfl) h token
      rw [Option.map_id, id_eq, Function.update_eq_self] at htouch
      exact htouch
  | withBuilder token use =>
      refine shows_touch _ (fun s => { s with
        builder := Turn.build token s.expiresAt s.builder
          ⟨now, .withBuilder token use⟩ }) (fun _ => rfl)
        (fun s hend => ?_) h token
      have hlate : ¬ s.expiresAt ≤ now := of_decide_eq_false hend
      simp only [Turn.build, hlate, not_false_eq_true, and_self, if_true]
  | remove token => exact shows_erase h token
  | purge => exact shows_purge keyed h (Int.le_refl _)
  | size => exact h

-- ================================================================= runs

section Runs

variable {lifetime : Nat} {turns front : List Turn} {turn : Turn}

theorem afterAll_concat (lifetime : Nat) (front : List Turn)
    (turn : Turn) : afterAll lifetime (front ++ [turn])
      = (afterAll lifetime front).after turn.now turn.call := by
  simp [afterAll]

theorem registered_concat (lifetime : Nat) (front : List Turn)
    (turn : Turn) : registered lifetime (front ++ [turn])
      = turn.register lifetime (registered lifetime front) := by
  simp [registered]

theorem lifetime_afterAll (lifetime : Nat) (turns : List Turn) :
    (afterAll lifetime turns).lifetime = lifetime := by
  induction turns using List.reverseRecOn with
  | nil => rfl
  | append_singleton front turn ih =>
      rw [afterAll_concat, lifetime_after, ih]

/-- In the end every token has one session at most. -/
theorem wellKeyed_afterAll (lifetime : Nat) (turns : List Turn) :
    (afterAll lifetime turns).WellKeyed := by
  induction turns using List.reverseRecOn with
  | nil => exact List.nodup_nil
  | append_singleton front turn ih =>
      rw [afterAll_concat]
      exact wellKeyed_after ih _ _

theorem InOrder.of_front (order : InOrder lifetime turns)
    (h : front <+: turns) : InOrder lifetime front where
  ordered := order.ordered.sublist h.sublist
  fresh := order.fresh.sublist (h.sublist.filterMap _)
  issued := fun turn hturn => order.issued turn (h.subset hturn)

/-- All turns before the last one are earlier. -/
theorem InOrder.le_last (order : InOrder lifetime (front ++ [turn])) :
    ∀ earlier ∈ front, earlier.now ≤ turn.now := by
  intro earlier hearlier
  exact (List.pairwise_append.1 order.ordered).2.2 earlier hearlier turn
    (List.mem_singleton_self turn)

/-- A store shows the register that its turns lead to. The induction is
on the last turn: the store shows the register at its time, and at all
later times. -/
theorem shows_afterAll (order : InOrder lifetime turns)
    (late : ∀ turn ∈ turns, turn.now ≤ now) :
    Shows now (afterAll lifetime turns) (registered lifetime turns) := by
  induction turns using List.reverseRecOn generalizing now with
  | nil => exact shows_find? _ now
  | append_singleton front turn ih =>
      have hlast : turn ∈ front ++ [turn] := by simp
      have hfront : Shows turn.now (afterAll lifetime front)
          (registered lifetime front) :=
        ih (order.of_front (List.prefix_append _ _)) order.le_last
      have hstep := shows_after (wellKeyed_afterAll lifetime front)
        (by rw [lifetime_afterAll]; exact order.issued turn hlast) hfront
      rw [lifetime_afterAll] at hstep
      rw [afterAll_concat, registered_concat]
      exact shows_later hstep (late turn hlast)

-- ============================================================== history

/-- The session that a create opens for credentials, after later turns. -/
def openedAt (lifetime : Nat) (issuedAt : Instant) (token : String)
    (c : Credentials) (late : List Turn) : Session :=
  let expiresAt : Instant := ⟨issuedAt.millis + 1000 * lifetime⟩
  { credentials := c
    builder := late.foldl (Turn.build token expiresAt) {}
    expiresAt }

/-- The turns tell of a session: a create opened it, nothing has closed it
since, and its builder is what its uses have left. -/
def Tells (lifetime : Nat) (turns : List Turn) (token : String)
    (s : Session) : Prop :=
  ∃ early issuedAt now c late,
    turns = early ++ ⟨now, .create issuedAt token c⟩ :: late
    ∧ (∀ turn ∈ late, turn.call ≠ .remove token)
    ∧ s = openedAt lifetime issuedAt token c late

/-- A session after a turn that neither opened nor closed it. -/
def Turn.rework (token : String) (s : Session) (turn : Turn) : Session :=
  { s with builder := turn.build token s.expiresAt s.builder }

theorem openedAt_concat (lifetime : Nat) (issuedAt : Instant)
    (token : String) (c : Credentials) (late : List Turn) (turn : Turn) :
    openedAt lifetime issuedAt token c (late ++ [turn])
      = turn.rework token (openedAt lifetime issuedAt token c late) := by
  simp [openedAt, Turn.rework]

theorem mem_issuedTokens {early late : List Turn} {t issuedAt : Instant}
    {c : Credentials} (h : turns
      = early ++ ⟨t, .create issuedAt token c⟩ :: late) :
    token ∈ issuedTokens turns := by
  subst h
  simp [issuedTokens, Call.issued?]

theorem Tells.issued (h : Tells lifetime turns token s) :
    token ∈ issuedTokens turns := by
  obtain ⟨early, issuedAt, t, c, late, hturns, -⟩ := h
  exact mem_issuedTokens hturns

/-- What a last turn changes about a session. -/
theorem tells_concat : Tells lifetime (front ++ [turn]) token s
    ↔ (∃ issuedAt c, turn.call = .create issuedAt token c
        ∧ s = openedAt lifetime issuedAt token c [])
      ∨ (turn.call ≠ .remove token
        ∧ ∃ s₀, Tells lifetime front token s₀
          ∧ s = turn.rework token s₀) := by
  constructor
  · rintro ⟨early, issuedAt, t, c, late, hturns, hopen, rfl⟩
    -- the last turn is the one that opened the session, or comes after it
    rcases List.eq_nil_or_concat late with rfl | ⟨late, last, rfl⟩
    · obtain ⟨-, hturn⟩ := List.append_inj' hturns rfl
      rw [List.singleton_inj] at hturn
      exact .inl ⟨issuedAt, c, by rw [hturn], rfl⟩
    · rw [List.concat_eq_append, ← List.cons_append,
        ← List.append_assoc] at hturns
      obtain ⟨hfront, hturn⟩ := List.append_inj' hturns rfl
      rw [List.singleton_inj] at hturn
      subst hturn
      rw [List.concat_eq_append] at hopen ⊢
      refine .inr ⟨hopen turn (by simp), _,
        ⟨early, issuedAt, t, c, late, hfront, ?_, rfl⟩,
        openedAt_concat ..⟩
      exact fun turn hturn =>
        hopen turn (List.mem_append_left _ hturn)
  · rintro (⟨issuedAt, c, hcall, rfl⟩ | ⟨hcall, _, hs, rfl⟩)
    · exact ⟨front, issuedAt, turn.now, c, [], by rw [← hcall], nofun,
        rfl⟩
    · obtain ⟨early, issuedAt, t, c, late, rfl, hopen, rfl⟩ := hs
      refine ⟨early, issuedAt, t, c, late ++ [turn], by simp, ?_,
        (openedAt_concat ..).symm⟩
      intro later hlater
      rw [List.mem_append, List.mem_singleton] at hlater
      rcases hlater with hlater | rfl
      · exact hopen later hlater
      · exact hcall

/-- A turn that issues a token registers its session. -/
theorem register_of_issued {c : Credentials} {issuedAt : Instant}
    (reach : (issuedAt.after? lifetime).isSome)
    (h : turn.call = .create issuedAt token c) (reg : Register) :
    turn.register lifetime reg token
      = some (openedAt lifetime issuedAt token c []) := by
  have hend : issuedAt.after? lifetime
      = some ⟨issuedAt.millis + 1000 * lifetime⟩ := by
    simp only [Instant.after?] at reach ⊢
    split at reach
    case isTrue hlast => exact if_pos hlast
    case isFalse => cases reach
  simp only [Turn.register, h, hend, Function.update_self]
  rfl

/-- A turn that neither opens nor closes a session may rework it. -/
theorem register_of_open (reg : Register)
    (issued : turn.call.issued? ≠ some token)
    (hopen : turn.call ≠ .remove token) :
    turn.register lifetime reg token
      = (reg token).map (turn.rework token) := by
  obtain ⟨now, call⟩ := turn
  cases call with
  | create issuedAt token' c =>
      have htoken : token ≠ token' := fun h => issued (by rw [h]; rfl)
      exact (Function.update_of_ne htoken _ _).trans Option.map_id'.symm
  | withBuilder token' use =>
      by_cases htoken : token = token'
      · subst htoken
        exact Function.update_self ..
      · refine (Function.update_of_ne htoken _ _).trans ?_
        have hkeep : (fun s => Turn.rework token s
            ⟨now, .withBuilder token' use⟩) = id := by
          funext s
          simp [Turn.rework, Turn.build, Ne.symm htoken]
        rw [hkeep, Option.map_id, id_eq]
  | remove token' =>
      have htoken : token ≠ token' := fun h => hopen (by rw [h])
      exact (Function.update_of_ne htoken _ _).trans Option.map_id'.symm
  | credentials | purge | size => exact Option.map_id'.symm

/-- What a turn changes about a registered session. -/
theorem register_eq_some {reg : Register}
    (issued : ∀ issuedAt token c, turn.call = .create issuedAt token c →
      (issuedAt.after? lifetime).isSome) :
    turn.register lifetime reg token = some s
      ↔ (∃ issuedAt c, turn.call = .create issuedAt token c
          ∧ s = openedAt lifetime issuedAt token c [])
        ∨ (turn.call.issued? ≠ some token ∧ turn.call ≠ .remove token
          ∧ ∃ s₀, reg token = some s₀ ∧ s = turn.rework token s₀) := by
  by_cases hissued : turn.call.issued? = some token
  case pos =>
    obtain ⟨issuedAt, c, hcall⟩ :
        ∃ issuedAt c, turn.call = .create issuedAt token c := by
      cases hcall : turn.call with
      | create issuedAt token' c =>
          rw [hcall] at hissued
          cases hissued
          exact ⟨issuedAt, c, rfl⟩
      | _ => rw [hcall] at hissued; cases hissued
    rw [register_of_issued (issued issuedAt token c hcall) hcall]
    simp only [hissued, ne_eq, not_true_eq_false, false_and, or_false,
      Option.some_inj]
    constructor
    · rintro rfl
      exact ⟨issuedAt, c, hcall, rfl⟩
    · rintro ⟨issuedAt', c', hcall', rfl⟩
      rw [hcall] at hcall'
      cases hcall'
      rfl
  case neg =>
    have hcreate : ∀ issuedAt c, turn.call ≠ .create issuedAt token c :=
      fun issuedAt c h => hissued (by rw [h]; rfl)
    by_cases hopen : turn.call = .remove token
    · simp [Turn.register, hopen]
    · rw [register_of_open reg hissued hopen, Option.map_eq_some_iff]
      simp [hissued, hopen, hcreate, eq_comm]

/-- The register is read off the turns. -/
theorem registered_iff (order : InOrder lifetime turns) :
    registered lifetime turns token = some s
      ↔ Tells lifetime turns token s := by
  -- on the last turn, for any session
  induction turns using List.reverseRecOn generalizing s with
  | nil =>
      constructor
      · nofun
      · rintro ⟨early, _, _, _, _, hturns, -⟩
        simp at hturns
  | append_singleton front turn ih =>
      have hfront := order.of_front (List.prefix_append _ _)
      rw [registered_concat, register_eq_some fun issuedAt token c h =>
        (order.issued turn (by simp) issuedAt token c h).2, tells_concat]
      refine or_congr_right ⟨?_, ?_⟩
      · rintro ⟨-, hopen, s₀, hs, rfl⟩
        exact ⟨hopen, s₀, (ih hfront).1 hs, rfl⟩
      · rintro ⟨hopen, s₀, hs, rfl⟩
        refine ⟨fun hissued => ?_, hopen, s₀, (ih hfront).2 hs, rfl⟩
        -- a token that is issued now has no session from before
        have hfresh := order.fresh
        have hlast : issuedTokens [turn] = [token] := by
          simp [issuedTokens, hissued]
        unfold issuedTokens at hfresh hlast
        rw [List.filterMap_append, hlast] at hfresh
        exact List.disjoint_of_nodup_append hfresh hs.issued (by simp)

/-- A session that is told of was there ever since its token was
issued. -/
theorem Tells.of_front {rest : List Turn}
    (fresh : (issuedTokens (front ++ rest)).Nodup)
    (issued : token ∈ issuedTokens front)
    (h : Tells lifetime (front ++ rest) token s) :
    ∃ s₀, Tells lifetime front token s₀ ∧ s₀.expiresAt = s.expiresAt := by
  induction rest using List.reverseRecOn generalizing s with
  | nil => exact ⟨s, by simpa using h, rfl⟩
  | append_singleton rest turn ih =>
      rw [← List.append_assoc] at h fresh
      have hfront : (issuedTokens (front ++ rest)).Nodup :=
        fresh.sublist ((List.sublist_append_left _ _).filterMap _)
      rcases tells_concat.1 h with ⟨issuedAt, c, hcall, -⟩ | h
      · unfold issuedTokens at fresh issued
        rw [List.filterMap_append, List.filterMap_append] at fresh
        exact absurd (by simp [hcall, Call.issued?])
          (List.disjoint_of_nodup_append fresh
            (List.mem_append_left _ issued))
      · obtain ⟨-, s₁, hs₁, rfl⟩ := h
        obtain ⟨s₀, hs₀, hsame⟩ := ih hfront hs₁
        exact ⟨s₀, hs₀, hsame⟩

/-- A call about another token reworks nothing. -/
theorem rework_of_ne (h : turn.call.token? ≠ some token) (s : Session) :
    turn.rework token s = s := by
  obtain ⟨now, call⟩ := turn
  cases call with
  | withBuilder token' use =>
      have htoken : token' ≠ token := fun heq => h (congrArg some heq)
      simp [Turn.rework, Turn.build, htoken]
  | _ => rfl

-- ============================================================== promise

/-- What callers of a store rely on, after turns. -/
structure IsSessionMap (lifetime : Nat) (turns : List Turn) : Prop where
  /-- A token gives the credentials of its session until that is over. -/
  credentials_iff : ∀ now token c, (∀ turn ∈ turns, turn.now ≤ now) →
    (((afterAll lifetime turns).credentials now token).1 = .ok c
      ↔ ∃ s, Tells lifetime turns token s
        ∧ now.millis < s.expiresAt.millis ∧ s.credentials = c)
  /-- A token gives the use of the builder of its session until that is
  over. -/
  withBuilder_iff : ∀ {α : Type} now token (use : Builder → α × Builder) a,
    (∀ turn ∈ turns, turn.now ≤ now) →
    (((afterAll lifetime turns).withBuilder now token use).1 = .ok a
      ↔ ∃ s, Tells lifetime turns token s
        ∧ now.millis < s.expiresAt.millis ∧ (use s.builder).1 = a)
  /-- A token that was refused once after it was issued stays refused. -/
  refused : ∀ {α β : Type} front token sooner now
    (use : Session → α × Session) (again : Session → β × Session) e,
    front <+: turns → token ∈ issuedTokens front → sooner ≤ now →
    (∀ turn ∈ front, turn.now ≤ sooner) →
    (∀ turn ∈ turns, turn.now ≤ now) →
    ((afterAll lifetime front).touch sooner token use).1 = .error e →
    ∃ e', ((afterAll lifetime turns).touch now token again).1 = .error e'
  /-- A session that is not over stays until it is closed, and only a use
  changes it. -/
  kept : ∀ front turn token s, front ++ [turn] <+: turns →
    (afterAll lifetime front).find? token = some s →
    s.isExpired turn.now = false → turn.call ≠ .remove token →
    (afterAll lifetime (front ++ [turn])).find? token
      = some (turn.rework token s)
  /-- A call about another token does not change a session. -/
  apart : ∀ front turn token s, front ++ [turn] <+: turns →
    turn.call.token? ≠ some token →
    (afterAll lifetime (front ++ [turn])).find? token = some s →
    (afterAll lifetime front).find? token = some s

/-- What a lookup gives, by the turns. -/
theorem touch_afterAll_iff {α : Type} (use : Session → α × Session)
    {a : α} (order : InOrder lifetime turns)
    (late : ∀ turn ∈ turns, turn.now ≤ now) :
    ((afterAll lifetime turns).touch now token use).1 = .ok a
      ↔ ∃ s, Tells lifetime turns token s
        ∧ now.millis < s.expiresAt.millis ∧ (use s).1 = a := by
  rw [touch_ok_iff (shows_afterAll order late)]
  have hend : ∀ s : Session, s.isExpired now = false
      ↔ now.millis < s.expiresAt.millis := by
    intro s
    unfold Session.isExpired
    rw [decide_eq_false_iff_not]
    exact Int.not_le
  simp only [registered_iff order, hend]

/-- What was issued before is not issued by the last turn. -/
theorem InOrder.issued_ne (order : InOrder lifetime (front ++ [turn]))
    (h : (afterAll lifetime front).find? token = some s) :
    turn.call.issued? ≠ some token := by
  intro hissued
  have hfront := order.of_front (List.prefix_append front [turn])
  have hreg := (shows_afterAll hfront order.le_last).held token s h
  have htells := (registered_iff hfront).1 hreg
  have hfresh := order.fresh
  unfold issuedTokens at hfresh
  rw [List.filterMap_append] at hfresh
  exact List.disjoint_of_nodup_append hfresh htells.issued
    (by simp [hissued])

/-- What the last turn does to what the store holds. -/
theorem shows_last (order : InOrder lifetime (front ++ [turn])) :
    Shows turn.now (afterAll lifetime (front ++ [turn]))
      (turn.register lifetime (afterAll lifetime front).find?) := by
  have hstep := shows_after (wellKeyed_afterAll lifetime front)
    (by rw [lifetime_afterAll]; exact order.issued turn (by simp))
    (shows_find? (afterAll lifetime front) turn.now)
  rw [lifetime_afterAll] at hstep
  rw [afterAll_concat]
  exact hstep

/-- A store is a map from tokens to sessions, as far as callers can see:
what it drops in between is over already. -/
theorem isSessionMap_afterAll (order : InOrder lifetime turns) :
    IsSessionMap lifetime turns where
  credentials_iff := fun _ _ _ late => touch_afterAll_iff _ order late
  withBuilder_iff := fun _ _ _ _ late => touch_afterAll_iff _ order late
  refused := by
    rintro α β front token sooner now use again e ⟨rest, rfl⟩ hissued
      hlater hfront hturns hrefused
    cases hagain : ((afterAll lifetime (front ++ rest)).touch now token
        again).1 with
    | error e' => exact ⟨e', rfl⟩
    | ok b =>
        obtain ⟨s, hs, hend, -⟩ :=
          (touch_afterAll_iff again order hturns).1 hagain
        obtain ⟨s₀, hs₀, hsame⟩ := hs.of_front order.fresh hissued
        have hgiven := (touch_afterAll_iff use
          (order.of_front (List.prefix_append _ _)) hfront).2
          ⟨s₀, hs₀, by rw [hsame]; exact Int.lt_of_le_of_lt hlater hend,
            rfl⟩
        rw [hgiven] at hrefused
        cases hrefused
  kept := by
    intro front turn token s hturns hfound hend hopen
    have order := order.of_front hturns
    refine (shows_last order).shown token _ ?_ hend
    rw [register_of_open _ (order.issued_ne hfound) hopen, hfound]
    rfl
  apart := by
    intro front turn token s hturns hother hfound
    have order := order.of_front hturns
    have hreg := (shows_last order).held token s hfound
    have hissued : turn.call.issued? ≠ some token := by
      intro h
      apply hother
      cases hcall : turn.call <;> rw [hcall] at h <;> first
        | exact h
        | cases h
    have hopen : turn.call ≠ .remove token :=
      fun h => hother (by rw [h]; rfl)
    rw [register_of_open _ hissued hopen] at hreg
    obtain ⟨s₀, hs₀, rfl⟩ := Option.map_eq_some_iff.1 hreg
    rwa [rework_of_ne hother]

/-- Two sessions of a minute. The first is used and ends, while the
second is closed. -/
def twoSessions : List Turn :=
  [⟨⟨0⟩, .create ⟨0⟩ "a" ⟨"ada", "lab"⟩⟩,
    ⟨⟨1000⟩, .withBuilder "a" fun b => b.apply (.updateText "x")⟩,
    ⟨⟨2000⟩, .create ⟨1500⟩ "b" ⟨"bob", "lab"⟩⟩,
    ⟨⟨59000⟩, .remove "b"⟩,
    ⟨⟨60000⟩, .withBuilder "a" fun b => b.apply .reset⟩,
    ⟨⟨61000⟩, .purge⟩]

theorem isSessionMap_twoSessions :
    InOrder 60 twoSessions ∧ IsSessionMap 60 twoSessions
      ∧ ((afterAll 60 (twoSessions.take 3)).credentials ⟨59000⟩ "b").1
        = .ok ⟨"bob", "lab"⟩
      ∧ ((afterAll 60 (twoSessions.take 4)).credentials ⟨59999⟩ "a").1
        = .ok ⟨"ada", "lab"⟩
      ∧ ((afterAll 60 twoSessions).credentials ⟨61000⟩ "a").1
        = .error .unknown := by
  have order : InOrder 60 twoSessions := by
    refine ⟨by decide, by decide, ?_⟩
    intro turn hturn issuedAt token c hcall
    simp only [twoSessions, List.mem_cons, List.not_mem_nil,
      or_false] at hturn
    rcases hturn with rfl | rfl | rfl | rfl | rfl | rfl <;> cases hcall
    all_goals decide
  exact ⟨order, isSessionMap_afterAll order, rfl, rfl, rfl⟩

end Runs

end FluxComposer.SessionStore
