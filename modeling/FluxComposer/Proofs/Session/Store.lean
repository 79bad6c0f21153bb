import FluxComposer.Session.Store
import Mathlib.Data.List.Basic
/-
What the operations of a store do, seen through `find?`: each of them
acts on one token, and only purging looks at all sessions. Stores are
seen so because the order of the sessions says nothing.

A purge drops entries and not tokens, so an entry behind another one of
its token would come to light. There is none: `WellKeyed` says so, and
every operation keeps it (`wellKeyed_run`).
-/
namespace FluxComposer.SessionStore

/-- The tokens that have a session. -/
def tokens (store : SessionStore) : List String :=
  store.sessions.map (·.1)

/-- Every token has one session at most. -/
def WellKeyed (store : SessionStore) : Prop := store.tokens.Nodup

variable {store : SessionStore} {token token' : String} {now : Instant}

/-- A session that is found has its token among those of the store. -/
theorem mem_tokens_of_find? {s : Session}
    (h : store.find? token = some s) : token ∈ store.tokens := by
  obtain ⟨front, rest, hsessions, -⟩ := List.lookup_eq_some_iff.1 h
  unfold tokens
  rw [hsessions]
  simp

-- ========================================================== operations

/-- Taking a key out hides it and no other. -/
theorem lookup_filter_ne (sessions : List (String × Session))
    (token token' : String) :
    (sessions.filter (·.1 ≠ token)).lookup token'
      = if token' = token then none else sessions.lookup token' := by
  induction sessions with
  | nil => simp
  | cons entry sessions ih =>
      obtain ⟨key, s⟩ := entry
      -- an entry of the token goes, and with it the only one that could
      -- hide those behind it
      by_cases hkey : key = token
      · subst hkey
        rw [List.filter_cons_of_neg (by simp), ih, List.lookup_cons]
        split
        case isTrue => rfl
        case isFalse htoken => rw [beq_eq_false_iff_ne.2 htoken]
      · rw [List.filter_cons_of_pos (by simpa using hkey),
          List.lookup_cons, List.lookup_cons, ih]
        by_cases htoken : token' = key
        · subst htoken
          rw [BEq.rfl]
          exact (if_neg hkey).symm
        · rw [beq_eq_false_iff_ne.2 htoken]

/-- Where every key comes once, filtering the values filters what is
found. -/
theorem lookup_filter_snd {sessions : List (String × Session)}
    (nodup : (sessions.map (·.1)).Nodup) (keeps : Session → Bool)
    (token : String) :
    (sessions.filter fun entry => keeps entry.2).lookup token
      = (sessions.lookup token).filter keeps := by
  induction sessions with
  | nil => rfl
  | cons entry sessions ih =>
      obtain ⟨key, s⟩ := entry
      rw [List.map_cons, List.nodup_cons] at nodup
      have hrest := ih nodup.2
      by_cases htoken : token = key
      · subst htoken
        -- the key does not come again, so nothing comes to light behind it
        have hnone : sessions.lookup token = none := by
          rw [List.lookup_eq_none_iff]
          intro entry hentry
          rw [bne_iff_ne]
          rintro rfl
          exact nodup.1 (List.mem_map.2 ⟨entry, hentry, rfl⟩)
        rw [hnone] at hrest
        rw [List.lookup_cons_self, List.filter_cons, Option.filter_some]
        split
        · rw [List.lookup_cons_self]
        · exact hrest
      · have hkey : (token == key) = false := beq_eq_false_iff_ne.2 htoken
        rw [List.lookup_cons, hkey, List.filter_cons]
        split
        · rw [List.lookup_cons, hkey]
          exact hrest
        · exact hrest

/-- Erasing a session hides it and no other. -/
theorem find?_erase (store : SessionStore) (token token' : String) :
    (store.erase token).find? token'
      = if token' = token then none else store.find? token' :=
  lookup_filter_ne store.sessions token token'

/-- A session that is put in is found, and no other is touched. -/
theorem find?_insert (store : SessionStore) (token : String) (s : Session)
    (token' : String) : (store.insert token s).find? token'
      = if token' = token then some s else store.find? token' := by
  show List.lookup token' ((token, s) :: (store.erase token).sessions) = _
  rw [List.lookup_cons]
  by_cases htoken : token' = token
  · rw [htoken, BEq.rfl, if_pos rfl]
  · have herase := find?_erase store token token'
    rw [if_neg htoken] at herase
    rw [beq_eq_false_iff_ne.2 htoken, if_neg htoken]
    exact herase

/-- A purge hides the sessions that are over. -/
theorem find?_purge (keyed : store.WellKeyed) (now : Instant)
    (token : String) : (store.purge now).find? token
      = (store.find? token).filter fun s => !s.isExpired now :=
  lookup_filter_snd keyed (fun s => !s.isExpired now) token

/-- Touching a session changes it, or drops it where it is over; no other
session is touched. -/
theorem find?_touch {α : Type} (use : Session → α × Session) :
    (store.touch now token use).2.find? token'
      = if token' = token then
          (store.find? token).bind fun s =>
            if s.isExpired now then none else some (use s).2
        else store.find? token' := by
  unfold touch
  -- by whether there is a session, and whether it is over
  cases hs : store.find? token with
  | none =>
      by_cases htoken : token' = token
      · simp [htoken, hs]
      · simp [htoken]
  | some s =>
      cases hexpired : s.isExpired now with
      | true => simp [hexpired, find?_erase]
      | false => simp [hexpired, find?_insert]

/-- Where touching gives something, there is a session. -/
theorem touch_ok {α : Type} {use : Session → α × Session} {a : α}
    (h : (store.touch now token use).1 = .ok a) :
    ∃ s, store.find? token = some s ∧ (use s).1 = a
      ∧ (store.touch now token use).2.find? token = some (use s).2 := by
  rw [find?_touch, if_pos rfl]
  unfold touch at h
  cases hs : store.find? token with
  | none =>
      rw [hs] at h
      cases h
  | some s =>
      rw [hs] at h
      cases hexpired : s.isExpired now with
      | true =>
          simp only [hexpired, if_true] at h
          cases h
      | false =>
          simp only [hexpired] at h
          exact ⟨s, rfl, Except.ok.inj h, by simp [hexpired]⟩

/-- Where touching gives nothing, there is no session any more. -/
theorem touch_error {α : Type} {use : Session → α × Session}
    {e : SessionError} (h : (store.touch now token use).1 = .error e) :
    (store.touch now token use).2.find? token = none := by
  rw [find?_touch, if_pos rfl]
  unfold touch at h
  cases hs : store.find? token with
  | none => rfl
  | some s =>
      rw [hs] at h
      cases hexpired : s.isExpired now with
      | true => simp [hexpired]
      | false =>
          simp only [hexpired] at h
          cases h

/-- Touching a session answers by that session. -/
theorem touch_congr {α : Type} {store' : SessionStore}
    (same : store.find? token = store'.find? token)
    (use : Session → α × Session) :
    (store.touch now token use).1 = (store'.touch now token use).1 := by
  unfold touch
  rw [same]
  cases store'.find? token with
  | none => rfl
  | some s => cases hexpired : s.isExpired now <;> simp [hexpired]

/-- What touching does to a session depends on that session only. -/
theorem find?_touch_congr {α : Type} {store' : SessionStore}
    (same : store.find? token = store'.find? token)
    (use : Session → α × Session) :
    (store.touch now token' use).2.find? token
      = (store'.touch now token' use).2.find? token := by
  rw [find?_touch, find?_touch]
  split
  case isTrue htoken => rw [← htoken, same]
  case isFalse => exact same

-- ================================================================ keys

/-- A new store has no session. -/
theorem wellKeyed_ofLifetime (setting : UInt64) :
    (ofLifetime setting).WellKeyed := List.nodup_nil

/-- Erasing takes keys out. -/
theorem wellKeyed_erase (keyed : store.WellKeyed) (token : String) :
    (store.erase token).WellKeyed :=
  keyed.sublist (List.filter_sublist.map _)

/-- Purging takes keys out. -/
theorem wellKeyed_purge (keyed : store.WellKeyed) (now : Instant) :
    (store.purge now).WellKeyed :=
  keyed.sublist (List.filter_sublist.map _)

/-- A session that is put in takes the place of one with its token. -/
theorem wellKeyed_insert (keyed : store.WellKeyed) (token : String)
    (s : Session) : (store.insert token s).WellKeyed := by
  refine List.nodup_cons.2 ⟨?_, wellKeyed_erase keyed token⟩
  rw [List.mem_map]
  rintro ⟨entry, hentry, rfl⟩
  simpa using (List.mem_filter.1 hentry).2

/-- Touching a session puts it back, drops it, or does nothing. -/
theorem wellKeyed_touch {α : Type} (keyed : store.WellKeyed)
    (use : Session → α × Session) :
    (store.touch now token use).2.WellKeyed := by
  unfold touch
  split
  · exact keyed
  · split
    · exact wellKeyed_erase keyed token
    · exact wellKeyed_insert keyed token _

/-- No operation gives a token a second session. -/
theorem wellKeyed_run {α : Type} (keyed : store.WellKeyed)
    (op : SessionOp α) (now : Instant) (fresh : String)
    (issuedAt : Instant) :
    (op.run now fresh store issuedAt).2.WellKeyed := by
  cases op with
  | create c =>
      show (store.create now fresh c issuedAt).2.WellKeyed
      unfold create
      split
      · exact keyed
      · exact wellKeyed_insert (wellKeyed_purge keyed now) fresh _
  | credentials | edit | view => exact wellKeyed_touch keyed _
  | remove token => exact wellKeyed_erase keyed token
  | purge => exact wellKeyed_purge keyed now
  | size => exact keyed

-- ============================================================ lifetimes

/-- Touching a session does not change for how long new ones are valid. -/
theorem lifetime_touch {α : Type} (store : SessionStore) (now : Instant)
    (token : String) (use : Session → α × Session) :
    (store.touch now token use).2.lifetime = store.lifetime := by
  unfold touch
  split
  · rfl
  · split <;> rfl

/-- No operation changes for how long new sessions are valid. -/
theorem lifetime_run {α : Type} (op : SessionOp α) (now : Instant)
    (fresh : String) (store : SessionStore) (issuedAt : Instant) :
    (op.run now fresh store issuedAt).2.lifetime = store.lifetime := by
  cases op with
  | create c =>
      show (store.create now fresh c issuedAt).2.lifetime = _
      unfold create
      split <;> rfl
  | credentials | edit | view => exact lifetime_touch _ _ _ _
  | remove | purge | size => rfl

end FluxComposer.SessionStore
