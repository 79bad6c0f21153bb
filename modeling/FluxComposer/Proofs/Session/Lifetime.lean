import FluxComposer.Proofs.Session.History
/-
When the sessions of a setting end. Three ranges meet: the setting is any
number of seconds of 64 bits, a lifetime reaches as far as 64 bits of
milliseconds, and the clock ends with the year 262142. A session is meant
to end so many seconds after it begins, and after an hour where the clock
does not reach so far (`intendedEnd`).

Only a setting that is no lifetime is taken for an hour. A lifetime that
outruns the clock is kept (`OutrunsClock`), and then no session can be
opened (`create_eq_none_of_outruns`). Every other setting gives sessions
their intended end, so that is the exact condition (`opens_intendedEnd_iff`).
-/
namespace FluxComposer

/-- The first point in time that a clock shows. -/
def Instant.first : Instant := ⟨-8334601228800000⟩

/-- The last point in time of the year 3000. -/
def Instant.endOfYear3000 : Instant := ⟨32535215999999⟩

example : Instant.first.text = "-262143-01-01T00:00:00Z"
    ∧ Instant.endOfYear3000.text = "3000-12-31T23:59:59.999Z"
    ∧ Instant.last.text = "+262142-12-31T23:59:59.999Z" := by
  decide +kernel

namespace SessionStore

-- =============================================================== ends

/-- The end that a session is meant to have that is issued at a time. -/
def intendedEnd (setting : UInt64) (issuedAt : Instant) : Instant :=
  let expiresAt := issuedAt.millis + 1000 * setting.toNat
  if expiresAt ≤ Instant.last.millis then ⟨expiresAt⟩
  else ⟨issuedAt.millis + 1000 * 3600⟩

/-- A setting that is a lifetime, of sessions whose end the clock does not
show when they are issued at a time. -/
def OutrunsClock (setting : UInt64) (issuedAt : Instant) : Prop :=
  setting.toNat ≤ longestLifetime
    ∧ Instant.last.millis < issuedAt.millis + 1000 * setting.toNat

/-- Opening a session that is issued at one time, and reaches the store at
another, gives its token and its end, and the session is in the store with
the same end. -/
def Opens (store : SessionStore) (issuedAt now : Instant) (token : String)
    (credentials : Credentials) (expiresAt : Instant) : Prop :=
  (store.create now token credentials issuedAt).1
      = some ⟨token, expiresAt⟩
    ∧ (store.create now token credentials issuedAt).2.find? token
      = some { credentials, expiresAt }

variable {store : SessionStore} {token : String} {issuedAt now : Instant}

theorem after?_eq (now : Instant) (seconds : Nat) :
    now.after? seconds
      = if now.millis + 1000 * seconds ≤ Instant.last.millis then
          some ⟨now.millis + 1000 * seconds⟩
        else none := rfl

/-- Where the clock reaches to the end of a session, it is opened. -/
theorem opens_of_after? {expiresAt : Instant}
    (h : issuedAt.after? store.lifetime = some expiresAt) (token : String)
    (c : Credentials) : Opens store issuedAt now token c expiresAt := by
  unfold Opens create
  rw [h]
  exact ⟨rfl, by rw [find?_insert, if_pos rfl]⟩

/-- Where the clock does not reach to the end, no session is opened and
nothing is purged. -/
theorem create_of_after?_eq_none
    (h : issuedAt.after? store.lifetime = none) (now : Instant)
    (token : String) (c : Credentials) :
    store.create now token c issuedAt = (none, store) := by
  unfold create
  rw [h]

-- =========================================================== lifetimes

/-- Longer settings than lifetimes outrun every clock. -/
theorem last_lt_of_longestLifetime_lt {setting : UInt64}
    (reached : Instant.first ≤ issuedAt)
    (h : longestLifetime < setting.toNat) :
    Instant.last.millis < issuedAt.millis + 1000 * setting.toNat := by
  have hfirst : (-8334601228800000 : Int) ≤ issuedAt.millis := reached
  have hlong : (9223372036854775 : Nat) < setting.toNat := h
  show (8210266876799999 : Int) < _
  omega

/-- A lifetime that outruns the clock is not taken for an hour, and no
session can be opened. -/
theorem create_eq_none_of_outruns {setting : UInt64}
    (lifetime : store.lifetime = lifetimeOf setting)
    (h : OutrunsClock setting issuedAt) (now : Instant) (token : String)
    (c : Credentials) :
    store.create now token c issuedAt = (none, store) := by
  refine create_of_after?_eq_none ?_ now token c
  rw [lifetime, lifetimeOf, if_pos h.1, after?_eq,
    if_neg (Int.not_le_of_gt h.2)]

/-- Every other setting gives the intended end. -/
theorem opens_intendedEnd {setting : UInt64}
    (lifetime : store.lifetime = lifetimeOf setting)
    (reached : Instant.first ≤ issuedAt)
    (early : issuedAt ≤ Instant.endOfYear3000)
    (h : ¬ OutrunsClock setting issuedAt) (token : String)
    (c : Credentials) :
    Opens store issuedAt now token c (intendedEnd setting issuedAt) := by
  refine opens_of_after? ?_ token c
  unfold intendedEnd
  rw [lifetime, lifetimeOf]
  -- a lifetime is kept, and any longer setting is taken for an hour
  by_cases hlong : setting.toNat ≤ longestLifetime
  · have hend : issuedAt.millis + 1000 * setting.toNat
        ≤ Instant.last.millis :=
      Int.not_lt.1 fun hlt => h ⟨hlong, hlt⟩
    rw [if_pos hlong, after?_eq, if_pos hend, if_pos hend]
  · have hend := last_lt_of_longestLifetime_lt reached
      (Nat.lt_of_not_le hlong)
    have hhour : issuedAt.millis + 1000 * (3600 : Nat)
        ≤ Instant.last.millis := by
      have hearly : issuedAt.millis ≤ 32535215999999 := early
      show _ ≤ (8210266876799999 : Int)
      omega
    rw [if_neg hlong, after?_eq, if_pos hhour,
      if_neg (Int.not_le_of_gt hend)]
    rfl

/-- Whatever calls came before, a session that is issued up to the year
3000 has its intended end exactly if its lifetime does not outrun the
clock; otherwise opening it fails and leaves the store as it is. That
holds at whatever time the store is reached. -/
theorem opens_intendedEnd_iff (setting : UInt64) (turns : List Turn)
    (issuedAt now : Instant) (token : String) (c : Credentials)
    (reached : Instant.first ≤ issuedAt)
    (early : issuedAt ≤ Instant.endOfYear3000) :
    (Opens (afterAll (lifetimeOf setting) turns) issuedAt now token c
        (intendedEnd setting issuedAt) ↔ ¬ OutrunsClock setting issuedAt)
      ∧ (OutrunsClock setting issuedAt →
        (afterAll (lifetimeOf setting) turns).create now token c issuedAt
          = (none, afterAll (lifetimeOf setting) turns)) := by
  have hlifetime := lifetime_afterAll (lifetimeOf setting) turns
  have hfails : OutrunsClock setting issuedAt →
      (afterAll (lifetimeOf setting) turns).create now token c issuedAt
        = (none, afterAll (lifetimeOf setting) turns) :=
    fun h => create_eq_none_of_outruns hlifetime h now token c
  refine ⟨⟨fun hopens h => ?_, fun h => ?_⟩, hfails⟩
  · have hissued := hopens.1
    rw [hfails h] at hissued
    cases hissued
  · exact opens_intendedEnd hlifetime reached early h token c

/-- A session that ends with the clock is opened, and none that would end
a second later. -/
theorem opens_intendedEnd_last :
    (Instant.first ≤ ⟨1750000000999⟩
        ∧ (⟨1750000000999⟩ : Instant) ≤ Instant.endOfYear3000)
      ∧ Opens (ofLifetime 8208516876799) ⟨1750000000999⟩ ⟨1750000001000⟩ "a"
          ⟨"key", "acme"⟩ Instant.last
      ∧ (ofLifetime 8208516876800).create ⟨1750000001000⟩ "a"
          ⟨"key", "acme"⟩ ⟨1750000000999⟩
        = (none, ofLifetime 8208516876800) := by
  have hreached : Instant.first ≤ ⟨1750000000999⟩ := by decide
  have hearly : (⟨1750000000999⟩ : Instant) ≤ Instant.endOfYear3000 := by
    decide
  have hlast := (opens_intendedEnd_iff 8208516876799 [] ⟨1750000000999⟩
    ⟨1750000001000⟩ "a" ⟨"key", "acme"⟩ hreached hearly).1.2
    (by unfold OutrunsClock; decide)
  have hlater := (opens_intendedEnd_iff 8208516876800 [] ⟨1750000000999⟩
    ⟨1750000001000⟩ "a" ⟨"key", "acme"⟩ hreached hearly).2
    (by unfold OutrunsClock; decide)
  exact ⟨⟨hreached, hearly⟩, hlast, hlater⟩

/-- A setting of nine trillion seconds is not taken for an hour, not even
where the store is reached at once. -/
theorem not_opens_intendedEnd :
    ¬ ∀ (setting : UInt64) (now : Instant) (token : String)
        (c : Credentials), Instant.first ≤ now →
      now ≤ Instant.endOfYear3000 →
      Opens (ofLifetime setting) now now token c
        (intendedEnd setting now) := by
  intro h
  have hopens := h 9000000000000 ⟨1750000000000⟩ "a" ⟨"key", "acme"⟩
    (by decide) (by decide)
  have hnone : ((ofLifetime 9000000000000).create ⟨1750000000000⟩ "a"
      ⟨"key", "acme"⟩).1 = none := by decide
  rw [hopens.1] at hnone
  cases hnone

end SessionStore
end FluxComposer
