/-
Points in time and lifetimes. Time is counted in milliseconds from the
beginning of 1970, and a clock shows it up to the end of the year 262142.
A lifetime is at most as long as 64 bits of milliseconds reach; a longer
one is taken for an hour.
-/
namespace FluxComposer

/-- A point in time. -/
structure Instant where
  millis : Int
  deriving DecidableEq, Repr

namespace Instant

instance : LE Instant := ⟨fun a b => a.millis ≤ b.millis⟩

instance (a b : Instant) : Decidable (a ≤ b) :=
  inferInstanceAs (Decidable (a.millis ≤ b.millis))

/-- The last point in time that a clock shows. -/
def last : Instant := ⟨8210266876799999⟩

/-- The point in time so many seconds later, if a clock shows it. -/
def after? (t : Instant) (seconds : Nat) : Option Instant :=
  let later : Instant := ⟨t.millis + 1000 * seconds⟩
  if later ≤ last then some later else none

/-- The whole seconds from one point in time to another. -/
def secondsSince (t start : Instant) : Nat :=
  (t.millis - start.millis).toNat / 1000

-- ============================================================== dates

/-- The year, month and day that lie so many days after the beginning of
1970. Years are taken to begin in March, so that a leap day ends one. -/
def civilDate (days : Int) : Int × Nat × Nat :=
  let z := days + 719468
  let era := z.fdiv 146097
  let dayOfEra := (z - era * 146097).toNat
  let yearOfEra := (dayOfEra - dayOfEra / 1460 + dayOfEra / 36524
    - dayOfEra / 146096) / 365
  let dayOfYear :=
    dayOfEra - (365 * yearOfEra + yearOfEra / 4 - yearOfEra / 100)
  let monthFromMarch := (5 * dayOfYear + 2) / 153
  let day := dayOfYear - (153 * monthFromMarch + 2) / 5 + 1
  let month :=
    if monthFromMarch < 10 then monthFromMarch + 3 else monthFromMarch - 9
  let year : Int := yearOfEra + era * 400
  (if month ≤ 2 then year + 1 else year, month, day)

/-- A number with leading zeros up to a width. -/
def padded (width n : Nat) : String :=
  let digits := toString n
  String.ofList (List.replicate (width - digits.length) '0') ++ digits

/-- A year: four digits, or with a sign beyond them. -/
def yearText (year : Int) : String :=
  if 0 ≤ year ∧ year ≤ 9999 then padded 4 year.toNat
  else (if year < 0 then "-" else "+") ++ padded 4 year.natAbs

/-- The text of a point in time in universal time. Milliseconds are shown
where there are some. -/
def text (t : Instant) : String :=
  let days := t.millis.fdiv 86400000
  let rest := (t.millis - days * 86400000).toNat
  let (year, month, day) := civilDate days
  let millis := rest % 1000
  yearText year ++ "-" ++ padded 2 month ++ "-" ++ padded 2 day ++ "T"
    ++ padded 2 (rest / 3600000) ++ ":"
    ++ padded 2 (rest / 60000 % 60) ++ ":"
    ++ padded 2 (rest / 1000 % 60)
    ++ (if millis = 0 then "" else "." ++ padded 3 millis) ++ "Z"

end Instant

-- ========================================================== lifetimes

/-- The longest lifetime, in seconds. -/
def longestLifetime : Nat := (Nat.pow 2 63 - 1) / 1000

/-- The lifetime of a session in seconds, for a setting that may be too
long for one. -/
def lifetimeOf (setting : UInt64) : Nat :=
  if setting.toNat ≤ longestLifetime then setting.toNat else 3600

end FluxComposer
