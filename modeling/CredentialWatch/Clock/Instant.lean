/-!
# Points in time

An instant counts seconds from the start of 1970 and nanoseconds within the second; nanoseconds of
one thousand million or more mark a leap second. Instants of a store are whole milliseconds within
the calendar that the program knows, years -262143 to 262142. The calendar is the proleptic
Gregorian one.
-/
namespace CredentialWatch

structure Instant where
  seconds : Int
  nanos : Nat
  deriving DecidableEq, Repr

/-- A day of the calendar. -/
structure Day where
  year : Int
  month : Nat
  day : Nat
  deriving DecidableEq, Repr

namespace Instant

/-- The first millisecond of the calendar. -/
def firstMillis : Int := -8334601228800000

/-- The last millisecond of the calendar. -/
def lastMillis : Int := 8210266876799999

/-- The instant a number of milliseconds after the start of 1970, if the calendar has it. -/
def ofMillis? (millis : Int) : Option Instant :=
  if firstMillis ≤ millis ∧ millis ≤ lastMillis then
    some ⟨millis / 1000, (millis % 1000).toNat * 1000000⟩
  else none

/-- The instant of a Unix time, if the calendar has it. A leap second is the last of its minute. -/
def ofSeconds? (seconds : Int) (nanos : Nat) : Option Instant :=
  let inCalendar := firstMillis / 1000 ≤ seconds ∧ seconds ≤ lastMillis / 1000
  let inSecond := nanos < 1000000000 ∨ (nanos < 2000000000 ∧ seconds % 60 = 59)
  if inCalendar ∧ inSecond then some ⟨seconds, nanos⟩ else none

/-- Whole milliseconds since the start of 1970. -/
def millis (instant : Instant) : Int :=
  instant.seconds * 1000 + (instant.nanos / 1000000 : Nat)

theorem millis_of_ofMillis? {millis : Int} {instant : Instant}
    (h : ofMillis? millis = some instant) : instant.millis = millis := by
  simp only [ofMillis?] at h
  split at h
  · cases h
    simp only [Instant.millis]
    omega
  · cases h

/-- An instant of the calendar that lies on a whole millisecond; leap seconds do not. -/
def IsWholeMilli (instant : Instant) : Prop :=
  instant.nanos < 1000000000 ∧ instant.nanos % 1000000 = 0 ∧
    firstMillis ≤ instant.millis ∧ instant.millis ≤ lastMillis

instance (instant : Instant) : Decidable instant.IsWholeMilli :=
  inferInstanceAs (Decidable (_ ∧ _ ∧ _ ∧ _))

theorem ofMillis?_millis {instant : Instant} (h : instant.IsWholeMilli) :
    ofMillis? instant.millis = some instant := by
  obtain ⟨hnanos, hwhole, hrange⟩ := h
  obtain ⟨seconds, nanos⟩ := instant
  rw [ofMillis?, if_pos hrange]
  simp only [millis, Option.some.injEq, Instant.mk.injEq] at hnanos hwhole ⊢
  omega

/-- The day that begins `days` days after the first of January 1970. Years are counted from March,
so that the leap day is the last one of its year. -/
def dayOf (days : Int) : Day :=
  let shifted := days + 719468
  let era := shifted / 146097
  let dayOfEra := (shifted % 146097).toNat
  let yearOfEra := (dayOfEra - dayOfEra / 1460 + dayOfEra / 36524 - dayOfEra / 146096) / 365
  let dayOfYear := dayOfEra - (365 * yearOfEra + yearOfEra / 4 - yearOfEra / 100)
  let monthFromMarch := (5 * dayOfYear + 2) / 153
  let day := dayOfYear - (153 * monthFromMarch + 2) / 5 + 1
  let month := if monthFromMarch < 10 then monthFromMarch + 3 else monthFromMarch - 9
  let year := era * 400 + yearOfEra + (if month ≤ 2 then 1 else 0)
  ⟨year, month, day⟩

/-- A number with leading zeros up to a width. -/
def padded (width number : Nat) : String :=
  let digits := (toString number).toList
  String.ofList (List.replicate (width - digits.length) '0' ++ digits)

/-- A year: four digits, with a sign in front outside 0 to 9999. -/
def yearText (year : Int) : String :=
  if year < 0 then "-" ++ padded 4 year.natAbs
  else if year ≤ 9999 then padded 4 year.natAbs
  else "+" ++ padded 4 year.natAbs

/-- The fraction of a second in as many groups of three digits as it needs. -/
def fractionText (nanos : Nat) : String :=
  if nanos = 0 then ""
  else if nanos % 1000000 = 0 then "." ++ padded 3 (nanos / 1000000)
  else if nanos % 1000 = 0 then "." ++ padded 6 (nanos / 1000)
  else "." ++ padded 9 nanos

/-- Date and time in the form of RFC 3339 at offset zero; a leap second is the sixtieth one. -/
def text (instant : Instant) : String :=
  let day := dayOf (instant.seconds / 86400)
  let ofDay := (instant.seconds % 86400).toNat
  let second := ofDay % 60 + instant.nanos / 1000000000
  yearText day.year ++ "-" ++ padded 2 day.month ++ "-" ++ padded 2 day.day ++ "T" ++
    padded 2 (ofDay / 3600) ++ ":" ++ padded 2 (ofDay / 60 % 60) ++ ":" ++ padded 2 second ++
    fractionText (instant.nanos % 1000000000) ++ "+00:00"

end Instant

end CredentialWatch
