import BoundaryLog.Time.Calendar

/-! # Instants

A moment of UTC to the nanosecond, counted from the beginning of 1970.  A leap second has no number
of its own: it is the second that ends a minute with a whole further second of nanoseconds.  There are
such instants after any other second as well, but they show as the second that follows it. -/
set_option autoImplicit false
namespace BoundaryLog

/-- The number of the day on which 1970 began. -/
def epochDay : Int := 719528

def nanosPerSecond : Nat := 1000000000

theorem two_nanosPerSecond_pos : 0 < 2 * nanosPerSecond := by decide

/-- The years of all instants. -/
def firstYear : Int := -262143

def lastYear : Int := 262142

structure Instant where
  seconds : Int
  nanos : Nat
  notBefore : 86400 * (daysBeforeYear firstYear - epochDay) ≤ seconds
  notAfter : seconds < 86400 * (daysBeforeYear (lastYear + 1) - epochDay)
  nanos_lt : nanos < 2 * nanosPerSecond
  deriving DecidableEq

namespace Instant

/-- The instant that many seconds and nanoseconds after the beginning of 1970, if there is one. -/
def ofUnix? (seconds : Int) (nanos : Nat) : Option Instant :=
  if h : 86400 * (daysBeforeYear firstYear - epochDay) ≤ seconds ∧
      seconds < 86400 * (daysBeforeYear (lastYear + 1) - epochDay) ∧
      nanos < 2 * nanosPerSecond then
    some ⟨seconds, nanos, h.1, h.2.1, h.2.2⟩
  else none

/-- Whether the instant lies in the further second of nanoseconds. -/
def inLeapSecond (t : Instant) : Bool := nanosPerSecond ≤ t.nanos

def date (t : Instant) : Date := .ofDayNumber (t.seconds / 86400 + epochDay)

def secondOfDay (t : Instant) : Nat := (t.seconds % 86400).toNat

def hour (t : Instant) : Nat := t.secondOfDay / 3600

def minute (t : Instant) : Nat := t.secondOfDay / 60 % 60

/-- The second of the minute that the instant shows; a leap second is the sixtieth. -/
def second (t : Instant) : Nat := t.secondOfDay % 60 + if t.inLeapSecond then 1 else 0

/-- The beginning of the second that the instant lies in. -/
def wholeSecond (t : Instant) : Instant :=
  { t with
    nanos := if t.inLeapSecond then nanosPerSecond else 0
    nanos_lt := by split <;> decide }

/-- Whether the further second, if the instant lies in it, is a leap second: one that ends a minute. -/
def IsRegular (t : Instant) : Prop := t.inLeapSecond = true → t.seconds % 60 = 59

instance (t : Instant) : Decidable t.IsRegular := inferInstanceAs (Decidable (_ → _))

/-- The beginning of the second that the instant shows.  A further second in the middle of a minute
shows as the second after it. -/
def shownSecond (t : Instant) : Instant :=
  if h : t.IsRegular then t.wholeSecond
  else {
    seconds := t.seconds + 1
    nanos := 0
    notBefore := Int.le_add_one t.notBefore
    notAfter := by
      have notAfter := t.notAfter
      have notLast : t.seconds % 60 ≠ 59 := fun last => h fun _ => last
      omega
    nanos_lt := two_nanosPerSecond_pos }

/-- The instant of a date and a time of day; second 60 is the leap second of its minute. -/
def ofDate? (d : Date) (hour minute second : Nat) : Option Instant :=
  if d.Valid then
    let ofDay : Nat := 3600 * hour + 60 * minute + min second 59
    ofUnix? (86400 * (d.dayNumber - epochDay) + ofDay) (if second = 60 then nanosPerSecond else 0)
  else none

theorem ofUnix?_self (t : Instant) : ofUnix? t.seconds t.nanos = some t :=
  dif_pos ⟨t.notBefore, t.notAfter, t.nanos_lt⟩

end Instant
end BoundaryLog
