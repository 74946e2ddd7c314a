/-
This file holds points in time as a calendar shows them: a date, a time of day and,
for those that are aware of it, a zone, which is a fixed offset. Two aware ones are the same
instant when they differ by their offsets; an aware one and a naive one are never
comparable.
-/

import TableGateway.Calendar.Zone

namespace TableGateway.Calendar

/-- A date and a time of day, with the zone when it is known. -/
structure DateTime where
  date : Date
  time : TimeOfDay
  zone : Option Zone
  deriving DecidableEq, Repr

namespace DateTime

/-- Microseconds from 1970-01-01 on the local clock. -/
def localMicroseconds (moment : DateTime) : Int :=
  moment.date.dayNumber * 86400000000 + moment.time.microseconds

/-- Microseconds from 1970-01-01 in UTC, a naive one taken as it stands. -/
def instant (moment : DateTime) : Int :=
  moment.localMicroseconds - offsetOf moment.zone

/-- Whether two are equally aware and name the same moment. -/
def same (first second : DateTime) : Bool :=
  first.zone.isSome == second.zone.isSome && first.instant == second.instant

/-- The start of a date, naive. -/
def ofDate (date : Date) : DateTime :=
  ⟨date, .midnight, none⟩

/-- The ISO 8601 text, with `T` between date and time. -/
def isoChars (moment : DateTime) : List Char :=
  moment.date.isoChars ++ 'T' :: moment.time.isoChars ++ zoneChars moment.zone

/-- The ISO 8601 text. -/
def isoText (moment : DateTime) : String :=
  String.ofList moment.isoChars

end DateTime

/-- A time of day on its own, with the zone when it is known. -/
structure ClockTime where
  time : TimeOfDay
  zone : Option Zone
  deriving DecidableEq, Repr

namespace ClockTime

/-- Microseconds from midnight in UTC, a naive time taken as it stands. -/
def position (clock : ClockTime) : Int :=
  clock.time.microseconds - offsetOf clock.zone

/-- Whether two are equally aware and name the same time. -/
def same (first second : ClockTime) : Bool :=
  first.zone.isSome == second.zone.isSome && first.position == second.position

/-- `HH:MM:SS` or `HH:MM:SS.ffffff`, and the zone. -/
def isoText (clock : ClockTime) : String :=
  String.ofList (clock.time.isoChars ++ zoneChars clock.zone)

end ClockTime

/-- `YYYY-MM-DD`. -/
def Date.isoText (date : Date) : String :=
  String.ofList date.isoChars

end TableGateway.Calendar
