/-
This file holds points in time in zones with rules, whose offset depends on what their
clocks show. When clocks are set back they show some times twice, and when they are set
forward they skip some; the rules then give two offsets, for a time and for the same time
again. Such a zone is no part of a dynamic value. Its text shows the offset in force only,
and a time that has two offsets equals no time in another zone.
-/

import TableGateway.Calendar.DateTime

namespace TableGateway.Calendar

/-- The rules of a zone: the offset east of UTC, in microseconds, for a date and a time of day, or
for these when clocks show them again. -/
structure ZoneRules where
  offsetAt (date : Date) (time : TimeOfDay) (again : Bool) : Int

/-- A point in time in a zone with rules. -/
structure RuledDateTime where
  date : Date
  time : TimeOfDay
  rules : ZoneRules
  again : Bool

namespace RuledDateTime

/-- The same point in time with a zone that is nothing but the offset in force. -/
def shown (moment : RuledDateTime) : DateTime :=
  ⟨moment.date, moment.time,
    some (.given (moment.rules.offsetAt moment.date moment.time moment.again))⟩

/-- Whether the rules give another offset when the time is shown again: clocks show it twice, or
never. -/
def isDoubtful (moment : RuledDateTime) : Bool :=
  moment.rules.offsetAt moment.date moment.time moment.again !=
    moment.rules.offsetAt moment.date moment.time (!moment.again)

/-- The ISO 8601 text, which shows the offset in force. -/
def isoText (moment : RuledDateTime) : String :=
  moment.shown.isoText

/-- Whether a point in time and one in another zone, with a fixed offset or none, are equal. -/
def same (moment : RuledDateTime) (other : DateTime) : Bool :=
  moment.shown.same other && !moment.isDoubtful

end RuledDateTime

end TableGateway.Calendar
