/-
This file holds time zones as fixed offsets east of UTC. A zone that comes with a point in
time may have any offset, to the microsecond; a zone that was read out of a row or a
number has whole seconds. The two differ only in how they are shown.
-/

import TableGateway.Calendar.Date

namespace TableGateway.Calendar

open Number

/-- A time zone: its offset east of UTC, in microseconds where it was given and in seconds where it
was read. -/
inductive Zone where
  | given (microseconds : Int)
  | read (seconds : Int)
  deriving DecidableEq, Repr

namespace Zone

/-- Microseconds east of UTC. -/
def offset : Zone → Int
  | .given microseconds => microseconds
  | .read seconds => seconds * 1000000

/-- `+HH:MM` or `-HH:MM`, with `:SS` when the offset has odd seconds and `.ffffff` after that when
it has a fraction of one. -/
def isoChars (zone : Zone) : List Char :=
  let size := zone.offset.natAbs
  let seconds := size / 1000000
  let fraction := size % 1000000
  (if zone.offset < 0 then '-' else '+') ::
    padded 2 (seconds / 3600) ++ ':' :: padded 2 (seconds / 60 % 60) ++
    (if seconds % 60 = 0 ∧ fraction = 0 then [] else ':' :: padded 2 (seconds % 60)) ++
    (if fraction = 0 then [] else '.' :: padded 6 fraction)

end Zone

/-- The offset of a zone if there is one, and none otherwise. -/
def offsetOf (zone : Option Zone) : Int :=
  (zone.map Zone.offset).getD 0

/-- The text of a zone if there is one, and nothing otherwise. -/
def zoneChars (zone : Option Zone) : List Char :=
  (zone.map Zone.isoChars).getD []

end TableGateway.Calendar
