/-
This file reads dates, times of day and points in time back from the ISO 8601 text that
they are written in. The offset of a zone may have seconds and a fraction of one.
-/

import TableGateway.Calendar.Reading

namespace TableGateway.Calendar

/-- The zone that ends a text: a sign, and an offset written like a time of day. -/
def ofZoneChars? : List Char → Option (Option Zone)
  | [] => some none
  | ['Z'] => some (some (.given 0))
  | sign :: rest =>
    match takeTime rest with
    | some (size, []) =>
      if sign == '+' then some (some (.given size.microseconds))
      else if sign == '-' then some (some (.given (-(size.microseconds : Int))))
      else none
    | _ => none

/-- A time of day with its zone. -/
def ClockTime.ofIsoChars? (characters : List Char) : Option ClockTime := do
  let (time, rest) ← takeTime characters
  return ⟨time, ← ofZoneChars? rest⟩

/-- A point in time, or the start of a date. -/
def DateTime.ofIsoChars? (characters : List Char) : Option DateTime :=
  match takeDate characters with
  | .ok (date, []) => some (.ofDate date)
  | .ok (date, _ :: rest) => do
    let clock ← ClockTime.ofIsoChars? rest
    return ⟨date, clock.time, clock.zone⟩
  | .error _ => none

end TableGateway.Calendar
