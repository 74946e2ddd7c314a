/-
This file puts values into ascending order. Numbers of all kinds compare by their exact
value, texts and bytes by their first difference, dates and times by the calendar, and
tuples by their first unequal items. Values of different kinds have no order, and neither
have an aware point in time and a naive one.
-/

import TableGateway.Value.Equality

namespace TableGateway

open Calendar Number

/-- Whether one magnitude is below another. Nothing is below what is not a number, or above it. -/
def Magnitude.below : Magnitude → Magnitude → Bool
  | .ratio top bottom, .ratio top' bottom' => top * bottom' < top' * bottom
  | .ratio .., .infinite negative => !negative
  | .infinite negative, .ratio .. => negative
  | .infinite negative, .infinite negative' => negative && !negative'
  | _, _ => false

/-- Whether one run of numbers comes before another: at the first difference, or as the shorter. -/
def runsBelow : List Nat → List Nat → Bool
  | [], [] => false
  | [], _ :: _ => true
  | _ :: _, [] => false
  | first :: rest, first' :: rest' => first < first' || (first == first' && runsBelow rest rest')

/-- A comparison of two places in time that are equally aware of their zone. -/
def belowIfAlike (zone zone' : Option Zone) (place place' : Int) : Option Bool :=
  if zone.isSome == zone'.isSome then some (place < place') else none

namespace Value

/-- Whether one value comes before another, of those that hold no other values; nothing if they
have no order. -/
def leafBelow? (first second : Value) : Option Bool :=
  match first.magnitude?, second.magnitude? with
  | some magnitude, some magnitude' => some (magnitude.below magnitude')
  | _, _ =>
    match first, second with
    | .text characters, .text characters' => some (characters < characters')
    | .bytes octets, .bytes octets' =>
      some (runsBelow (octets.data.toList.map UInt8.toNat) (octets'.data.toList.map UInt8.toNat))
    | .date day, .date day' => some (day.dayNumber < day'.dayNumber)
    | .datetime moment, .datetime moment' =>
      belowIfAlike moment.zone moment'.zone moment.instant moment'.instant
    | .time clock, .time clock' =>
      belowIfAlike clock.zone clock'.zone clock.position clock'.position
    | _, _ => none

mutual
/-- Whether one value comes before another; nothing if they have no order. -/
def below? : Value → Value → Option Bool
  | .tuple items, .tuple items' => itemsBelow? items items'
  | .frozenSet items, .frozenSet items' =>
    some (items.length < items'.length && membersWithin false items items')
  | first, second => leafBelow? first second
termination_by structural first => first

/-- Whether one run of values comes before another: at the first unequal items, or as the
shorter. -/
def itemsBelow? : List Value → List Value → Option Bool
  | [], [] => some false
  | [], _ :: _ => some true
  | _ :: _, [] => some false
  | item :: rest, item' :: rest' =>
    if item.equal item' then itemsBelow? rest rest' else below? item item'
termination_by structural items => items
end

/-- Whether any two of some values have an order. -/
def areOrdered : List Value → Bool
  | [] => true
  | first :: rest =>
    rest.all (fun second => (first.below? second).isSome && (second.below? first).isSome) &&
      areOrdered rest

/-- Some values in ascending order, if any two of them have one. -/
def sorted? (values : List Value) : Option (List Value) :=
  if areOrdered values then
    some (values.mergeSort fun first second => !(second.below? first).getD false)
  else none

theorem perm_of_sorted? {values sorted : List Value} (found : sorted? values = some sorted) :
    sorted.Perm values := by
  unfold sorted? at found
  split at found
  · cases found
    exact List.mergeSort_perm values _
  · cases found

end Value

end TableGateway
