/-
This file compares values. Numbers of all kinds compare by their exact value, so `1`,
`1.0` and `true` are equal; lists and tuples are not equal to each other; mappings and
sets compare without regard to order. Nothing is equal to a not-a-number. Opaque objects,
formatters, and objects that offer their fields in an older way or as attributes equal
only themselves, and a copy of one equals nothing.
-/

import TableGateway.Value.Basic

namespace TableGateway

open Calendar Number

/-- The value of a number for comparison. -/
inductive Magnitude where
  | ratio (numerator : Int) (denominator : Nat)
  | infinite (negative : Bool)
  | incomparable

namespace Magnitude

/-- Equality of exact values, by cross multiplication. -/
def same : Magnitude → Magnitude → Bool
  | .ratio top bottom, .ratio top' bottom' => top * bottom' == top' * bottom
  | .infinite negative, .infinite negative' => negative == negative'
  | _, _ => false

end Magnitude

namespace Value

/-- The magnitude of a value that is a number. -/
def magnitude? : Value → Option Magnitude
  | .bool truth => some (.ratio (if truth then 1 else 0) 1)
  | .int number => some (.ratio number 1)
  | .float number =>
    match number with
    | .nan => some .incomparable
    | .infinity negative => some (.infinite negative)
    | .finite negative significand exponent =>
      let (numerator, denominator) := Binary64.magnitude significand exponent
      some (.ratio (if negative then -(numerator : Int) else numerator) denominator)
  | .decimal number =>
    match number with
    | .nan .. => some .incomparable
    | .infinity negative => some (.infinite negative)
    | number@(.finite ..) => number.ratio?.map fun (numerator, denominator) =>
      .ratio numerator denominator
  | _ => none

/-- Equality of values that hold no other values. -/
def sameLeaf (first second : Value) : Bool :=
  match first.magnitude?, second.magnitude? with
  | some magnitude, some magnitude' => magnitude.same magnitude'
  | some _, none => false
  | none, some _ => false
  | none, none =>
    match first, second with
    | .null, .null => true
    | .undefined, .undefined => true
    | .text characters, .text characters' => characters == characters'
    | .bytes octets, .bytes octets' => octets == octets'
    | .bytes octets, .byteArray octets' => octets == octets'
    | .byteArray octets, .bytes octets' => octets == octets'
    | .byteArray octets, .byteArray octets' => octets == octets'
    | .datetime moment, .datetime moment' => moment.same moment'
    | .date day, .date day' => day == day'
    | .time clock, .time clock' => clock.same clock'
    | .kind chosen, .kind chosen' => chosen == chosen'
    | .operator chosen, .operator chosen' => chosen == chosen'
    | .typeName name, .typeName name' => name == name'
    | _, _ => false

mutual
/-- Equality of values. With `shared`, the two are copies of one value: a not-a-number inside a
collection is the same one in both. -/
def same (shared : Bool) : Value → Value → Bool
  | .list items, .list items' => sameItems shared items items'
  | .tuple items, .tuple items' => sameItems shared items items'
  | .set items, .set items' =>
    items.length == items'.length && membersWithin shared items items' &&
      items'.all fun item => hasMember shared items item
  | .set items, .frozenSet items' =>
    items.length == items'.length && membersWithin shared items items' &&
      items'.all fun item => hasMember shared items item
  | .frozenSet items, .set items' =>
    items.length == items'.length && membersWithin shared items items' &&
      items'.all fun item => hasMember shared items item
  | .frozenSet items, .frozenSet items' =>
    items.length == items'.length && membersWithin shared items items' &&
      items'.all fun item => hasMember shared items item
  | .dict entries, .dict entries' =>
    entries.length == entries'.length && entriesWithin shared entries entries' &&
      entries'.all fun entry => hasEntry shared entries entry.1 entry.2
  | .order key descending, .order key' descending' =>
    same shared key key' && same shared descending descending'
  | .object identity _, .object identity' _ => identity.same identity'
  | .formatter chosen identity, .formatter chosen' identity' =>
    chosen == chosen' && identity.same identity'
  | .fieldSpec chosen identity default, .fieldSpec chosen' identity' default' =>
    chosen == chosen' && identity.same identity' && same shared default default'
  | .record shape fields, .record shape' fields' =>
    shape == shape' &&
      match shape.identity? with
      | some identity => identity.same identity
      | none => sameFields shared fields fields'
  | first, second => sameLeaf first second
termination_by structural first => first

/-- Equality of members; a not-a-number that is shared is its own equal. -/
def sameItems (shared : Bool) : List Value → List Value → Bool
  | [], [] => true
  | item :: rest, item' :: rest' =>
    (same shared item item' || (shared && item.isNaN && item'.isNaN)) &&
      sameItems shared rest rest'
  | _, _ => false
termination_by structural items => items

/-- Whether every member has an equal among others. -/
def membersWithin (shared : Bool) : List Value → List Value → Bool
  | [], _ => true
  | item :: rest, items' =>
    items'.any (fun item' => same shared item item' || (shared && item.isNaN && item'.isNaN)) &&
      membersWithin shared rest items'
termination_by structural items => items

/-- Whether one of the members equals a given one. -/
def hasMember (shared : Bool) : List Value → Value → Bool
  | [], _ => false
  | item :: rest, item' =>
    (same shared item item' || (shared && item.isNaN && item'.isNaN)) || hasMember shared rest item'
termination_by structural items => items

/-- Whether every entry has an equal one among others. -/
def entriesWithin (shared : Bool) : List (Value × Value) → List (Value × Value) → Bool
  | [], _ => true
  | (key, value) :: rest, entries' =>
    entries'.any (fun entry => same shared key entry.1 &&
      (same shared value entry.2 || (shared && value.isNaN && entry.2.isNaN))) &&
      entriesWithin shared rest entries'
termination_by structural entries => entries

/-- Whether one of the entries equals a given one. -/
def hasEntry (shared : Bool) : List (Value × Value) → Value → Value → Bool
  | [], _, _ => false
  | (key, value) :: rest, key', value' =>
    (same shared key key' &&
      (same shared value value' || (shared && value.isNaN && value'.isNaN))) ||
      hasEntry shared rest key' value'
termination_by structural entries => entries

/-- Equality of the fields of two records of one shape. -/
def sameFields (shared : Bool) :
    List (String × Option String × Value) → List (String × Option String × Value) → Bool
  | [], [] => true
  | (name, _, value) :: rest, (name', _, value') :: rest' =>
    name == name' && (same shared value value' || (shared && value.isNaN && value'.isNaN)) &&
      sameFields shared rest rest'
  | _, _ => false
termination_by structural fields => fields
end

/-- Equality of two values that came about separately. -/
def equal (first second : Value) : Bool :=
  same false first second

/-- Whether two copies of a value are equal. -/
def copiesEqual (value : Value) : Bool :=
  same true value.copied value.copied

/-- Whether a value is a signaling not-a-number. -/
def isSignaling : Value → Bool
  | .decimal (.nan _ signaling _) => signaling
  | _ => false

/-- Whether a comparison of two values that hold no others signals: they are numbers, and one is a
signaling not-a-number. -/
def leafSignals (first second : Value) : Bool :=
  (first.isSignaling || second.isSignaling) &&
    first.magnitude?.isSome && second.magnitude?.isSome

mutual
/-- Whether a comparison of two values signals before it comes to a difference. -/
def signals : Value → Value → Bool
  | .list items, .list items' => items.length == items'.length && itemsSignal items items'
  | .tuple items, .tuple items' => items.length == items'.length && itemsSignal items items'
  | .dict entries, .dict entries' =>
    entries.length == entries'.length && entriesSignal entries entries'
  | .order key descending, .order key' descending' =>
    signals key key' || (key.equal key' && signals descending descending')
  | .fieldSpec chosen identity default, .fieldSpec chosen' identity' default' =>
    chosen == chosen' && identity.same identity' && signals default default'
  | .record shape fields, .record shape' fields' =>
    shape == shape' && shape.identity?.isNone && fieldsSignal fields fields'
  | first, second => leafSignals first second
termination_by structural first => first

/-- Whether a comparison of members, one after another, signals. -/
def itemsSignal : List Value → List Value → Bool
  | item :: rest, item' :: rest' =>
    signals item item' || (item.equal item' && itemsSignal rest rest')
  | _, _ => false
termination_by structural items => items

/-- Whether a comparison of entries, one after another, signals. -/
def entriesSignal : List (Value × Value) → List (Value × Value) → Bool
  | (key, value) :: rest, entries' =>
    match entries'.find? fun entry => key.equal entry.1 with
    | some entry => signals value entry.2 || (value.equal entry.2 && entriesSignal rest entries')
    | none => false
  | [], _ => false
termination_by structural entries => entries

/-- Whether a comparison of the fields of two records of one shape signals. -/
def fieldsSignal :
    List (String × Option String × Value) → List (String × Option String × Value) → Bool
  | (_, _, value) :: rest, (_, _, value') :: rest' =>
    signals value value' || (value.equal value' && fieldsSignal rest rest')
  | _, _ => false
termination_by structural fields => fields
end

end Value

end TableGateway
