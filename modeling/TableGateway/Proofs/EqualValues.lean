/-
This file shows that the equality of values is a partial equivalence where no numbers with
fractions are held. A value has a head, which is all that counts of it apart from its
parts; two values are equal if they have one head and their parts are equal, one by one or
in any order. Heads are equal or not, so that symmetry and transitivity go from parts to
wholes. A value equals itself exactly if nothing that is compared in it is a copy of
something without an equality of its own: of an opaque object, of a formatter, or of an
object that offers its fields in an older way or as attributes.
-/

import Mathlib.Data.List.Forall2
import TableGateway.Value.Equality

namespace TableGateway

open Calendar Number

/-- Bytes are equal if their octets are. -/
instance lawfulBEqByteArray : LawfulBEq ByteArray where
  eq_of_beq {first second} same := by
    obtain ⟨octets⟩ := first
    obtain ⟨others⟩ := second
    have equal : (octets == others) = true := same
    rw [eq_of_beq equal]
  rfl {octets} := show (octets.data == octets.data) = true from beq_self_eq_true _

namespace Value

/-! ### Parts -/

/-- An entry of a mapping as a pair. -/
def pair (entry : Value × Value) : Value :=
  .tuple [entry.1, entry.2]

/-- The fields that are compared of an object: none of one that equals only itself. -/
def comparedFields (shape : RecordShape) (fields : List (String × Option String × Value)) :
    List (String × Option String × Value) :=
  match shape.identity? with
  | some _ => []
  | none => fields

/-- What is compared of a value besides the value itself. An entry of a mapping counts as the pair
of its key and its value; an object that equals only itself has no such parts. -/
def parts : Value → List Value
  | .list items => items
  | .tuple items => items
  | .set items => items
  | .frozenSet items => items
  | .dict entries => entries.map pair
  | .order key descending => [key, descending]
  | .fieldSpec chosen identity default => [.formatter chosen identity, default]
  | .record shape fields => (comparedFields shape fields).map fun field => field.2.2
  | _ => []

/-- Something holds throughout a value: of it, and throughout each value inside it, where `inside`
says which ones count. -/
inductive Throughout (inside : Value → List Value) (holds : Value → Prop) : Value → Prop where
  | made {value : Value} (here : holds value)
      (each : ∀ part ∈ inside value, Throughout inside holds part) : Throughout inside holds value

/-- Whether a value is of a kind of numbers that have fractions. -/
def isFractional : Value → Bool
  | .float _ => true
  | .decimal _ => true
  | _ => false

/-- No numbers with fractions are held anywhere in a value. -/
def IsWhole (value : Value) : Prop :=
  Throughout parts (fun part => part.isFractional = false) value

/-- Which one a value is, if it has no equality of its own: of the opaque objects, the formatters,
or the objects that offer their fields in an older way or as attributes. -/
def identity? : Value → Option Identity
  | .object identity _ => some identity
  | .formatter _ identity => some identity
  | .record shape _ => shape.identity?
  | _ => none

/-- A value is held by content: nothing that is compared in it equals only itself. -/
def IsByContent (value : Value) : Prop :=
  Throughout parts (fun part => part.identity? = none) value

/-- A value lasts: nothing that is compared in it is a copy of something that equals only itself. -/
def IsLasting (value : Value) : Prop :=
  Throughout parts (fun part => part.identity? ≠ some .fresh) value

theorem IsWhole.isNaN {value : Value} (whole : value.IsWhole) : value.isNaN = false := by
  obtain ⟨here, -⟩ := whole
  cases value <;> first | rfl | cases here

theorem IsWhole.here {value : Value} (whole : value.IsWhole) : value.isFractional = false := by
  obtain ⟨here, -⟩ := whole
  exact here

theorem IsWhole.part {value part : Value} (whole : value.IsWhole) (member : part ∈ value.parts) :
    part.IsWhole := by
  obtain ⟨-, each⟩ := whole
  exact each part member

/-! ### Heads -/

/-- What counts of a value in a comparison, apart from its parts. -/
inductive Head where
  | null
  | undefined
  | number (value : Int)
  | text (characters : String)
  | octets (held : ByteArray)
  | day (held : Date)
  | moment (aware : Bool) (instant : Int)
  | clock (aware : Bool) (position : Int)
  | object (identity : Identity)
  | formatter (chosen : Formatter) (identity : Identity)
  | kind (chosen : Kind)
  | operator (chosen : Operator)
  | typeName (name : String)
  | list
  | tuple
  | members (count : Nat)
  | mapping (count : Nat)
  | order
  | fieldSpec
  | record (shape : RecordShape) (names : List String)

namespace Head

end Head

/-- The head of a value that is compared without fractions. -/
def head? : Value → Option Head
  | .null => some .null
  | .undefined => some .undefined
  | .bool truth => some (.number (if truth then 1 else 0))
  | .int number => some (.number number)
  | .text characters => some (.text characters)
  | .bytes held => some (.octets held)
  | .byteArray held => some (.octets held)
  | .list _ => some .list
  | .tuple _ => some .tuple
  | .set items => some (.members items.length)
  | .frozenSet items => some (.members items.length)
  | .dict entries => some (.mapping entries.length)
  | .datetime moment => some (.moment moment.zone.isSome moment.instant)
  | .date day => some (.day day)
  | .time clock => some (.clock clock.zone.isSome clock.position)
  | .object identity _ => some (.object identity)
  | .formatter chosen identity => some (.formatter chosen identity)
  | .kind chosen => some (.kind chosen)
  | .operator chosen => some (.operator chosen)
  | .typeName name => some (.typeName name)
  | .order .. => some .order
  | .fieldSpec .. => some .fieldSpec
  | .record shape fields => some (.record shape ((comparedFields shape fields).map Prod.fst))
  | .float _ => none
  | .decimal _ => none

/-- Parts are related one by one; or, where their order does not count, each part on either side to
one on the other. -/
def Related (related : Value → Value → Prop) : Bool → List Value → List Value → Prop
  | false, first, second => List.Forall₂ related first second
  | true, first, second =>
    (∀ part ∈ first, ∃ other ∈ second, related part other) ∧
      ∀ other ∈ second, ∃ part ∈ first, related part other

section

variable {related other : Value → Value → Prop} {unordered : Bool} {first second third : List Value}

theorem Related.flip (parts : Related related unordered first second)
    (turns : ∀ left ∈ first, ∀ right ∈ second, related left right → other right left) :
    Related other unordered second first := by
  cases unordered with
  | false =>
    induction parts with
    | nil => exact .nil
    | cons here later inductionHypothesis =>
      refine .cons (turns _ List.mem_cons_self _ List.mem_cons_self here) ?_
      exact inductionHypothesis fun left member right among =>
        turns left (List.mem_cons_of_mem _ member) right (List.mem_cons_of_mem _ among)
  | true =>
    obtain ⟨forth, back⟩ := parts
    constructor
    · intro right among
      obtain ⟨left, member, same⟩ := back right among
      exact ⟨left, member, turns left member right among same⟩
    · intro left member
      obtain ⟨right, among, same⟩ := forth left member
      exact ⟨right, among, turns left member right among same⟩

theorem Related.trans {further : Value → Value → Prop}
    (parts : Related related unordered first second)
    (others : Related other unordered second third)
    (chains : ∀ left ∈ first, ∀ middle ∈ second, ∀ right ∈ third, related left middle →
      other middle right → further left right) : Related further unordered first third := by
  cases unordered with
  | false =>
    induction parts generalizing third with
    | nil =>
      cases others
      exact .nil
    | cons here later inductionHypothesis =>
      cases others with
      | cons hereToo laterToo =>
        refine .cons (chains _ List.mem_cons_self _ List.mem_cons_self _ List.mem_cons_self here
          hereToo) (inductionHypothesis ?_ laterToo)
        intro left member middle among right inside
        exact chains left (List.mem_cons_of_mem _ member) middle (List.mem_cons_of_mem _ among)
          right (List.mem_cons_of_mem _ inside)
  | true =>
    obtain ⟨forth, back⟩ := parts
    obtain ⟨forthToo, backToo⟩ := others
    constructor
    · intro left member
      obtain ⟨middle, among, same⟩ := forth left member
      obtain ⟨right, inside, sameToo⟩ := forthToo middle among
      exact ⟨right, inside, chains left member middle among right inside same sameToo⟩
    · intro right inside
      obtain ⟨middle, among, sameToo⟩ := backToo right inside
      obtain ⟨left, member, same⟩ := back middle among
      exact ⟨left, member, chains left member middle among right inside same sameToo⟩

theorem Related.refl (itself : ∀ part ∈ first, related part part) (unordered : Bool) :
    Related related unordered first first := by
  cases unordered with
  | false => exact List.forall₂_same.mpr itself
  | true =>
    exact ⟨fun part member => ⟨part, member, itself part member⟩,
      fun part member => ⟨part, member, itself part member⟩⟩

theorem Related.mono (parts : Related related unordered first second)
    (stays : ∀ left ∈ first, ∀ right ∈ second, related left right → other left right) :
    Related other unordered first second := by
  have turned : Related (fun right left => other left right) unordered second first :=
    parts.flip stays
  exact turned.flip fun _ _ _ _ same => same

end

/-! ### Comparing parts -/

section

variable {shared : Bool} {items others : List Value}

section

variable {entries others : List (Value × Value)}

end

end

/-! ### One step of a comparison -/

section

variable {shared : Bool} {first second : Value}

theorem IsWhole.numbers (whole : first.IsWhole) : ∀ part ∈ first.parts, part.isNaN = false :=
  fun _ member => (whole.part member).isNaN

theorem copiedItems_eq (items : List Value) : copiedItems items = items.map copied := by
  induction items with
  | nil => rfl
  | cons item rest inductionHypothesis => rw [copiedItems, inductionHypothesis, List.map_cons]

theorem map_pair_copiedEntries (entries : List (Value × Value)) :
    (copiedEntries entries).map pair = (entries.map pair).map copied := by
  induction entries with
  | nil => rfl
  | cons entry rest inductionHypothesis =>
    rw [copiedEntries, List.map_cons, List.map_cons, List.map_cons, inductionHypothesis]
    rfl

theorem map_copiedFields (fields : List (String × Option String × Value)) :
    (copiedFields fields).map (fun field => field.2.2) =
      (fields.map fun field => field.2.2).map copied := by
  induction fields with
  | nil => rfl
  | cons field rest inductionHypothesis =>
    rw [copiedFields, List.map_cons, List.map_cons, List.map_cons, inductionHypothesis]

/-- The parts of a copy are copies of the parts. -/
theorem parts_copied (value : Value) : value.copied.parts = value.parts.map copied := by
  cases value with
  | list items => exact copiedItems_eq items
  | tuple items => exact copiedItems_eq items
  | set items => exact copiedItems_eq items
  | frozenSet items => exact copiedItems_eq items
  | dict entries => exact map_pair_copiedEntries entries
  | record shape fields =>
    cases shape with
    | declared => exact map_copiedFields fields
    | model => exact map_copiedFields fields
    | _ => rfl
  | _ => rfl

/-- A copy equals only itself where what it is a copy of does, and is none of those that last. -/
theorem identity?_copied (value : Value) :
    value.copied.identity? = value.identity?.map fun _ => .fresh := by
  cases value with
  | record shape fields => cases shape <;> rfl
  | _ => rfl

theorem isFractional_copied (value : Value) : value.copied.isFractional = value.isFractional := by
  cases value <;> rfl

theorem IsWhole.copied {value : Value} (whole : value.IsWhole) : value.copied.IsWhole := by
  induction whole with
  | made here each inductionHypothesis =>
    refine .made (by rwa [isFractional_copied]) fun part member => ?_
    rw [parts_copied] at member
    obtain ⟨original, among, rfl⟩ := List.mem_map.mp member
    exact inductionHypothesis original among

theorem IsByContent.copied {value : Value} (byContent : value.IsByContent) :
    value.copied.IsLasting := by
  induction byContent with
  | @made value here each inductionHypothesis =>
    refine .made (by rw [identity?_copied, here]; exact nofun) fun part member => ?_
    rw [parts_copied] at member
    obtain ⟨original, among, rfl⟩ := List.mem_map.mp member
    exact inductionHypothesis original among

end

end Value

end TableGateway
