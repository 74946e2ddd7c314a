/-
This file shows that a JSON reader takes back the integers that were written. It says what
a reader makes of a written part: the part and what stands behind it, or the report of a
limit that the part does not keep. What may stand behind a value is what ends the run of
its digits, so the reader stops where the writer did.
-/

import TableGateway.Formatter.Conversion
import TableGateway.Proofs.DigitRuns

namespace TableGateway

open Number

/-! ### Limits of the reader -/

namespace Value

mutual
/-- Whether a value keeps the limits of the reader: its brackets are nested no deeper than given,
and its integers are no longer than the longest run of digits. -/
def isReadable (depth : Nat) : Value → Bool
  | .int number => (digits number.natAbs).length ≤ longestRun
  | .list items =>
    match depth with
    | 0 => false
    | depth + 1 => areReadable depth items
  | .dict entries =>
    match depth with
    | 0 => false
    | depth + 1 => entriesReadable depth entries
  | _ => true
termination_by structural value => value

def areReadable (depth : Nat) : List Value → Bool
  | [] => true
  | item :: rest => item.isReadable depth && areReadable depth rest
termination_by structural items => items

def entriesReadable (depth : Nat) : List (Value × Value) → Bool
  | [] => true
  | (_, value) :: rest => value.isReadable depth && entriesReadable depth rest
termination_by structural entries => entries
end

end Value

namespace Json

/-! ### What a reader makes of a written part -/

/-- What reading gives that arrives at a written content: the content and what stands behind it, or
the report of a limit that the content does not keep. -/
inductive Recovers {Content : Type} (content : Content) (rest : List Char) (readable : Bool) :
    Except Stop (Content × List Char) → Prop where
  | content : Recovers content rest readable (.ok (content, rest))
  | limit {stop : Stop} (beyond : readable = false)
      (reason : stop.1 = .tooDeep ∨ stop.1 = .tooManyDigits) :
      Recovers content rest readable (.error stop)

theorem Recovers.bind {First Second : Type} {first : First} {second : Second}
    {rest after : List Char} {readable whole : Bool}
    {result : Except Stop (First × List Char)}
    {next : First × List Char → Except Stop (Second × List Char)}
    (found : Recovers first rest readable result) (part : readable = false → whole = false)
    (goes : Recovers second after whole (next (first, rest))) :
    Recovers second after whole (result >>= next) := by
  cases found with
  | content => exact goes
  | limit beyond reason => exact .limit (part beyond) reason

/-- A text that can stand behind a value. -/
def closes : List Char → Bool
  | [] => true
  | first :: _ => first == ',' || first == ']' || first == '\x7d'

/-- A text that starts like a value: with no space, no closing bracket and no mark of byte order. -/
def opens : List Char → Bool
  | [] => false
  | first :: _ =>
    !(isSpace first || first == ']' || first == '\x7d' || first == '\uFEFF')

theorem opens_append {text : List Char} (starts : opens text = true) (rest : List Char) :
    opens (text ++ rest) = true := by
  cases text with
  | nil => cases starts
  | cons first more => exact starts

theorem skipSpace_of_opens {text : List Char} (starts : opens text = true) (rest : List Char) :
    skipSpace (text ++ rest) = text ++ rest := by
  cases text with
  | nil => cases starts
  | cons first more =>
    have visible : isSpace first = false := by
      simp only [opens, Bool.not_eq_true', Bool.or_eq_false_iff] at starts
      exact starts.1.1.1
    simp [skipSpace, visible]

/-! ### Integers -/

theorem isDigit_head_of_closes {rest : List Char} (closed : closes rest = true) :
    ∀ first ∈ rest.head?, isDigit first = false := by
  intro first member
  cases rest with
  | nil => cases member
  | cons head tail =>
    cases member
    simp only [closes, Bool.or_eq_true, beq_iff_eq] at closed
    rcases closed with (same | same) | same <;> subst same <;> rfl

/-- Digits without a zero in front are taken whole, and so is a zero alone. -/
theorem takeWhole_append {first : Char} {more rest : List Char}
    (digital : ∀ character ∈ first :: more, isDigit character = true)
    (zero : first = '0' → more = []) (stops : ∀ next ∈ rest.head?, isDigit next = false) :
    takeWhole (first :: more ++ rest) = some (first :: more, rest) := by
  by_cases alone : first = '0'
  · rw [alone, zero alone]
    rfl
  · have spanned := spanDigits_append digital stops
    rw [List.cons_append] at spanned ⊢
    rw [takeWhole]
    · simp [spanned]
    · intro other same
      exact alone (List.cons.inj same).1

theorem takeWhole_digits (value : Nat) {rest : List Char} (closed : closes rest = true) :
    takeWhole (digits value ++ rest) = some (digits value, rest) := by
  have digital := isDigit_of_mem_digits value
  have zero : digits 0 = ['0'] := digits_zero
  obtain ⟨first, more, shape, -, onlyZero⟩ := exists_digits value
  rw [shape] at digital ⊢
  refine takeWhole_append digital (fun same => ?_) (isDigit_head_of_closes closed)
  rw [onlyZero same, zero] at shape
  exact (List.cons.inj shape).2.symm

/-- No fraction and no exponent stand behind a value. -/
theorem takeFraction_of_closes {rest : List Char} (closed : closes rest = true) :
    takeFraction rest = none ∧ spanExponent rest = none := by
  cases rest with
  | nil => exact ⟨rfl, rfl⟩
  | cons first more =>
    simp only [closes, Bool.or_eq_true, beq_iff_eq] at closed
    rcases closed with (same | same) | same <;> subst same <;> exact ⟨rfl, rfl⟩

/-- Signed digits are read as the number they stand for, unless they are too many. -/
theorem recovers_signed (negative : Bool) (magnitude depth : Nat) (start rest : List Char)
    {number : Int} (same : (if negative then -(magnitude : Int) else magnitude) = number) :
    Recovers (.int number) rest ((Value.int number).isReadable depth)
      (if longestRun < (digits magnitude).length then .error (.tooManyDigits, start)
      else .ok (Value.int (if negative then -(magnitude : Int) else magnitude), rest)) := by
  have size : number.natAbs = magnitude := by
    rw [← same]
    cases negative <;> simp
  have readable : (Value.int number).isReadable depth =
      decide ((digits magnitude).length ≤ longestRun) := by
    simp [Value.isReadable, size]
  rw [readable, same]
  split
  · rename_i long
    exact .limit (decide_eq_false (Nat.not_le_of_lt long)) (.inr rfl)
  · exact .content

theorem recovers_readNumber (number : Int) (depth : Nat) {rest : List Char}
    (closed : closes rest = true) :
    Recovers (.int number) rest ((Value.int number).isReadable depth)
      (readNumber ((integerText number).toList ++ rest)) := by
  obtain ⟨noFraction, noExponent⟩ := takeFraction_of_closes closed
  cases number with
  | ofNat magnitude =>
    have written : (integerText (.ofNat magnitude)).toList = digits magnitude := by
      simp [integerText]
    have noSign : ∀ other, digits magnitude ++ rest ≠ '-' :: other := by
      intro other minus
      obtain ⟨first, more, shape, digit, -⟩ := exists_digits magnitude
      rw [shape] at minus
      rw [(List.cons.inj minus).1] at digit
      cases digit
    rw [written, readNumber]
    · simp only [takeWhole_digits _ closed, noFraction, noExponent, Option.elim_none,
        valueOf_digits]
      exact recovers_signed false magnitude depth _ _ rfl
    · exact noSign
  | negSucc less =>
    have written : (integerText (.negSucc less)).toList ++ rest =
        '-' :: (digits (less + 1) ++ rest) := by
      simp [integerText]
    rw [written, readNumber]
    simp only [takeWhole_digits _ closed, noFraction, noExponent, Option.elim_none, valueOf_digits]
    exact recovers_signed true (less + 1) depth _ _ rfl

/-- A text that starts with a digit, or with a minus and a digit, is read as a number. -/
theorem readScalar_of_isDigit {sign : List Char} (isSign : sign.length < 2) {first : Char}
    (digit : isDigit first = true) (more : List Char) :
    readScalar (sign ++ first :: more) = readNumber (sign ++ first :: more) := by
  rw [readScalar]
  split
  case h_2 => rfl
  case h_1 found isWord =>
    obtain ⟨⟨word, value⟩, member, taken⟩ := List.exists_of_findSome?_eq_some isWord
    have isPrefix : word.toList <+: sign ++ first :: more := by
      simp only [dropWord?] at taken
      split at taken
      · exact List.isPrefixOf_iff_prefix.mp ‹_›
      · cases taken
    -- The first two characters of a word are letters, but for one minus.
    have noDigits : ∀ place < 2, (word.toList[place]?).any (! isDigit ·) = true := by
      simp only [List.mem_cons, Prod.mk.injEq, List.not_mem_nil, or_false] at member
      rcases member with ⟨rfl, -⟩ | ⟨rfl, -⟩ | ⟨rfl, -⟩ | ⟨rfl, -⟩ | ⟨rfl, -⟩ | ⟨rfl, -⟩ <;> decide
    obtain ⟨letter, present, noDigit⟩ := (Option.any_eq_true _ _).mp (noDigits _ isSign)
    obtain ⟨tail, whole⟩ := isPrefix
    have same : letter = first := by
      have places := congrArg (·[sign.length]?) whole
      rw [← Option.some_inj, ← present]
      simpa [List.getElem?_append_left (List.getElem?_eq_some_iff.mp present).1] using places
    rw [same, digit] at noDigit
    cases noDigit

/-- The text of an integer is a minus at most, and a digit with more behind it. -/
theorem exists_integerText (number : Int) :
    ∃ sign first more, (integerText number).toList = sign ++ first :: more ∧
      (sign = [] ∨ sign = ['-']) ∧ isDigit first = true := by
  cases number with
  | ofNat magnitude =>
    obtain ⟨first, more, shape, digit, -⟩ := exists_digits magnitude
    exact ⟨[], first, more, by simp [integerText, shape], .inl rfl, digit⟩
  | negSucc less =>
    obtain ⟨first, more, shape, digit, -⟩ := exists_digits (less + 1)
    exact ⟨['-'], first, more, by simp [integerText, shape], .inr rfl, digit⟩

end Json

end TableGateway
