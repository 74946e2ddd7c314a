/-
This file writes integers as decimal digits and reads runs of digits back. Written
numbers have no leading zeros and read back as themselves. It also names the powers that
scale numbers.
-/

namespace TableGateway.Number

/-- A power of two. -/
def powerOfTwo (exponent : Nat) : Nat :=
  Nat.pow 2 exponent

/-- A power of ten. -/
def powerOfTen (exponent : Nat) : Nat :=
  Nat.pow 10 exponent

/-- The decimal digit of a number below ten. -/
def digitChar (value : Nat) : Char :=
  Char.ofNat (48 + value)

/-- The value of an ASCII decimal digit. -/
def digitValue? (character : Char) : Option Nat :=
  if 48 ≤ character.toNat && character.toNat ≤ 57 then some (character.toNat - 48) else none

/-- Whether a character is an ASCII decimal digit. -/
def isDigit (character : Char) : Bool :=
  48 ≤ character.toNat && character.toNat ≤ 57

/-- The decimal digits of a natural number, most significant first. -/
def digits (value : Nat) : List Char :=
  if value < 10 then [digitChar value]
  else digits (value / 10) ++ [digitChar (value % 10)]

/-- The number that a run of digits stands for, counted on from an earlier part. -/
def valueFrom (start : Nat) (run : List Char) : Nat :=
  run.foldl (fun value character => value * 10 + (character.toNat - 48)) start

/-- The number that a run of digits stands for. -/
def valueOf (run : List Char) : Nat :=
  valueFrom 0 run

/-- How many decimal digits a number has; zero has none. -/
def digitCount (value : Nat) : Nat :=
  if value = 0 then 0 else (digits value).length

/-- The decimal text of an integer. -/
def integerText (value : Int) : String :=
  match value with
  | .ofNat magnitude => String.ofList (digits magnitude)
  | .negSucc less => String.ofList ('-' :: digits (less + 1))

/-- A number padded with zeros on the left up to a width. -/
def padded (width value : Nat) : List Char :=
  let written := digits value
  List.replicate (width - written.length) '0' ++ written

/-! ### Reading what was written -/

theorem toNat_digitChar : ∀ value < 10, (digitChar value).toNat = 48 + value := by
  decide

theorem isDigit_digitChar (value : Nat) (small : value < 10) :
    isDigit (digitChar value) = true := by
  simp only [isDigit, toNat_digitChar value small, Bool.and_eq_true, decide_eq_true_eq]
  omega

theorem valueFrom_append (start : Nat) (first second : List Char) :
    valueFrom start (first ++ second) = valueFrom (valueFrom start first) second := by
  simp [valueFrom, List.foldl_append]

theorem valueOf_digits (value : Nat) : valueOf (digits value) = value := by
  fun_induction digits value with
  | case1 value small => simp [valueOf, valueFrom, toNat_digitChar value small]
  | case2 value large inductionHypothesis =>
    have remainder : value % 10 < 10 := Nat.mod_lt _ (by decide)
    unfold valueOf at inductionHypothesis ⊢
    rw [valueFrom_append, inductionHypothesis]
    simp [valueFrom, toNat_digitChar _ remainder]
    omega

theorem isDigit_of_mem_digits (value : Nat) (character : Char) (member : character ∈ digits value) :
    isDigit character = true := by
  fun_induction digits value with
  | case1 value small =>
    rw [List.mem_singleton] at member
    rw [member]
    exact isDigit_digitChar value small
  | case2 value large inductionHypothesis =>
    rcases List.mem_append.mp member with early | last
    · exact inductionHypothesis early
    · rw [List.mem_singleton] at last
      rw [last]
      exact isDigit_digitChar _ (Nat.mod_lt _ (by decide))

theorem digits_ne_nil (value : Nat) : digits value ≠ [] := by
  fun_induction digits value with
  | case1 value small => simp
  | case2 value large inductionHypothesis => simp

end TableGateway.Number
