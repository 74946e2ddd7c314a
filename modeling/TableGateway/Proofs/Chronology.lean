/-
This file shows that a database file, which compares texts, orders timestamps in time. A
text is compared part by part: padded numbers compare like the numbers, and where one text
has a fraction and the other one does not, the dot stands above whatever follows in the
other. A point in time is compared part by part as well, since the days of a month, and the
microseconds of a day, never reach into the next one.
-/

import Mathlib
import TableGateway.Operator
import TableGateway.Proofs.Timestamps

namespace TableGateway

open Calendar Number

/-- What an operator asks of a stored thing and its argument, where it only compares the two. -/
def Operator.relation? {Thing : Type} [Ord Thing] : Operator → Option (Thing → Thing → Bool)
  | .eq => some fun stored argument => (compare stored argument).isEq
  | .ne => some fun stored argument => (compare stored argument).isNe
  | .gt => some fun stored argument => (compare stored argument).isGT
  | .ge => some fun stored argument => (compare stored argument).isGE
  | .lt => some fun stored argument => (compare stored argument).isLT
  | .le => some fun stored argument => (compare stored argument).isLE
  | _ => none

/-! ### Numbers in parts -/

namespace Number

theorem compare_natCast (first second : Nat) :
    compare (first : Int) (second : Int) = compare first second := by
  simp only [compare, compareOfLessAndEq, Int.ofNat_lt, Int.natCast_inj]

theorem compare_sub_right (first second less : Int) :
    compare (first - less) (second - less) = compare first second := by
  simp only [compare, compareOfLessAndEq, Int.sub_lt_sub_right_iff, Int.sub_left_inj]

/-- Numbers that are cut into parts compare by the parts they begin in, and in one part by how far
they reach into it. -/
theorem compare_parts {start : Int → Int} (grows : Monotone start) {part part' : Int}
    {inside inside' : Int} (inside_nonneg : 0 ≤ inside) (inside_nonneg' : 0 ≤ inside')
    (ends : start part + inside < start (part + 1))
    (ends' : start part' + inside' < start (part' + 1)) :
    compare (start part + inside) (start part' + inside') =
      (compare part part').then (compare inside inside') := by
  rcases lt_trichotomy part part' with before | same | behind
  · have next : start (part + 1) ≤ start part' := grows before
    rw [compare_lt_iff_lt.mpr before]
    exact compare_lt_iff_lt.mpr (by omega)
  · rw [same, compare_eq_iff_eq.mpr rfl]
    simp only [compare, compareOfLessAndEq, Ordering.then, Int.add_lt_add_iff_left,
      Int.add_right_inj]
  · have next : start (part' + 1) ≤ start part := grows behind
    rw [compare_gt_iff_gt.mpr behind]
    exact compare_gt_iff_gt.mpr (by omega)

/-- Numbers of some unit and a remainder compare by the units first. -/
theorem compare_units {unit : Int} (some : 0 < unit) {whole whole' rest rest' : Int}
    (rest_nonneg : 0 ≤ rest) (rest_lt : rest < unit) (rest_nonneg' : 0 ≤ rest')
    (rest_lt' : rest' < unit) :
    compare (whole * unit + rest) (whole' * unit + rest') =
      (compare whole whole').then (compare rest rest') := by
  have grows : Monotone fun count : Int => count * unit :=
    fun first second below => Int.mul_le_mul_of_nonneg_right below (by omega)
  refine compare_parts grows rest_nonneg rest_nonneg' ?_ ?_ <;>
    · simp only [Int.add_mul]
      omega

end Number

/-! ### Texts in parts -/

theorem compareOfLessAndEq_eq_compare (first second : List Char) :
    compareOfLessAndEq first second = compare first second := by
  induction first generalizing second with
  | nil => cases second <;> rfl
  | cons character rest inductionHypothesis =>
    cases second with
    | nil => rfl
    | cons character' rest' =>
      rw [List.compare_cons_cons, ← inductionHypothesis]
      show _ = (compareOfLessAndEq character character').then _
      by_cases before : character < character'
      · simp [compareOfLessAndEq, before, List.cons_lt_cons_iff]
      · by_cases same : character = character'
        · simp [compareOfLessAndEq, same]
        · simp [compareOfLessAndEq, before, same, List.cons_lt_cons_iff]

/-- Texts are compared by the code points of their characters, from the first one on. -/
theorem compare_ofList (first second : List Char) :
    compare (String.ofList first) (String.ofList second) = compare first second := by
  have before : String.ofList first < String.ofList second ↔ first < second := by
    show (String.ofList first).toList < (String.ofList second).toList ↔ _
    rw [String.toList_ofList, String.toList_ofList]
  rw [← compareOfLessAndEq_eq_compare]
  show compareOfLessAndEq _ _ = _
  simp only [compareOfLessAndEq, before, String.ofList_inj]

/-- What stands behind parts of the same length counts only where these are the same. -/
theorem compare_append {first second : List Char} (long : first.length = second.length)
    (rest rest' : List Char) :
    compare (first ++ rest) (second ++ rest') =
      (compare first second).then (compare rest rest') := by
  induction first generalizing second with
  | nil =>
    rw [List.length_eq_zero_iff.mp long.symm]
    rfl
  | cons character others inductionHypothesis =>
    cases second with
    | nil => cases long
    | cons character' others' =>
      rw [List.cons_append, List.cons_append, List.compare_cons_cons, List.compare_cons_cons,
        inductionHypothesis (Nat.succ.inj long), Ordering.then_assoc]

/-- A character that both texts begin with does not count. -/
theorem compare_cons_self (first : Char) (rest rest' : List Char) :
    compare (first :: rest) (first :: rest') = compare rest rest' := by
  have same : compare first first = .eq := Std.ReflCmp.compare_self
  rw [List.compare_cons_cons, same]
  rfl

namespace Number

theorem compare_digitChar : ∀ first < 10, ∀ second < 10,
    compare (digitChar first) (digitChar second) = compare first second := by
  decide

/-- Numbers that are padded to one width compare as texts like the numbers. -/
theorem compare_padded {width : Nat} (some : 0 < width) {first second : Nat}
    (fits : first < 10 ^ width) (fits' : second < 10 ^ width) :
    compare (padded width first) (padded width second) = compare first second := by
  have digit (number : Nat) : number % 10 < 10 := Nat.mod_lt number (by decide)
  induction width, some using Nat.le_induction generalizing first second with
  | base =>
    have single {number : Nat} (small : number < 10) : padded 1 number = [digitChar number] := by
      have one : digits number = [digitChar number] := by rw [digits, if_pos small]
      rw [padded, one]
      rfl
    rw [single fits, single fits', List.compare_cons_cons, compare_digitChar _ fits _ fits']
    exact Ordering.then_eq
  | succ width some inductionHypothesis =>
    have front : first / 10 < 10 ^ width := by omega
    have front' : second / 10 < 10 ^ width := by omega
    have units (number : Nat) :
        (number : Int) = (number / 10 : Nat) * 10 + (number % 10 : Nat) := by omega
    rw [padded_succ some, padded_succ some,
      compare_append ((length_padded some front).trans (length_padded some front').symm),
      inductionHypothesis front front', List.compare_cons_cons,
      compare_digitChar _ (digit first) _ (digit second), ← compare_natCast first second,
      units first, units second,
      compare_units (by decide) (by omega) (by omega) (by omega) (by omega), compare_natCast,
      compare_natCast]
    exact congrArg _ Ordering.then_eq

theorem compare_padded_append {width : Nat} (some : 0 < width) {first second : Nat}
    (fits : first < 10 ^ width) (fits' : second < 10 ^ width) (rest rest' : List Char) :
    compare (padded width first ++ rest) (padded width second ++ rest') =
      (compare first second).then (compare rest rest') := by
  rw [compare_append ((length_padded some fits).trans (length_padded some fits').symm),
    compare_padded some fits fits']

end Number

namespace Calendar

/-! ### Dates -/

/-- Days before a month, which is counted from the March of the year 0. -/
def monthStart (month : Int) : Int :=
  let year := month / 12
  year * 365 + year / 4 - year / 100 + year / 400 + (153 * (month % 12) + 2) / 5

theorem monthStart_mono : Monotone monthStart := by
  refine monotone_int_of_le_succ fun month => ?_
  by_cases last : month % 12 = 11
  · have year : (month + 1) / 12 = month / 12 + 1 := by omega
    have first : (month + 1) % 12 = 0 := by omega
    simp only [monthStart, year, first, last]
    omega
  · have year : (month + 1) / 12 = month / 12 := by omega
    have next : (month + 1) % 12 = month % 12 + 1 := by omega
    simp only [monthStart, year, next]
    omega

/-- The days of the other months than February, as the ends of the months tell them. -/
theorem daysInMonth_of_ne_two (year : Nat) {month : Nat} (first : 1 ≤ month) (last : month ≤ 12)
    (other : month ≠ 2) :
    (daysInMonth year month : Int) =
      (153 * ((month + 9) % 12 + 1) + 2) / 5 - (153 * ((month + 9) % 12) + 2) / 5 := by
  interval_cases month
  case «2» => exact absurd rfl other
  all_goals rfl

namespace Date

/-- The number of a date's month, counted from the March of the year 0. -/
def monthNumber (date : Date) : Int :=
  12 * date.year + date.month - 3

variable {date date' : Date}

theorem dayNumber_eq (valid : date.isValid = true) :
    date.dayNumber = monthStart date.monthNumber + (date.day - 1) - 719468 := by
  obtain ⟨-, ⟨first, last⟩, -⟩ := bounds_of_isValid valid
  have era (year : Int) : year.fdiv 400 = year / 400 := Int.fdiv_eq_ediv_of_nonneg _ (by decide)
  by_cases early : date.month ≤ 2
  · have year : date.monthNumber / 12 = date.year - 1 := by
      rw [monthNumber]
      omega
    have month : date.monthNumber % 12 = date.month + 9 := by
      rw [monthNumber]
      omega
    simp only [dayNumber, early, if_true, era, monthStart, year, month]
    omega
  · have year : date.monthNumber / 12 = date.year := by
      rw [monthNumber]
      omega
    have month : date.monthNumber % 12 = date.month - 3 := by
      rw [monthNumber]
      omega
    simp only [dayNumber, early, if_false, era, monthStart, year, month]
    omega

/-- The days of a month end before the next one starts. -/
theorem day_lt_monthStart (valid : date.isValid = true) :
    monthStart date.monthNumber + (date.day - 1) < monthStart (date.monthNumber + 1) := by
  obtain ⟨-, ⟨first, last⟩, -, day⟩ := bounds_of_isValid valid
  by_cases february : date.month = 2
  · -- Only here a year ends, and its length depends on the leap day.
    have number : date.monthNumber = 12 * date.year - 1 := by
      rw [monthNumber, february]
      omega
    have year : (12 * (date.year : Int) - 1) / 12 = date.year - 1 := by omega
    have next : (12 * (date.year : Int) - 1 + 1) / 12 = date.year := by omega
    have month : (12 * (date.year : Int) - 1) % 12 = 11 := by omega
    have march : (12 * (date.year : Int) - 1 + 1) % 12 = 0 := by omega
    have leap : isLeapYear date.year = true → date.year % 4 = 0 ∧
        (date.year % 100 ≠ 0 ∨ date.year % 400 = 0) := by
      simp only [isLeapYear, Bool.or_eq_true, Bool.and_eq_true, beq_iff_eq, bne_iff_ne]
      omega
    rw [daysInMonth, if_pos (by rw [february]; rfl)] at day
    simp only [monthStart, number, year, next, month, march]
    split at day
    · have leapDay := leap ‹_›
      omega
    · omega
  · have year : (date.monthNumber + 1) / 12 = date.monthNumber / 12 := by
      rw [monthNumber]
      omega
    have month : (date.monthNumber + 1) % 12 = date.monthNumber % 12 + 1 := by
      rw [monthNumber]
      omega
    have number : date.monthNumber % 12 = (date.month + 9) % 12 := by
      rw [monthNumber]
      omega
    have days := daysInMonth_of_ne_two date.year first last february
    simp only [monthStart, year, month, number]
    omega

theorem compare_monthNumber (someMonth : 1 ≤ date.month ∧ date.month ≤ 12)
    (someMonth' : 1 ≤ date'.month ∧ date'.month ≤ 12) :
    compare date.monthNumber date'.monthNumber =
      (compare date.year date'.year).then (compare date.month date'.month) := by
  have number (date : Date) : date.monthNumber = date.year * 12 + (date.month - 1 : Int) - 2 := by
    rw [monthNumber]
    omega
  rw [number, number, compare_sub_right,
    compare_units (by decide) (by omega) (by omega) (by omega) (by omega), compare_sub_right,
    compare_natCast, compare_natCast]

/-- The days of the calendar are in the order of their years, months and days. -/
theorem compare_dayNumber (valid : date.isValid = true) (valid' : date'.isValid = true) :
    compare date.dayNumber date'.dayNumber = (compare date.year date'.year).then
      ((compare date.month date'.month).then (compare date.day date'.day)) := by
  obtain ⟨-, someMonth, someDay, -⟩ := bounds_of_isValid valid
  obtain ⟨-, someMonth', someDay', -⟩ := bounds_of_isValid valid'
  rw [dayNumber_eq valid, dayNumber_eq valid', compare_sub_right,
    compare_parts monthStart_mono (by omega) (by omega) (day_lt_monthStart valid)
      (day_lt_monthStart valid'),
    compare_monthNumber someMonth someMonth', compare_sub_right, compare_natCast,
    Ordering.then_assoc]

/-- Of texts that begin with dates, the one with the earlier date comes first. -/
theorem compare_isoChars_append (valid : date.isValid = true) (valid' : date'.isValid = true)
    (rest rest' : List Char) :
    compare (date.isoChars ++ rest) (date'.isoChars ++ rest') =
      (compare date.dayNumber date'.dayNumber).then (compare rest rest') := by
  obtain ⟨year, ⟨-, month⟩, -, day⟩ := bounds_of_isValid valid
  obtain ⟨year', ⟨-, month'⟩, -, day'⟩ := bounds_of_isValid valid'
  have day := Nat.le_trans day (daysInMonth_le _ _)
  have day' := Nat.le_trans day' (daysInMonth_le _ _)
  rw [isoChars_append, isoChars_append,
    compare_padded_append (by decide) (by omega) (by omega), compare_cons_self,
    compare_padded_append (by decide) (by omega) (by omega), compare_cons_self,
    compare_padded_append (by decide) (by omega) (by omega), compare_dayNumber valid valid',
    Ordering.then_assoc, Ordering.then_assoc]

end Date

/-! ### Times of day -/

/-- A fraction stands above none, since what follows the seconds otherwise stands below a dot. -/
theorem compare_fraction {microsecond microsecond' : Nat} (fits : microsecond < 1000000)
    (fits' : microsecond' < 1000000) {rest : List Char}
    (low : ∀ first ∈ rest.head?, compare first '.' = .lt) :
    compare ((if microsecond = 0 then [] else '.' :: padded 6 microsecond) ++ rest)
        ((if microsecond' = 0 then [] else '.' :: padded 6 microsecond') ++ rest) =
      compare microsecond microsecond' := by
  have above (more : List Char) : compare rest ('.' :: more) = .lt := by
    cases rest with
    | nil => rfl
    | cons first others =>
      rw [List.compare_cons_cons, low first rfl]
      rfl
  have same : compare rest rest = .eq := Std.ReflCmp.compare_self
  by_cases whole : microsecond = 0 <;> by_cases whole' : microsecond' = 0
  · rw [if_pos whole, if_pos whole', whole, whole']
    exact same
  · rw [if_pos whole, if_neg whole', whole]
    exact (above _).trans (compare_lt_iff_lt.mpr (Nat.pos_of_ne_zero whole')).symm
  · rw [if_neg whole, if_pos whole', whole']
    exact (Std.OrientedCmp.gt_of_lt (above _)).trans
      (compare_gt_iff_gt.mpr (Nat.pos_of_ne_zero whole)).symm
  · rw [if_neg whole, if_neg whole', List.cons_append, List.cons_append, compare_cons_self,
      compare_padded_append (by decide) fits fits', same]
    exact Ordering.then_eq

namespace TimeOfDay

variable {time time' : TimeOfDay}

theorem compare_microseconds (valid : time.isValid = true) (valid' : time'.isValid = true) :
    compare time.microseconds time'.microseconds = (compare time.hour time'.hour).then
      ((compare time.minute time'.minute).then ((compare time.second time'.second).then
        (compare time.microsecond time'.microsecond))) := by
  obtain ⟨-, minute, second, microsecond⟩ := time.bounds_of_isValid valid
  obtain ⟨-, minute', second', microsecond'⟩ := time'.bounds_of_isValid valid'
  have number (time : TimeOfDay) : (time.microseconds : Int) =
      ((time.hour * 60 + time.minute : Int) * 60 + time.second) * 1000000 + time.microsecond := rfl
  rw [← compare_natCast, number, number,
    compare_units (by decide) (by omega) (by omega) (by omega) (by omega),
    compare_units (by decide) (by omega) (by omega) (by omega) (by omega),
    compare_units (by decide) (by omega) (by omega) (by omega) (by omega)]
  simp only [compare_natCast, Ordering.then_assoc]

/-- Of times of day with the same text behind, the one with the earlier time comes first. -/
theorem compare_isoChars_append (valid : time.isValid = true) (valid' : time'.isValid = true)
    {rest : List Char} (low : ∀ first ∈ rest.head?, compare first '.' = .lt) :
    compare (time.isoChars ++ rest) (time'.isoChars ++ rest) =
      compare time.microseconds time'.microseconds := by
  obtain ⟨hour, minute, second, microsecond⟩ := time.bounds_of_isValid valid
  obtain ⟨hour', minute', second', microsecond'⟩ := time'.bounds_of_isValid valid'
  rw [isoChars_append, isoChars_append,
    compare_padded_append (by decide) (by omega) (by omega), compare_cons_self,
    compare_padded_append (by decide) (by omega) (by omega), compare_cons_self,
    compare_padded_append (by decide) (by omega) (by omega),
    compare_fraction microsecond microsecond' low, compare_microseconds valid valid']

/-- A day is over before the next one starts. -/
theorem microseconds_lt (valid : time.isValid = true) : time.microseconds < 86400000000 := by
  obtain ⟨hour, minute, second, microsecond⟩ := time.bounds_of_isValid valid
  rw [microseconds]
  omega

end TimeOfDay

/-! ### Points in time -/

theorem zoneChars_congr {zone zone' : Option Zone}
    (same : zone.map Zone.offset = zone'.map Zone.offset) : zoneChars zone = zoneChars zone' := by
  cases zone with
  | none => cases zone' with
    | none => rfl
    | some zone' => cases same
  | some zone => cases zone' with
    | none => cases same
    | some zone' =>
      have offset : zone.offset = zone'.offset := Option.some.inj same
      show zone.isoChars = zone'.isoChars
      rw [Zone.isoChars, Zone.isoChars, offset]

/-- The text of a zone begins with a sign, which stands below a dot. -/
theorem compare_head_zoneChars (zone : Option Zone) :
    ∀ first ∈ (zoneChars zone).head?, compare first '.' = .lt := by
  intro first member
  cases zone with
  | none => cases member
  | some zone =>
    have sign : first = if zone.offset < 0 then '-' else '+' := by
      simpa [zoneChars, Zone.isoChars] using member.symm
    rw [sign]
    split <;> decide

namespace DateTime

variable {moment moment' : DateTime}

theorem compare_localMicroseconds (valid : moment.IsValid) (valid' : moment'.IsValid) :
    compare moment.localMicroseconds moment'.localMicroseconds =
      (compare moment.date.dayNumber moment'.date.dayNumber).then
        (compare moment.time.microseconds moment'.time.microseconds) := by
  have inside := TimeOfDay.microseconds_lt valid.time
  have inside' := TimeOfDay.microseconds_lt valid'.time
  rw [localMicroseconds, localMicroseconds,
    compare_units (by decide) (by omega) (by omega) (by omega) (by omega), compare_natCast]

/-- Texts of points in time with the same offset, or without any, are in the order of time. -/
theorem compare_isoText (valid : moment.IsValid) (valid' : moment'.IsValid)
    (aware : moment.zone.map Zone.offset = moment'.zone.map Zone.offset) :
    compare moment.isoText moment'.isoText = compare moment.instant moment'.instant := by
  have offset : offsetOf moment.zone = offsetOf moment'.zone := congrArg (Option.getD · 0) aware
  rw [isoText, isoText, compare_ofList, isoChars_eq, isoChars_eq, zoneChars_congr aware,
    Date.compare_isoChars_append valid.date valid'.date, compare_cons_self,
    TimeOfDay.compare_isoChars_append valid.time valid'.time (compare_head_zoneChars moment'.zone),
    instant, instant, offset, compare_sub_right, compare_localMicroseconds valid valid']

end DateTime

end Calendar

/-- Timestamps in a database file are in the order of time. Among points in time that have the same
offset, or none, the texts that are bound for two of them compare by code points like the points in
time themselves, and so an operator selects the texts of those that it holds for. -/
theorem datetime_order_in_file {bound : DateTime} {stored : List DateTime} (valid : bound.IsValid)
    (valid' : ∀ moment ∈ stored, moment.IsValid)
    (aware : ∀ moment ∈ stored, moment.zone.map Zone.offset = bound.zone.map Zone.offset) :
    storable (.datetime bound) = .ok (.text bound.isoText) ∧
      (∀ moment ∈ stored, storable (.datetime moment) = .ok (.text moment.isoText) ∧
        compare moment.isoText bound.isoText = compare moment.instant bound.instant) ∧
      ∀ operator : Operator,
        (operator.relation?.map fun asks =>
          (stored.map DateTime.isoText).filter fun text => asks text bound.isoText) =
        operator.relation?.map fun asks =>
          (stored.filter fun moment => asks moment.instant bound.instant).map DateTime.isoText := by
  have order : ∀ moment ∈ stored,
      compare moment.isoText bound.isoText = compare moment.instant bound.instant :=
    fun moment member =>
      DateTime.compare_isoText (valid' moment member) valid (aware moment member)
  have kept (test : _ → Bool) : ((stored.map DateTime.isoText).filter
      fun text => test (compare text bound.isoText)) =
        (stored.filter fun moment => test (compare moment.instant bound.instant)).map
          DateTime.isoText := by
    rw [List.filter_map]
    refine congrArg _ (List.filter_congr fun moment member => ?_)
    exact congrArg test (order moment member)
  refine ⟨rfl, fun moment member => ⟨rfl, order moment member⟩, fun operator => ?_⟩
  cases operator <;> first | rfl | exact congrArg some (kept _)

/-- An hour east of Greenwich the second half of a second is later than its beginning. -/
theorem datetime_order_in_file_half :
    compare (DateTime.isoText ⟨⟨2000, 1, 1⟩, ⟨0, 0, 0, 0⟩, some (.given 3600000000)⟩)
      (DateTime.isoText ⟨⟨2000, 1, 1⟩, ⟨0, 0, 0, 500000⟩, some (.given 3600000000)⟩) = .lt := by
  have near : ∀ zone ∈ some (Zone.given 3600000000), zone.IsNear := by
    intro zone member
    cases member
    show (3600000000 : Int).natAbs < 86400000000
    decide
  have valid (microsecond : Nat) (fits : microsecond < 1000000) :
      DateTime.IsValid ⟨⟨2000, 1, 1⟩, ⟨0, 0, 0, microsecond⟩, some (.given 3600000000)⟩ :=
    ⟨rfl, by simp, by simp [TimeOfDay.isValid, fits], near⟩
  obtain ⟨-, order, -⟩ := datetime_order_in_file (valid 500000 (by decide))
    (List.forall_mem_singleton.mpr (valid 0 (by decide))) (List.forall_mem_singleton.mpr rfl)
  exact (order _ List.mem_cons_self).2.trans (by decide)

end TableGateway
