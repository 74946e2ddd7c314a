/-
This file shows that points in time survive a database file. They are bound as ISO 8601
text, and a field that loads such a text reads back each part of it: digits padded to a
width are read as the number, whatever stands behind them, and so the date, the time of
day and the zone in turn. What comes back shows the same date and time at the same offset.
A reader of zones knows whole minutes only, so the offset has to be one of them. It knows
no rules of zones either: what comes back for a point in time in a zone with rules shows
the same offset, but equals it only if clocks there show the time exactly once.
-/

import TableGateway.Binding
import TableGateway.Calendar.Rules
import TableGateway.Proofs.DigitRuns
import TableGateway.Proofs.Idempotence

namespace TableGateway

open Calendar Number

namespace Calendar

/-- A run of digits is read as the number that it stands for. -/
theorem takeDigits_append {run : List Char}
    (digital : ∀ character ∈ run, isDigit character = true) (start : Nat) (rest : List Char) :
    takeDigits run.length start (run ++ rest) = some (valueFrom start run, rest) := by
  induction run generalizing start with
  | nil => rfl
  | cons first others inductionHypothesis =>
    obtain ⟨digit, digitalRest⟩ := List.forall_mem_cons.mp digital
    rw [List.length_cons, List.cons_append, takeDigits, digitValue?_of_isDigit digit]
    exact inductionHypothesis digitalRest _

theorem takeDigits_padded {width value : Nat} (some : 0 < width) (fits : value < 10 ^ width)
    (rest : List Char) : takeDigits width 0 (padded width value ++ rest) = .some (value, rest) := by
  have taken := takeDigits_append (isDigit_of_mem_padded width value) 0 rest
  rw [length_padded some fits] at taken
  rw [taken]
  exact congrArg (fun number => Option.some (number, rest)) (valueOf_padded width value)

/-! ### Dates and times of day -/

theorem daysInMonth_le (year month : Nat) : daysInMonth year month ≤ 31 := by
  unfold daysInMonth
  split
  · split <;> decide
  · split
    · decide
    · split <;> decide

/-- What a valid date keeps to. -/
theorem Date.bounds_of_isValid {date : Date} (valid : date.isValid = true) :
    date.year ≤ 9999 ∧ (1 ≤ date.month ∧ date.month ≤ 12) ∧
      1 ≤ date.day ∧ date.day ≤ daysInMonth date.year date.month := by
  simp only [isValid, Bool.and_eq_true, decide_eq_true_eq] at valid
  obtain ⟨⟨⟨month, year⟩, first⟩, last⟩ := valid
  exact ⟨year, month, first, last⟩

/-- What a valid time of day keeps to. -/
theorem TimeOfDay.bounds_of_isValid {time : TimeOfDay} (valid : time.isValid = true) :
    time.hour < 24 ∧ time.minute < 60 ∧ time.second < 60 ∧ time.microsecond < 1000000 := by
  simp only [isValid, Bool.and_eq_true, decide_eq_true_eq] at valid
  obtain ⟨⟨⟨hour, minute⟩, second⟩, microsecond⟩ := valid
  exact ⟨hour, minute, second, microsecond⟩

theorem Date.isoChars_append (date : Date) (rest : List Char) :
    date.isoChars ++ rest = padded 4 date.year ++
      '-' :: (padded 2 date.month ++ '-' :: (padded 2 date.day ++ rest)) := by
  simp only [isoChars, List.append_assoc, List.cons_append]

theorem Date.length_isoChars {date : Date} (valid : date.isValid = true) :
    date.isoChars.length = 10 := by
  obtain ⟨year, ⟨-, month⟩, -, day⟩ := bounds_of_isValid valid
  have day := Nat.le_trans day (daysInMonth_le _ _)
  simp only [isoChars, List.length_append, List.length_cons,
    length_padded (by decide : 0 < 4) (show date.year < 10 ^ 4 by omega),
    length_padded (by decide : 0 < 2) (show date.month < 10 ^ 2 by omega),
    length_padded (by decide : 0 < 2) (show date.day < 10 ^ 2 by omega)]

theorem length_le_utf8ByteSize (characters : List Char) :
    characters.length ≤ (String.ofList characters).utf8ByteSize := by
  induction characters with
  | nil => exact Nat.zero_le _
  | cons first rest inductionHypothesis =>
    have size := first.utf8Size_pos
    rw [String.ofList_cons, String.utf8ByteSize_append, String.utf8ByteSize_singleton,
      List.length_cons]
    omega

/-- A date is read back, and what stands behind it is left. -/
theorem takeDate_isoChars {date : Date} (valid : date.isValid = true) (rest : List Char) :
    takeDate (date.isoChars ++ rest) = .ok (date, rest) := by
  obtain ⟨year, ⟨someMonth, month⟩, someDay, day⟩ := Date.bounds_of_isValid valid
  have dayBound := Nat.le_trans day (daysInMonth_le _ _)
  have long : ¬(String.ofList (date.isoChars ++ rest)).utf8ByteSize < 10 := by
    have size := length_le_utf8ByteSize (date.isoChars ++ rest)
    rw [List.length_append, Date.length_isoChars valid] at size
    omega
  have monthRange : (date.month < 1 || 12 < date.month) = false := by simp; omega
  have dayRange : (date.day < 1 || daysInMonth date.year date.month < date.day) = false := by
    simp; omega
  rw [takeDate, if_neg long, Date.isoChars_append,
    takeDigits_padded (by decide) (show date.year < 10 ^ 4 by omega)]
  simp only [takeHyphen, bind, Except.bind, pure, Except.pure,
    takeDigits_padded (by decide : 0 < 2) (show date.month < 10 ^ 2 by omega),
    takeDigits_padded (by decide : 0 < 2) (show date.day < 10 ^ 2 by omega), monthRange, dayRange]
  rfl

/-- What can stand behind a time of day: no further digit, and no mark of a fraction. -/
def ClosesTime (rest : List Char) : Prop :=
  ∀ first ∈ rest.head?, isDigit first = false ∧ (first == '.' || first == ',') = false

theorem fractionMicroseconds_padded {microsecond : Nat} (fits : microsecond < 1000000) :
    fractionMicroseconds (padded 6 microsecond) = microsecond := by
  have size : (padded 6 microsecond).length = 6 := length_padded (by decide) fits
  have whole : (padded 6 microsecond).take 6 = padded 6 microsecond :=
    List.take_of_length_le (Nat.le_of_eq size)
  rw [fractionMicroseconds, whole, size, valueOf_padded]
  exact Nat.mul_one microsecond

theorem takeSeconds_isoChars {second microsecond : Nat} (second_lt : second < 60)
    (fits : microsecond < 1000000) {rest : List Char} (closed : ClosesTime rest) :
    takeSeconds (':' :: (padded 2 second ++
      ((if microsecond = 0 then [] else '.' :: padded 6 microsecond) ++ rest))) =
        some (second, microsecond, rest) := by
  have taken := takeDigits_padded (by decide : 0 < 2) (show second < 10 ^ 2 by omega)
  by_cases whole : microsecond = 0
  · rw [if_pos whole, List.nil_append, takeSeconds, taken, whole]
    cases rest with
    | nil => rfl
    | cons mark others => simp [(closed mark rfl).2]
  · have fraction := spanDigits_append (isDigit_of_mem_padded 6 microsecond)
      fun first member => (closed first member).1
    have some : (padded 6 microsecond).isEmpty = false := by
      rw [List.isEmpty_eq_false_iff, ← List.length_pos_iff, length_padded (by decide) fits]
      decide
    rw [if_neg whole, takeSeconds, taken]
    simp [fraction, some, fractionMicroseconds_padded fits]

theorem TimeOfDay.isoChars_append (time : TimeOfDay) (rest : List Char) :
    time.isoChars ++ rest = padded 2 time.hour ++ ':' :: (padded 2 time.minute ++
      ':' :: (padded 2 time.second ++
        ((if time.microsecond = 0 then [] else '.' :: padded 6 time.microsecond) ++ rest))) := by
  simp only [isoChars, List.append_assoc, List.cons_append]

/-- A time of day is read back, and what stands behind it is left. -/
theorem takeTime_isoChars {time : TimeOfDay} (valid : time.isValid = true) {rest : List Char}
    (closed : ClosesTime rest) : takeTime (time.isoChars ++ rest) = some (time, rest) := by
  obtain ⟨hour, minute, second, microsecond⟩ := time.bounds_of_isValid valid
  rw [takeTime, TimeOfDay.isoChars_append,
    takeDigits_padded (by decide) (show time.hour < 10 ^ 2 by omega)]
  simp only [bind, Option.bind, takeSeconds_isoChars second microsecond closed, valid,
    takeDigits_padded (by decide : 0 < 2) (show time.minute < 10 ^ 2 by omega), if_pos]

/-! ### Zones -/

/-- The offset of a zone is less than a day. -/
def Zone.IsNear (zone : Zone) : Prop :=
  zone.offset.natAbs < 86400000000

/-- The offset of a zone is a number of whole minutes. -/
def Zone.IsWhole (zone : Zone) : Prop :=
  zone.offset % 60000000 = 0

theorem closesTime_zoneChars (zone : Option Zone) : ClosesTime (zoneChars zone) := by
  intro first member
  cases zone with
  | none => cases member
  | some zone =>
    have sign : first = if zone.offset < 0 then '-' else '+' := by
      simpa [zoneChars, Zone.isoChars] using member.symm
    rw [sign]
    split <;> exact ⟨rfl, rfl⟩

/-- The zone that a reader makes of the text of one: the same offset, in whole seconds. -/
def Zone.reread (zone : Zone) : Zone :=
  .read (zone.offset / 1000000)

theorem Zone.offset_reread {zone : Zone} (whole : zone.IsWhole) :
    zone.reread.offset = zone.offset := by
  have seconds : zone.offset % 60000000 = 0 := whole
  show zone.offset / 1000000 * 1000000 = zone.offset
  omega

/-- The text of a zone of whole minutes has no seconds. -/
theorem Zone.isoChars_of_isWhole {zone : Zone} (whole : zone.IsWhole) :
    zone.isoChars = (if zone.offset < 0 then '-' else '+') ::
      (padded 2 (zone.offset.natAbs / 1000000 / 3600) ++
        ':' :: padded 2 (zone.offset.natAbs / 1000000 / 60 % 60)) := by
  have minutes : zone.offset % 60000000 = 0 := whole
  have noFraction : zone.offset.natAbs % 1000000 = 0 := by omega
  have noSeconds : zone.offset.natAbs / 1000000 % 60 = 0 := by omega
  simp only [isoChars, noFraction, noSeconds, and_self, if_true, List.append_nil, List.cons_append]

theorem readOffset_padded {hours minutes : Nat} (hours_lt : hours < 24) (minutes_lt : minutes < 60)
    (negative : Bool) :
    readOffset negative (padded 2 hours ++ ':' :: padded 2 minutes) =
      some (.read (if negative then -(hours * 3600 + minutes * 60 : Int)
        else hours * 3600 + minutes * 60)) := by
  have taken := takeDigits_padded (by decide : 0 < 2) (show minutes < 10 ^ 2 by omega) []
  rw [List.append_nil] at taken
  rw [readOffset, takeDigits_padded (by decide) (show hours < 10 ^ 2 by omega)]
  simp [taken, hours_lt, minutes_lt]

/-- A zone of whole minutes is read back at its offset. -/
theorem readZone_zoneChars {zone : Option Zone}
    (readable : ∀ known ∈ zone, known.IsNear ∧ known.IsWhole) :
    readZone (zoneChars zone) = some (zone.map Zone.reread) := by
  cases zone with
  | none => rfl
  | some zone =>
    obtain ⟨near, whole⟩ := readable zone rfl
    have close : zone.offset.natAbs < 86400000000 := near
    have minutes : zone.offset % 60000000 = 0 := whole
    have hours : zone.offset.natAbs / 1000000 / 3600 < 24 := by omega
    show readZone zone.isoChars = some (some zone.reread)
    rw [Zone.isoChars_of_isWhole whole]
    have minute := Nat.mod_lt (zone.offset.natAbs / 1000000 / 60) (by decide : 60 > 0)
    have read := readOffset_padded hours minute
    split
    · rename_i west
      rw [readZone, read]
      simp only [if_true, Option.map_some, Zone.reread]
      congr 3
      omega
    · rename_i east
      rw [readZone, read]
      simp only [Bool.false_eq_true, if_false, Option.map_some, Zone.reread]
      congr 3
      omega

/-! ### Points in time -/

/-- A point in time as a calendar has it, from the year 1 on, with a zone less than a day off. -/
structure DateTime.IsValid (moment : DateTime) : Prop where
  date : moment.date.isValid = true
  year : moment.date.year ≠ 0
  time : moment.time.isValid = true
  zone : ∀ zone ∈ moment.zone, zone.IsNear

/-- The point in time that a reader makes of the text of one. -/
def DateTime.reread (moment : DateTime) : DateTime :=
  ⟨moment.date, moment.time, moment.zone.map Zone.reread⟩

namespace DateTime

variable {moment : DateTime}

theorem isoChars_eq (moment : DateTime) : moment.isoChars =
    moment.date.isoChars ++ 'T' :: (moment.time.isoChars ++ zoneChars moment.zone) := by
  rw [isoChars, List.append_assoc, List.cons_append]

/-- No timestamp is taken for a number: a hyphen stands behind its first digits. -/
theorem readNumber?_isoChars (valid : moment.date.isValid = true) :
    readNumber? moment.isoChars = none := by
  obtain ⟨year, -⟩ := Date.bounds_of_isValid valid
  obtain ⟨rest, shape⟩ : ∃ rest, moment.isoChars = padded 4 moment.date.year ++ '-' :: rest :=
    ⟨_, by rw [isoChars_eq, Date.isoChars_append]⟩
  have digital := isDigit_of_mem_padded 4 moment.date.year
  have taken : spanDigits (padded 4 moment.date.year ++ '-' :: rest) =
      (padded 4 moment.date.year, '-' :: rest) :=
    spanDigits_append digital fun first member => by
      cases member
      rfl
  have noSign : spanSign moment.isoChars = (false, moment.isoChars) := by
    obtain ⟨first, others, run⟩ := List.exists_cons_of_ne_nil (padded_ne_nil 4 moment.date.year)
    have digit := digital first (by rw [run]; exact List.mem_cons_self)
    rw [shape, run, List.cons_append, spanSign_of_isDigit digit]
  have small : ¬largestInt64 < moment.date.year := by
    rw [largestInt64]
    omega
  rw [readNumber?, noSign]
  simp only [shape, taken, valueOf_padded, if_neg small]
  rfl

theorem readIso_isoChars (valid : moment.IsValid)
    (whole : ∀ zone ∈ moment.zone, zone.IsWhole) :
    readIso moment.isoChars = .ok moment.reread := by
  have clock : readClock ('T' :: (moment.time.isoChars ++ zoneChars moment.zone)) =
      some (moment.time, moment.zone.map Zone.reread) := by
    have zone := readZone_zoneChars fun known member =>
      ⟨valid.zone known member, whole known member⟩
    have time := takeTime_isoChars valid.time (closesTime_zoneChars moment.zone)
    simp [readClock, isTimeMark, time, zone]
  rw [readIso, isoChars_eq, takeDate_isoChars valid.date]
  simp [Except.mapError, bind, Except.bind, pure, Except.pure, clock, valid.year, reread]

theorem readText_isoChars (valid : moment.IsValid)
    (whole : ∀ zone ∈ moment.zone, zone.IsWhole) :
    readText moment.isoChars = .ok moment.reread := by
  rw [readText, readNumber?_isoChars valid.date]
  exact readIso_isoChars valid whole

theorem offset_zone_reread (whole : ∀ zone ∈ moment.zone, zone.IsWhole) :
    moment.reread.zone.map Zone.offset = moment.zone.map Zone.offset := by
  rw [reread, Option.map_map]
  exact Option.map_congr fun zone member => Zone.offset_reread (whole zone member)

/-- What is read back names the same moment. -/
theorem same_reread (whole : ∀ zone ∈ moment.zone, zone.IsWhole) :
    moment.same moment.reread = true := by
  have aware : moment.reread.zone.isSome = moment.zone.isSome := Option.isSome_map
  have instant : moment.reread.instant = moment.instant := by
    rw [DateTime.instant, DateTime.instant, offsetOf, offsetOf, offset_zone_reread whole]
    rfl
  rw [same, aware, instant, BEq.rfl, BEq.rfl]
  rfl

end DateTime

end Calendar

/-- A timestamp in a row is read as the point in time that it was written for. -/
theorem Formatter.load_isoText {moment : DateTime} (valid : moment.IsValid)
    (whole : ∀ zone ∈ moment.zone, zone.IsWhole) :
    datetime.load (.text moment.isoText) = .ok (.datetime moment.reread) := by
  have trimmed : prepared (.text moment.isoText) = .ok (.text moment.isoText) :=
    congrArg (Except.ok ∘ Value.text) moment.trim_isoText
  have read : momentOf (.text moment.isoText) = .ok moment.reread := by
    rw [momentOf, DateTime.isoText, String.toList_ofList]
    exact DateTime.readText_isoChars valid whole
  show convertDateTime (.text moment.isoText) = _
  simp only [convertDateTime, Value.isNaN, Bool.false_eq_true, if_false, trimmed, bind, Except.bind,
    read]
  rfl

/-- A point in time survives a database file: the text that is bound for it is loaded as an equal
one, which shows the same date and time of day and has a zone at the same offset, or none as well.
A point in time in a zone with rules that shows all that has the same text, and equals what is
loaded exactly if its rules give one offset only. -/
theorem datetime_survives_file {moment : DateTime} (valid : moment.IsValid)
    (whole : ∀ zone ∈ moment.zone, zone.IsWhole) :
    ∃ text, storable (.datetime moment) = .ok (.text text) ∧
      ∃ read, Formatter.datetime.load (.text text) = .ok (.datetime read) ∧
        (Value.datetime moment).equal (.datetime read) = true ∧
        read.date = moment.date ∧ read.time = moment.time ∧
        read.zone.map Zone.offset = moment.zone.map Zone.offset ∧
        ∀ ruled : RuledDateTime, ruled.shown = moment →
          ruled.isoText = text ∧ (ruled.same read = true ↔ ruled.isDoubtful = false) := by
  have equal : moment.same moment.reread = true := DateTime.same_reread whole
  refine ⟨moment.isoText, rfl, moment.reread, Formatter.load_isoText valid whole, equal, rfl, rfl,
    DateTime.offset_zone_reread whole, ?_⟩
  rintro ruled rfl
  refine ⟨rfl, ?_⟩
  rw [RuledDateTime.same, equal, Bool.true_and, Bool.not_eq_true']

/-- A moment of the first year comes back, half an hour west of Greenwich and to the microsecond. -/
theorem datetime_survives_file_early :
    ∃ text, storable (.datetime ⟨⟨1, 2, 28⟩, ⟨23, 59, 0, 7⟩, some (.given (-1800000000))⟩) =
        .ok (.text text) ∧
      ∃ read, Formatter.datetime.load (.text text) = .ok (.datetime read) ∧
        read.date = ⟨1, 2, 28⟩ ∧ read.time = ⟨23, 59, 0, 7⟩ ∧
        read.zone.map Zone.offset = some (-1800000000) := by
  have valid : DateTime.IsValid ⟨⟨1, 2, 28⟩, ⟨23, 59, 0, 7⟩, some (.given (-1800000000))⟩ := by
    refine ⟨by decide, by decide, by decide, fun zone member => ?_⟩
    cases member
    show (-1800000000 : Int).natAbs < 86400000000
    decide
  obtain ⟨text, stored, read, loaded, -, date, time, zone, -⟩ :=
    datetime_survives_file valid fun zone member => by
      cases member
      show (-1800000000 : Int) % 60000000 = 0
      decide
  exact ⟨text, stored, read, loaded, date, time, zone⟩

/-- The rules of a zone whose clocks are set back by an hour at three in the morning of the 29th of
October 2023, from two hours east of Greenwich to one. -/
def setBack : ZoneRules where
  offsetAt date time again :=
    let hours := date.dayNumber * 24 + time.hour
    let change := Date.dayNumber ⟨2023, 10, 29⟩ * 24 + 2
    if hours < change ∨ (hours = change ∧ again = false) then 7200000000 else 3600000000

/-- Half past two is shown twice that night. Its text is loaded as a point in time that shows the
same, at the same offset of whole minutes, and that it does not equal. -/
theorem datetime_shown_twice :
    let moment : RuledDateTime := ⟨⟨2023, 10, 29⟩, ⟨2, 30, 0, 0⟩, setBack, false⟩
    let read : DateTime := ⟨⟨2023, 10, 29⟩, ⟨2, 30, 0, 0⟩, some (.read 7200)⟩
    moment.shown.IsValid ∧ (∀ zone ∈ moment.shown.zone, zone.IsWhole) ∧
      Formatter.datetime.load (.text moment.isoText) = .ok (.datetime read) ∧
      moment.same read = false := by
  intro moment read
  have offset : moment.shown.zone = some (.given 7200000000) := by decide +kernel
  have valid : moment.shown.IsValid := by
    refine ⟨by decide, by decide, by decide, fun zone member => ?_⟩
    rw [offset] at member
    cases member
    show (7200000000 : Int).natAbs < 86400000000
    decide
  have whole : ∀ zone ∈ moment.shown.zone, zone.IsWhole := by
    intro zone member
    rw [offset] at member
    cases member
    show (7200000000 : Int) % 60000000 = 0
    decide
  have reread : moment.shown.reread = read := by decide +kernel
  exact ⟨valid, whole, reread ▸ Formatter.load_isoText valid whole, by decide +kernel⟩

end TableGateway
