import Mathlib

set_option autoImplicit false

namespace Calendar

section Dates

def isLeap (year : Nat) : Bool := year % 4 == 0 && (year % 100 != 0 || year % 400 == 0)

def daysInMonth (year month : Nat) : Nat :=
  if month = 2 then if isLeap year then 29 else 28
  else if month ∈ [4, 6, 9, 11] then 30
  else 31

structure Fields where
  year : Nat
  month : Nat
  day : Nat
  hour : Nat
  minute : Nat
  second : Nat
  microsecond : Nat
deriving DecidableEq

def Fields.Valid (fields : Fields) : Prop :=
  (1 ≤ fields.year ∧ fields.year ≤ 9999) ∧ (1 ≤ fields.month ∧ fields.month ≤ 12) ∧
    (1 ≤ fields.day ∧ fields.day ≤ daysInMonth fields.year fields.month) ∧
    fields.hour < 24 ∧ fields.minute < 60 ∧ fields.second < 60 ∧ fields.microsecond < 1000000

instance (fields : Fields) : Decidable fields.Valid := inferInstanceAs (Decidable (_ ∧ _))

structure DateTime extends Fields where
  valid : toFields.Valid
deriving DecidableEq

def dateTime? (fields : Fields) : Option DateTime :=
  if valid : fields.Valid then some ⟨fields, valid⟩ else none

def DateTime.replace (time : DateTime) (change : Fields → Fields) : Option DateTime :=
  dateTime? (change time.toFields)

theorem dateTime?_of_valid {fields : Fields} (valid : fields.Valid) :
    dateTime? fields = some ⟨fields, valid⟩ := dif_pos valid

end Dates

section TimeLine

def daysBeforeYear (year : Nat) : Nat :=
  (year - 1) * 365 + (year - 1) / 4 - (year - 1) / 100 + (year - 1) / 400

def daysBeforeMonth (year month : Nat) : Nat :=
  ((List.range' 1 (month - 1)).map (daysInMonth year)).sum

def dayNumber (year month day : Nat) : Nat := daysBeforeYear year + daysBeforeMonth year month + day

-- The number of the first of January 1970.
def epochDay : Int := 719163

def microsecondsPerDay : Int := 86400000000

/-- Microseconds since the epoch. -/
def DateTime.timestamp (time : DateTime) : Int :=
  (dayNumber time.year time.month time.day - epochDay) * microsecondsPerDay +
    (((time.hour * 60 + time.minute) * 60 + time.second) * 1000000 + time.microsecond : Nat)

def DateTime.monthIndex (time : DateTime) : Nat := 12 * (time.year - 1) + (time.month - 1)

/-- Where a month begins, the months of all years numbered from the first one on. -/
def startOfMonth (index : Nat) : Int :=
  (dayNumber (index / 12 + 1) (index % 12 + 1) 1 - epochDay) * microsecondsPerDay

theorem daysBeforeMonth_succ (year month : Nat) (first : 1 ≤ month) :
    daysBeforeMonth year (month + 1) = daysBeforeMonth year month + daysInMonth year month := by
  obtain ⟨before, rfl⟩ := Nat.exists_eq_add_of_le' first
  simp [daysBeforeMonth, List.range'_concat, Nat.add_comm]

theorem daysBeforeMonth_year (year : Nat) :
    daysBeforeMonth year 13 = if isLeap year then 366 else 365 := by
  cases leap : isLeap year <;> simp [daysBeforeMonth, daysInMonth, leap, List.range']

theorem isLeap_iff (year : Nat) : isLeap year = true ↔ 4 ∣ year ∧ (¬ 100 ∣ year ∨ 400 ∣ year) := by
  simp [isLeap, Nat.dvd_iff_mod_eq_zero]

theorem daysBeforeYear_succ (year : Nat) (first : 1 ≤ year) :
    daysBeforeYear (year + 1) = daysBeforeYear year + if isLeap year then 366 else 365 := by
  obtain ⟨before, rfl⟩ := Nat.exists_eq_add_of_le' first
  have centuries : before / 100 ≤ before / 4 := Nat.div_le_div_left (by omega) (by omega)
  have four : 100 ∣ before + 1 → 4 ∣ before + 1 := fun divides =>
    Nat.dvd_trans (by decide) divides
  have hundred : 400 ∣ before + 1 → 100 ∣ before + 1 := fun divides =>
    Nat.dvd_trans (by decide) divides
  simp only [daysBeforeYear, Nat.add_sub_cancel, Nat.succ_div, isLeap_iff]
  generalize before / 4 = fours at centuries ⊢
  generalize before / 100 = hundreds at centuries ⊢
  by_cases byHundred : 100 ∣ before + 1
  · by_cases byFourHundred : 400 ∣ before + 1
    · simp only [four byHundred, byHundred, byFourHundred, if_true, or_true, and_self]
      omega
    · simp only [four byHundred, byHundred, byFourHundred, if_true, if_false, not_true, or_self,
        and_false]
      omega
  · have notFourHundred : ¬ 400 ∣ before + 1 := mt hundred byHundred
    by_cases byFour : 4 ∣ before + 1
    · simp only [byFour, byHundred, notFourHundred, if_true, if_false, not_false_eq_true, or_false,
        and_self]
      omega
    · simp only [byFour, byHundred, notFourHundred, if_false, false_and]
      omega

theorem daysInMonth_pos (year month : Nat) : 0 < daysInMonth year month := by
  unfold daysInMonth
  split_ifs <;> decide

theorem daysInMonth_le (year month : Nat) : daysInMonth year month ≤ 31 := by
  unfold daysInMonth
  split_ifs <;> decide

theorem startOfMonth_succ (index : Nat) :
    startOfMonth (index + 1) = startOfMonth index +
      daysInMonth (index / 12 + 1) (index % 12 + 1) * microsecondsPerDay := by
  have days : dayNumber ((index + 1) / 12 + 1) ((index + 1) % 12 + 1) 1 =
      dayNumber (index / 12 + 1) (index % 12 + 1) 1 +
        daysInMonth (index / 12 + 1) (index % 12 + 1) := by
    by_cases december : index % 12 = 11
    · have year : (index + 1) / 12 = index / 12 + 1 := by omega
      have month : (index + 1) % 12 = 0 := by omega
      have length := daysBeforeMonth_year (index / 12 + 1)
      rw [daysBeforeMonth_succ _ 12 (by omega)] at length
      rw [year, month, december, dayNumber, dayNumber, daysBeforeYear_succ _ (by omega), ← length]
      simp only [daysBeforeMonth, Nat.zero_add, Nat.sub_self, List.range'_zero, List.map_nil,
        List.sum_nil]
      ring
    · have year : (index + 1) / 12 = index / 12 := by omega
      have month : (index + 1) % 12 = index % 12 + 1 := by omega
      rw [year, month, dayNumber, dayNumber, daysBeforeMonth_succ _ _ (by omega)]
      ring
  rw [startOfMonth, startOfMonth, days]
  push_cast
  ring

theorem startOfMonth_strictMono : StrictMono startOfMonth := by
  refine strictMono_nat_of_lt_succ fun index => ?_
  have length := daysInMonth_pos (index / 12 + 1) (index % 12 + 1)
  rw [startOfMonth_succ]
  exact lt_add_of_pos_right _ (mul_pos (Int.natCast_pos.mpr length) (by decide))

theorem disjoint_months {index other : Nat} (apart : index ≠ other) :
    Disjoint (Set.Ico (startOfMonth index) (startOfMonth (index + 1)))
      (Set.Ico (startOfMonth other) (startOfMonth (other + 1))) := by
  have disjoint := startOfMonth_strictMono.monotone.pairwise_disjoint_on_Ico_succ apart
  simpa only [Function.onFun, Nat.succ_eq_succ] using disjoint

variable (time : DateTime)

theorem DateTime.year_eq : time.monthIndex / 12 + 1 = time.year := by
  obtain ⟨⟨year, -⟩, ⟨low, high⟩, -⟩ := time.valid
  unfold monthIndex
  omega

theorem DateTime.month_eq : time.monthIndex % 12 + 1 = time.month := by
  obtain ⟨⟨year, -⟩, ⟨low, high⟩, -⟩ := time.valid
  unfold monthIndex
  omega

theorem DateTime.mem_month : time.timestamp ∈
    Set.Ico (startOfMonth time.monthIndex) (startOfMonth (time.monthIndex + 1)) := by
  obtain ⟨-, -, ⟨first, last⟩, hour, minute, second, microsecond⟩ := time.valid
  rw [startOfMonth_succ, startOfMonth, time.year_eq, time.month_eq, Set.mem_Ico, timestamp]
  simp only [dayNumber, microsecondsPerDay, epochDay]
  omega

example : DateTime.timestamp ⟨⟨1970, 1, 1, 0, 0, 0, 0⟩, by decide⟩ = 0 := by decide

def firstOfMonth (year month : Nat) : Fields := ⟨year, month, 1, 0, 0, 0, 0⟩

theorem firstOfMonth_valid {year month : Nat} (years : 1 ≤ year ∧ year ≤ 9999)
    (months : 1 ≤ month ∧ month ≤ 12) : (firstOfMonth year month).Valid :=
  ⟨years, months, ⟨le_refl 1, daysInMonth_pos year month⟩, by simp [firstOfMonth]⟩

theorem timestamp_firstOfMonth {year month : Nat} (valid : (firstOfMonth year month).Valid) :
    DateTime.timestamp ⟨firstOfMonth year month, valid⟩ =
      startOfMonth (12 * (year - 1) + (month - 1)) := by
  have yearAt := DateTime.year_eq ⟨firstOfMonth year month, valid⟩
  have monthAt := DateTime.month_eq ⟨firstOfMonth year month, valid⟩
  simp only [DateTime.monthIndex, firstOfMonth] at yearAt monthAt
  rw [startOfMonth, yearAt, monthAt]
  simp [DateTime.timestamp, firstOfMonth]

end TimeLine

section Texts

def padded (width number : Nat) : List Char :=
  List.replicate (width - (Nat.toDigits 10 number).length) '0' ++ Nat.toDigits 10 number

-- `datetime.isoformat` of a time in UTC.
def isoformat (time : DateTime) : String :=
  String.ofList
    (padded 4 time.year ++ '-' :: padded 2 time.month ++ '-' :: padded 2 time.day ++
      'T' :: padded 2 time.hour ++ ':' :: padded 2 time.minute ++ ':' :: padded 2 time.second ++
      (if time.microsecond = 0 then [] else '.' :: padded 6 time.microsecond) ++ "+00:00".toList)

def readChar (c : Char) : List Char → Option (List Char)
  | [] => none
  | d :: rest => if d = c then some rest else none

def readNumber (width : Nat) (text : List Char) : Option (Nat × List Char) :=
  if (text.take width).length = width ∧ (text.take width).all Char.isDigit then
    some (Nat.ofDigitChars 10 (text.take width) 0, text.drop width)
  else none

def readFraction : List Char → Option (Nat × List Char)
  | '.' :: rest => readNumber 6 rest
  | text => some (0, text)

/-- The time that a text of `isoformat` stands for. -/
def readIso (literal : String) : Option DateTime := do
  let (year, text) ← readNumber 4 literal.toList
  let (month, text) ← (readChar '-' text).bind (readNumber 2)
  let (day, text) ← (readChar '-' text).bind (readNumber 2)
  let (hour, text) ← (readChar 'T' text).bind (readNumber 2)
  let (minute, text) ← (readChar ':' text).bind (readNumber 2)
  let (second, text) ← (readChar ':' text).bind (readNumber 2)
  let (microsecond, text) ← readFraction text
  guard (text = "+00:00".toList)
  dateTime? { year, month, day, hour, minute, second, microsecond }

theorem length_padded {width number : Nat} (fits : number < 10 ^ width) (positive : 0 < width) :
    (padded width number).length = width := by
  have short : (Nat.toDigits 10 number).length ≤ width :=
    Nat.toDigits_length 10 number width positive fits
  rw [padded, List.length_append, List.length_replicate, Nat.sub_add_cancel short]

theorem ofDigitChars_padded (width number : Nat) :
    Nat.ofDigitChars 10 (padded width number) 0 = number := by
  rw [padded, Nat.ofDigitChars_append, Nat.ofDigitChars_replicate_zero, Nat.mul_zero,
    Nat.ofDigitChars_ten_toDigits]

theorem all_isDigit_padded (width number : Nat) :
    (padded width number).all Char.isDigit = true := by
  rw [padded, List.all_append, Bool.and_eq_true, List.all_eq_true, List.all_eq_true]
  refine ⟨fun c member => ?_, fun c member => ?_⟩
  · rw [List.eq_of_mem_replicate member]
    rfl
  · exact Nat.isDigit_of_mem_toDigits (by omega) (by omega) member

theorem readNumber_padded {width number : Nat} (fits : number < 10 ^ width) (positive : 0 < width)
    (rest : List Char) : readNumber width (padded width number ++ rest) = some (number, rest) := by
  have length := length_padded fits positive
  have front : (padded width number ++ rest).take width = padded width number :=
    List.take_left' length
  have back : (padded width number ++ rest).drop width = rest := List.drop_left' length
  rw [readNumber, front, back, if_pos ⟨length, all_isDigit_padded width number⟩,
    ofDigitChars_padded]

theorem readChar_cons (c : Char) (rest : List Char) : readChar c (c :: rest) = some rest :=
  if_pos rfl

theorem readFraction_isoformat {microsecond : Nat} (fits : microsecond < 1000000) :
    readFraction ((if microsecond = 0 then [] else '.' :: padded 6 microsecond) ++
      "+00:00".toList) = some (microsecond, "+00:00".toList) := by
  split
  next zero => rw [zero]; rfl
  next => exact readNumber_padded fits (by omega) _

theorem readIso_isoformat (time : DateTime) : readIso (isoformat time) = some time := by
  obtain ⟨⟨-, year⟩, ⟨-, month⟩, ⟨-, day⟩, hour, minute, second, microsecond⟩ := time.valid
  have length := daysInMonth_le time.year time.month
  have fits : time.year < 10 ^ 4 ∧ time.month < 10 ^ 2 ∧ time.day < 10 ^ 2 ∧
      time.hour < 10 ^ 2 ∧ time.minute < 10 ^ 2 ∧ time.second < 10 ^ 2 := by omega
  obtain ⟨years, months, days, hours, minutes, seconds⟩ := fits
  have two : 0 < 2 := by decide
  have fraction := readFraction_isoformat microsecond
  rw [readIso, isoformat, String.toList_ofList]
  -- The zone is only compared at the end.
  generalize "+00:00".toList = zone at fraction ⊢
  simp only [List.append_assoc, List.cons_append, Option.bind_eq_bind, readChar_cons,
    Option.bind_some, readNumber_padded years (by decide : 0 < 4), readNumber_padded months two,
    readNumber_padded days two, readNumber_padded hours two, readNumber_padded minutes two,
    readNumber_padded seconds two, fraction, guard, if_true]
  exact dateTime?_of_valid time.valid

end Texts

end Calendar
