import KernelClient.Time.Instant
import Mathlib.Data.List.TakeWhile

/-!
# Timestamps of RFC 3339

A timestamp has a date, a time of day with any number of digits after its point, and an offset from
universal time. Dates of messages are written in many ways, and more is read than such timestamps.
Here every timestamp is shown to be read. A timestamp has no blanks, so each of its numbers begins
with a digit and each of its marks stands for itself.
-/

namespace KernelClient.Instant

/-- So many digits. -/
def IsNumber (width : Nat) (text : List Char) : Prop :=
  text.length = width ∧ ∀ character ∈ text, isDigit character = true

/-- Nothing, or a point and at least one digit. -/
inductive IsFraction : List Char → Prop where
  | none : IsFraction []
  | digits {digits : List Char} (some : digits ≠ [])
      (only : ∀ character ∈ digits, isDigit character = true) : IsFraction ('.' :: digits)

/-- The letter of universal time, or a sign, hours and minutes. -/
inductive IsOffset : List Char → Prop where
  | universal {letter : Char} (isLetter : letter = 'Z' ∨ letter = 'z') : IsOffset [letter]
  | numeric {sign : Char} {hour minute : List Char} (isSign : sign = '+' ∨ sign = '-')
      (isHour : IsNumber 2 hour) (isMinute : IsNumber 2 minute)
      (hourBelow : digitsValue hour < 24) (minuteBelow : digitsValue minute < 60) :
      IsOffset (sign :: hour ++ ':' :: minute)

/-- A timestamp with an offset: the date is one that exists, and a minute can have 61 seconds. -/
inductive IsTimestamp : List Char → Prop where
  | timestamp {year month day hour minute second fraction offset : List Char} {separator : Char}
      (isYear : IsNumber 4 year) (isMonth : IsNumber 2 month) (isDay : IsNumber 2 day)
      (isDate : Calendar.Date.isValid
        ⟨digitsValue year, digitsValue month, digitsValue day⟩ = true)
      (isSeparator : separator = 'T' ∨ separator = 't')
      (isHour : IsNumber 2 hour) (isMinute : IsNumber 2 minute) (isSecond : IsNumber 2 second)
      (hourBelow : digitsValue hour < 24) (minuteBelow : digitsValue minute < 60)
      (secondBelow : digitsValue second ≤ 60)
      (isFraction : IsFraction fraction) (isOffset : IsOffset offset) :
      IsTimestamp (year ++ '-' :: (month ++ '-' :: (day ++ separator :: (hour ++ ':' ::
        (minute ++ ':' :: (second ++ (fraction ++ offset)))))))

theorem toNat_of_isDigit {character : Char} (digit : isDigit character = true) :
    48 ≤ character.toNat ∧ character.toNat ≤ 57 := by
  simpa [isDigit, Char.le_def, UInt32.le_iff_toNat_le] using digit

theorem isBlank_of_isDigit {character : Char} (digit : isDigit character = true) :
    Text.isBlank character = false := by
  obtain ⟨least, most⟩ := toNat_of_isDigit digit
  simp only [Text.isBlank, Bool.or_eq_false_iff, Bool.and_eq_false_iff, decide_eq_false_iff_not,
    beq_eq_false_iff_ne]
  omega

variable {width : Nat} {digits rest : List Char}

/-- A number is read up to its end, if its width is known. -/
theorem number?_append (number : IsNumber width digits) (positive : 0 < width) :
    number? width (digits ++ rest) = some (digitsValue digits, rest) := by
  obtain ⟨length, only⟩ := number
  have read : ((digits ++ rest).take width).takeWhile isDigit = digits := by
    rw [List.take_left' length]
    exact List.takeWhile_eq_self_iff.mpr only
  have some : digits.isEmpty = false := by
    cases digits with
    | nil => exact absurd length (Nat.ne_of_lt positive)
    | cons => rfl
  unfold number?
  rw [read]
  simp only [some, Bool.false_eq_true, if_false, List.drop_left' rfl]

/-- No blank is left out before a number. -/
theorem trimStart_number (number : IsNumber width digits) (positive : 0 < width) :
    Text.trimStart (digits ++ rest) = digits ++ rest := by
  obtain ⟨length, only⟩ := number
  cases digits with
  | nil => exact absurd length (Nat.ne_of_lt positive)
  | cons first others =>
      have visible := isBlank_of_isDigit (only first (List.mem_cons_self ..))
      exact List.dropWhile_cons_of_neg (by simp [visible])

theorem pair?_append (number : IsNumber 2 digits) :
    pair? (digits ++ rest) = some (digitsValue digits, rest) := by
  unfold pair?
  rw [trimStart_number number (by decide)]
  exact number?_append number (by decide)

theorem year?_append (number : IsNumber 4 digits) :
    year? (digits ++ rest) = some ((digitsValue digits : Int), rest) := by
  unfold year?
  rw [trimStart_number number (by decide)]
  have read : number? 4 (digits ++ rest) = some (digitsValue digits, rest) :=
    number?_append number (by decide)
  obtain ⟨length, only⟩ := number
  cases digits with
  | nil => cases length
  | cons first others =>
      have digit := toNat_of_isDigit (only first (List.mem_cons_self ..))
      split
      case h_1 same | h_2 same =>
        cases same
        exact absurd digit (by decide)
      case h_3 =>
        rw [read]
        rfl

theorem mark?_cons {mark : Char} (visible : Text.isBlank mark = false) :
    mark? mark (mark :: rest) = some rest := by
  unfold mark? Text.trimStart
  rw [List.dropWhile_cons_of_neg (by simp [visible])]
  exact if_pos rfl

/-- The first character of an offset. -/
theorem IsOffset.exists_cons {offset : List Char} (isOffset : IsOffset offset) :
    ∃ first others, offset = first :: others ∧ first ∈ ['Z', 'z', '+', '-'] := by
  cases isOffset with
  | universal isLetter => exact ⟨_, _, rfl, by rcases isLetter with rfl | rfl <;> simp⟩
  | numeric isSign => exact ⟨_, _, rfl, by rcases isSign with rfl | rfl <;> simp⟩

/-- A fraction is read up to the offset that follows it. -/
theorem fraction?_append {fraction offset : List Char} (isFraction : IsFraction fraction)
    (isOffset : IsOffset offset) :
    ∃ nanoseconds, fraction? (fraction ++ offset) = some (nanoseconds, offset) := by
  obtain ⟨first, others, rfl, letter⟩ := isOffset.exists_cons
  have stops : isDigit first = false := by
    have each : ∀ first ∈ ['Z', 'z', '+', '-'], (!isDigit first) = true :=
      List.all_eq_true.mp rfl
    simpa using each first letter
  cases isFraction with
  | none =>
      have other : first ≠ '.' := by
        rintro rfl
        exact absurd letter (by decide)
      refine ⟨0, ?_⟩
      unfold fraction?
      split
      case h_1 same => exact absurd (List.cons.inj same).1 other
      case h_2 => rfl
  | @digits digits some only =>
      have read : ((digits ++ first :: others).take 9).takeWhile isDigit = digits.take 9 := by
        rw [List.take_append, List.takeWhile_append_of_pos fun character member =>
          only character (List.mem_of_mem_take member)]
        cases room : 9 - digits.length with
        | zero => simp
        | succ more => simp [stops]
      have left : (digits.take 9).isEmpty = false := by
        cases digits with
        | nil => exact absurd rfl some
        | cons => rfl
      have skipped : ((digits ++ first :: others).drop (digits.take 9).length).dropWhile isDigit =
          first :: others := by
        rw [List.length_take, List.drop_append_of_le_length (Nat.min_le_right ..),
          List.dropWhile_append_of_pos fun character member =>
            only character (List.mem_of_mem_drop member)]
        exact List.dropWhile_cons_of_neg (by simp [stops])
      rw [List.cons_append, fraction?, number?, read]
      simp only [left, Bool.false_eq_true, if_false, Option.map_some, skipped]
      exact ⟨_, rfl⟩

/-- The first digit of a number of minutes. -/
theorem tens_of_lt {tens ones : Char} (digit : isDigit tens = true)
    (below : digitsValue [tens, ones] < 60) : '0' ≤ tens ∧ tens ≤ '5' := by
  have bounds := toNat_of_isDigit digit
  have value : digitsValue [tens, ones] = 10 * (10 * 0 + (tens.toNat - 48)) + (ones.toNat - 48) :=
    rfl
  simp only [Char.le_def, UInt32.le_iff_toNat_le]
  exact ⟨bounds.1, show tens.toNat ≤ 53 by omega⟩

theorem offsetMinutes?_append {hour minute : List Char} (isHour : IsNumber 2 hour)
    (isMinute : IsNumber 2 minute) (below : digitsValue minute < 60) :
    offsetMinutes? (hour ++ ':' :: minute) =
      some (((digitsValue hour * 60 + digitsValue minute : Nat) : Int), []) := by
  obtain ⟨hourLength, hourOnly⟩ := isHour
  obtain ⟨minuteLength, minuteOnly⟩ := isMinute
  match hour, hourLength, minute, minuteLength with
  | [h, i], _, [m, n], _ =>
      have tens := tens_of_lt (minuteOnly m (by simp)) below
      have visible := isBlank_of_isDigit (minuteOnly m (by simp))
      have noColon : m ≠ ':' := by
        rintro rfl
        exact absurd (minuteOnly ':' (by simp)) (by decide)
      have skipped : (':' :: [m, n]).dropWhile
          (fun character => character = ':' || Text.isBlank character) = [m, n] := by
        simp [noColon, visible]
      simp only [List.cons_append, List.nil_append, offsetMinutes?, hourOnly h (by simp),
        hourOnly i (by simp), skipped, tens, minuteOnly n (by simp), Bool.and_self, decide_true,
        if_true]
      rfl

/-- An offset is read to its end, and it is less than a day. -/
theorem offset?_of_isOffset {offset : List Char} (isOffset : IsOffset offset) :
    ∃ minutes, offset? (Text.trimStart offset) = some (minutes, []) ∧ minutes.natAbs < 1440 := by
  cases isOffset with
  | universal isLetter => rcases isLetter with rfl | rfl <;> exact ⟨0, rfl, by decide⟩
  | @numeric sign hour minute isSign isHour isMinute hourBelow minuteBelow =>
      have visible : Text.isBlank sign = false := by rcases isSign with rfl | rfl <;> rfl
      have trimmed : Text.trimStart (sign :: hour ++ ':' :: minute) =
          sign :: (hour ++ ':' :: minute) :=
        List.dropWhile_cons_of_neg (by simp [visible])
      have read := offsetMinutes?_append isHour isMinute minuteBelow
      rw [trimmed]
      rcases isSign with rfl | rfl
      · exact ⟨_, read, by omega⟩
      · have negative : offset? ('-' :: (hour ++ ':' :: minute)) =
            (offsetMinutes? (hour ++ ':' :: minute)).map fun found => (-found.1, found.2) := rfl
        refine ⟨-(digitsValue hour * 60 + digitsValue minute : Nat), ?_, by omega⟩
        rw [negative, read]
        rfl

theorem daysInMonth_le (year : Int) (month : Nat) : Calendar.daysInMonth year month ≤ 31 := by
  unfold Calendar.daysInMonth
  split
  · split <;> omega
  · split <;> omega

/-- A date of four digits is less than 3 million days from the start of 1970. -/
theorem toDays_bounds {date : Calendar.Date} (isDate : date.isValid = true)
    (least : 0 ≤ date.year) (most : date.year ≤ 9999) :
    -3000000 < date.toDays ∧ date.toDays < 3000000 := by
  simp only [Calendar.Date.isValid, Bool.and_eq_true, decide_eq_true_eq] at isDate
  obtain ⟨⟨⟨firstMonth, lastMonth⟩, firstDay⟩, lastDay⟩ := isDate
  have day := daysInMonth_le date.year date.month
  simp only [Calendar.Date.toDays, Int.fdiv_eq_ediv_of_nonneg _ (by decide : (0 : Int) ≤ 400)]
  split <;> omega

theorem isYear_iff {year : Int} : isYear year = true ↔ -262143 ≤ year ∧ year ≤ 262142 := by
  unfold isYear
  rw [Bool.and_eq_true, decide_eq_true_eq, decide_eq_true_eq]
  rfl

/-- A day that is less than 4 million days from the start of 1970 lies in a year that is
accepted. -/
theorem isYear_ofDays {days : Int} (least : -4000000 < days) (most : days < 4000000) :
    isYear (Calendar.Date.ofDays days).year = true := by
  simp only [isYear_iff, Calendar.Date.ofDays,
    Int.fdiv_eq_ediv_of_nonneg _ (by decide : (0 : Int) ≤ 146097)]
  split <;> split <;> omega

/-- A local date and time that exist are an instant, if the year has four digits. -/
theorem ofLocal?_isSome {date : Calendar.Date} {hour minute second : Nat} {offset : Int}
    (isDate : date.isValid = true) (least : 0 ≤ date.year) (most : date.year ≤ 9999)
    (hourBelow : hour < 24) (minuteBelow : minute < 60) (secondBelow : second ≤ 60)
    (offsetBelow : offset.natAbs < 1440) (nanoseconds : Nat) :
    (ofLocal? date hour minute second nanoseconds offset).isSome = true := by
  have year : isYear date.year = true := isYear_iff.mpr (by omega)
  obtain ⟨early, late⟩ := toDays_bounds isDate least most
  unfold ofLocal?
  rw [if_pos (by simp [isDate, year, hourBelow, minuteBelow, secondBelow, offsetBelow])]
  dsimp only
  rw [if_pos]
  · rfl
  · rw [Int.fdiv_eq_ediv_of_nonneg _ (by decide : (0 : Int) ≤ 86400)]
    apply isYear_ofDays <;> split <;> omega

/-- Four digits are a number below ten thousand. -/
theorem digitsValue_le (number : IsNumber 4 digits) : digitsValue digits ≤ 9999 := by
  obtain ⟨length, only⟩ := number
  match digits, length with
  | [a, b, c, d], _ =>
      have bound (digit : Char) (member : digit ∈ [a, b, c, d]) : digit.toNat ≤ 57 :=
        (toNat_of_isDigit (only digit member)).2
      have value : digitsValue [a, b, c, d] =
          10 * (10 * (10 * (10 * 0 + (a.toNat - 48)) + (b.toNat - 48)) + (c.toNat - 48)) +
            (d.toNat - 48) := rfl
      have first := bound a (by simp)
      have second := bound b (by simp)
      have third := bound c (by simp)
      have fourth := bound d (by simp)
      omega

/-- Every timestamp is read. -/
theorem parse?_isSome {text : String} (timestamp : IsTimestamp text.toList) :
    (parse? text).isSome = true := by
  generalize characters : text.toList = written at timestamp
  unfold parse?
  rw [characters]
  cases timestamp with
  | @timestamp year month day hour minute second fraction offset separator isYear isMonth isDay
      isDate isSeparator isHour isMinute isSecond hourBelow minuteBelow secondBelow isFraction
      isOffset =>
    obtain ⟨nanoseconds, fractionRead⟩ := fraction?_append isFraction isOffset
    obtain ⟨minutes, offsetRead, offsetBelow⟩ := offset?_of_isOffset isOffset
    have hyphen {rest : List Char} : mark? '-' ('-' :: rest) = some rest := mark?_cons rfl
    have colon {rest : List Char} : mark? ':' (':' :: rest) = some rest := mark?_cons rfl
    have isInstant := ofLocal?_isSome isDate (Int.natCast_nonneg _)
      (Int.ofNat_le.mpr (digitsValue_le isYear)) hourBelow minuteBelow secondBelow offsetBelow
      nanoseconds
    simp only [year?_append isYear, hyphen, pair?_append isMonth, pair?_append isDay, bind,
      Option.bind]
    rcases isSeparator with rfl | rfl
    all_goals
      simp only [pair?_append isHour, colon, pair?_append isMinute, pair?_append isSecond,
        fractionRead, offsetRead]
      exact isInstant

/-- A leap second in a zone west of Greenwich, with a fraction and a small letter. -/
example : (parse? "2016-12-31t15:59:60.25-08:00").isSome = true := by decide +kernel

end KernelClient.Instant
