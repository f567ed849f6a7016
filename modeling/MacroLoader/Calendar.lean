import MacroLoader.PythonValues

/-!
# The calendar, and dates as text

A date is a count of days and an instant a count of microseconds, so that
windows and overlaps are differences of integers. What the calendar adds is the
year, the month and the day: the names of month files are made of them, and so
are the texts of dates in manifests and the identifiers of builds.

The conversion is the usual one, by eras of 400 years that begin in March, and
`dateOfCivil_civilOfDate` says that nothing is lost on the way to the text and
back.
-/

/-- A calendar date, in days since 1970-01-01. -/
abbrev Date := ℤ

/-- The year, the month and the day of a date. -/
structure CivilDate where
  year : ℤ
  month : ℤ
  day : ℤ
  deriving DecidableEq, Repr

/-! ## Days and years

Years are counted from March here, so that the leap day is the last of its
year. -/

/-- The year of an era that a day of the era is in: the centuries, then the
cycles of four years, then the years, of which the last ones have one day more. -/
def yearOfEra (dayOfEra : ℤ) : ℤ :=
  let century := min (dayOfEra / 36524) 3
  let dayOfCentury := dayOfEra - 36524 * century
  let cycle := dayOfCentury / 1461
  100 * century + 4 * cycle + min ((dayOfCentury - 1461 * cycle) / 365) 3

/-- The days of an era before one of its years. -/
def daysBeforeYear (year : ℤ) : ℤ := 365 * year + year / 4 - year / 100

/-- The date of a year of an era and a day of the year, both counted from
March. -/
def civilOfMarch (era year dayOfYear : ℤ) : CivilDate :=
  let march := (5 * dayOfYear + 2) / 153
  let month := if march < 10 then march + 3 else march - 9
  { year := year + era * 400 + (if month ≤ 2 then 1 else 0)
    month := month
    day := dayOfYear - (153 * march + 2) / 5 + 1 }

/-- `date.year`, `date.month` and `date.day`. -/
def civilOfDate (d : Date) : CivilDate :=
  let dayOfEra := (d + 719468) % 146097
  let year := yearOfEra dayOfEra
  civilOfMarch ((d + 719468) / 146097) year (dayOfEra - daysBeforeYear year)

/-- `date(year, month, day)`, of a month and a day that exist. -/
def dateOfCivil (c : CivilDate) : Date :=
  let year := if c.month ≤ 2 then c.year - 1 else c.year
  let march := if 2 < c.month then c.month - 3 else c.month + 9
  let dayOfYear := (153 * march + 2) / 5 + c.day - 1
  year / 400 * 146097 + (daysBeforeYear (year % 400) + dayOfYear) - 719468

theorem yearOfEra_bounds {dayOfEra : ℤ} (h : 0 ≤ dayOfEra) (h' : dayOfEra < 146097) :
    0 ≤ yearOfEra dayOfEra ∧ yearOfEra dayOfEra < 400 := by
  unfold yearOfEra
  dsimp only
  omega

theorem daysBeforeYear_split {century cycle year : ℤ} (h : 0 ≤ cycle) (h' : cycle ≤ 24)
    (hy : 0 ≤ year) (hy' : year ≤ 3) :
    daysBeforeYear (100 * century + 4 * cycle + year)
      = 36524 * century + 1461 * cycle + 365 * year := by
  have hquarter : (100 * century + 4 * cycle + year) / 4 = 25 * century + cycle := by omega
  have hhundred : (100 * century + 4 * cycle + year) / 100 = century := by omega
  rw [daysBeforeYear, hquarter, hhundred]
  ring

theorem dayOfYear_bounds {dayOfEra : ℤ} (h : 0 ≤ dayOfEra) (h' : dayOfEra < 146097) :
    0 ≤ dayOfEra - daysBeforeYear (yearOfEra dayOfEra)
      ∧ dayOfEra - daysBeforeYear (yearOfEra dayOfEra) ≤ 365 := by
  unfold yearOfEra
  dsimp only
  rw [daysBeforeYear_split (by omega) (by omega) (by omega) (by omega)]
  omega

theorem dateOfCivil_civilOfMarch {era year dayOfYear : ℤ} (hy : 0 ≤ year) (hy' : year < 400)
    (hd : 0 ≤ dayOfYear) (hd' : dayOfYear ≤ 365) :
    dateOfCivil (civilOfMarch era year dayOfYear)
      = era * 146097 + (daysBeforeYear year + dayOfYear) - 719468 := by
  have hera : (year + era * 400) / 400 = era := by omega
  have hyear : (year + era * 400) % 400 = year := by omega
  -- the first ten months from March are in the same year of January, the last two in the next
  by_cases hm : (5 * dayOfYear + 2) / 153 < 10
  · have hcivil : civilOfMarch era year dayOfYear = ⟨year + era * 400, (5 * dayOfYear + 2) / 153 + 3,
        dayOfYear - (153 * ((5 * dayOfYear + 2) / 153) + 2) / 5 + 1⟩ := by
      simp [civilOfMarch, hm]
      omega
    rw [hcivil, dateOfCivil]
    dsimp only
    rw [if_neg (by omega), if_pos (by omega), hera, hyear, add_sub_cancel_right]
    ring
  · have hcivil : civilOfMarch era year dayOfYear = ⟨year + era * 400 + 1,
        (5 * dayOfYear + 2) / 153 - 9,
        dayOfYear - (153 * ((5 * dayOfYear + 2) / 153) + 2) / 5 + 1⟩ := by
      simp [civilOfMarch, hm]
      omega
    rw [hcivil, dateOfCivil]
    dsimp only
    rw [if_pos (by omega), if_neg (by omega), add_sub_cancel_right, hera, hyear, sub_add_cancel]
    ring

/-- **The calendar loses nothing.** -/
theorem dateOfCivil_civilOfDate (d : ℤ) : dateOfCivil (civilOfDate d) = d := by
  have hsplit := Int.emod_add_mul_ediv (d + 719468) 146097
  have h0 := Int.emod_nonneg (d + 719468) (by norm_num : (146097 : ℤ) ≠ 0)
  have h1 := Int.emod_lt_of_pos (d + 719468) (by norm_num : (0 : ℤ) < 146097)
  obtain ⟨hyear, hyear'⟩ := yearOfEra_bounds h0 h1
  obtain ⟨hday, hday'⟩ := dayOfYear_bounds h0 h1
  unfold civilOfDate
  dsimp only
  rw [dateOfCivil_civilOfMarch hyear hyear' hday hday', add_sub_cancel]
  linarith only [hsplit]

/-- The month that a date is in: the year with the month. -/
def monthOf (d : Date) : ℤ × ℤ := ((civilOfDate d).year, (civilOfDate d).month)

/-! ## Text -/

/-- A number with a fixed count of decimal digits. -/
def digits : ℕ → ℕ → List Char
  | 0, _ => []
  | width + 1, n => digits width (n / 10) ++ [Char.ofNat (48 + n % 10)]

/-- The number that a list of decimal digits stands for. -/
def readDigits (text : List Char) : Option ℕ :=
  if text.all Char.isDigit then some (text.foldl (fun n c => 10 * n + (c.toNat - 48)) 0) else none

/-- `date.isoformat()`. -/
def dateText (d : Date) : String :=
  let c := civilOfDate d
  String.ofList (digits 4 c.year.toNat ++ '-' :: digits 2 c.month.toNat ++ '-' :: digits 2 c.day.toNat)

/-- `datetime.fromisoformat(text).date()` of a text of the form that
`date.isoformat` writes. -/
def readDateText (text : String) : Option Date :=
  let chars := text.toList
  match readDigits (chars.take 4), readDigits ((chars.drop 5).take 2), readDigits (chars.drop 8) with
  | some year, some month, some day =>
    let c : CivilDate := ⟨year, month, day⟩
    if chars.length = 10 ∧ chars[4]? = some '-' ∧ chars[7]? = some '-' ∧ 1 ≤ year
      ∧ civilOfDate (dateOfCivil c) = c then some (dateOfCivil c) else none
  | _, _, _ => none

@[simp] theorem digits_length (width n : ℕ) : (digits width n).length = width := by
  induction width generalizing n with
  | zero => rfl
  | succ width ih => simp [digits, ih]

theorem digitChar_toNat {n : ℕ} (h : n < 10) : (Char.ofNat (48 + n)).toNat = 48 + n := by
  interval_cases n <;> rfl

theorem digitChar_isDigit {n : ℕ} (h : n < 10) : (Char.ofNat (48 + n)).isDigit = true := by
  interval_cases n <;> rfl

theorem digits_all (width n : ℕ) : (digits width n).all Char.isDigit = true := by
  induction width generalizing n with
  | zero => rfl
  | succ width ih =>
    rw [digits, List.all_append, ih]
    simpa using digitChar_isDigit (Nat.mod_lt n (by norm_num))

theorem foldl_digits {width n : ℕ} (h : n < 10 ^ width) :
    (digits width n).foldl (fun n c => 10 * n + (c.toNat - 48)) 0 = n := by
  induction width generalizing n with
  | zero =>
    rw [pow_zero, Nat.lt_one_iff] at h
    subst h
    rfl
  | succ width ih =>
    have hlow : n / 10 < 10 ^ width := by
      rw [pow_succ] at h
      exact Nat.div_lt_of_lt_mul (by omega)
    rw [digits, List.foldl_append, ih hlow]
    simp only [List.foldl_cons, List.foldl_nil, digitChar_toNat (Nat.mod_lt n (by norm_num))]
    omega

/-- **A number that fits is read back** from its digits. -/
theorem readDigits_digits {width n : ℕ} (h : n < 10 ^ width) :
    readDigits (digits width n) = some n := by
  rw [readDigits, if_pos (digits_all width n), foldl_digits h]

/-- The months and days of the calendar have two digits. -/
theorem civilOfDate_bounds (d : ℤ) :
    1 ≤ (civilOfDate d).month ∧ (civilOfDate d).month ≤ 12
      ∧ 1 ≤ (civilOfDate d).day ∧ (civilOfDate d).day ≤ 31 := by
  have h0 := Int.emod_nonneg (d + 719468) (by norm_num : (146097 : ℤ) ≠ 0)
  have h1 := Int.emod_lt_of_pos (d + 719468) (by norm_num : (0 : ℤ) < 146097)
  have hday := dayOfYear_bounds h0 h1
  unfold civilOfDate civilOfMarch
  dsimp only
  split_ifs <;> omega

/-- **A date of a four-digit year is read back** from its text. -/
theorem readDateText_dateText {d : ℤ} (h : 1 ≤ (civilOfDate d).year)
    (h' : (civilOfDate d).year ≤ 9999) : readDateText (dateText d) = some d := by
  obtain ⟨hm, hm', hd, hd'⟩ := civilOfDate_bounds d
  have hback := dateOfCivil_civilOfDate d
  unfold dateText readDateText
  generalize hc : civilOfDate d = c at *
  obtain ⟨year, month, day⟩ := c
  dsimp only at *
  have hy4 := digits_length 4 year.toNat
  have hm2 := digits_length 2 month.toNat
  have hd2 := digits_length 2 day.toNat
  rw [String.toList_ofList]
  have hyear : (digits 4 year.toNat ++ '-' :: digits 2 month.toNat ++ '-' :: digits 2 day.toNat).take 4
      = digits 4 year.toNat := by
    rw [List.append_assoc, List.take_left' hy4]
  have hmonth : ((digits 4 year.toNat ++ '-' :: digits 2 month.toNat
      ++ '-' :: digits 2 day.toNat).drop 5).take 2 = digits 2 month.toNat := by
    rw [List.append_assoc, List.drop_append, List.drop_eq_nil_of_le (by omega), hy4]
    exact List.take_left' hm2
  have hdays : (digits 4 year.toNat ++ '-' :: digits 2 month.toNat
      ++ '-' :: digits 2 day.toNat).drop 8 = digits 2 day.toNat := by
    rw [List.append_assoc, List.drop_append, List.drop_eq_nil_of_le (by omega), hy4]
    show ([] ++ (digits 2 month.toNat ++ '-' :: digits 2 day.toNat).drop 3) = _
    rw [List.drop_append, List.drop_eq_nil_of_le (by omega), hm2]
    rfl
  rw [hyear, hmonth, hdays, readDigits_digits (by omega), readDigits_digits (by omega),
    readDigits_digits (by omega)]
  have hcast : (⟨(year.toNat : ℤ), (month.toNat : ℤ), (day.toNat : ℤ)⟩ : CivilDate)
      = ⟨year, month, day⟩ := by
    rw [Int.toNat_of_nonneg (by omega), Int.toNat_of_nonneg (by omega), Int.toNat_of_nonneg (by omega)]
  dsimp only
  rw [hcast, hback, hc, if_pos]
  refine ⟨by simp [hy4, hm2, hd2], ?_, ?_, by omega, rfl⟩
  · simp [hy4]
  · simp [hy4, hm2]

/-! ## Instants as text -/

/-- The microseconds of a day. -/
def dayMicroseconds : ℤ := 86400000000

/-- The day of an instant. -/
def dateOfInstant (t : Timestamp) : Date := t / dayMicroseconds

/-- The hours, minutes, seconds and microseconds of an instant in its day. -/
def clockOfInstant (t : Timestamp) : ℕ × ℕ × ℕ × ℕ :=
  let micros := (t % dayMicroseconds).toNat
  (micros / 3600000000, micros / 60000000 % 60, micros / 1000000 % 60, micros % 1000000)

/-- `value.astimezone(UTC).isoformat(timespec="microseconds")` with `Z` for the
offset. -/
def instantText (t : Timestamp) : String :=
  let (hour, minute, second, micro) := clockOfInstant t
  dateText (dateOfInstant t) ++ String.ofList
    ('T' :: digits 2 hour ++ ':' :: digits 2 minute ++ ':' :: digits 2 second ++ '.' :: digits 6 micro
      ++ ['Z'])

/-- `value.astimezone(UTC).strftime("%Y%m%dT%H%M%SZ")`. -/
def buildIdText (t : Timestamp) : String :=
  let c := civilOfDate (dateOfInstant t)
  let (hour, minute, second, _) := clockOfInstant t
  String.ofList (digits 4 c.year.toNat ++ digits 2 c.month.toNat ++ digits 2 c.day.toNat
    ++ 'T' :: digits 2 hour ++ digits 2 minute ++ digits 2 second ++ ['Z'])

/-- Whether a text has the shape of a build identifier: `^\d{8}T\d{6}Z$`. -/
def hasBuildIdShape (text : String) : Bool :=
  let chars := text.toList
  chars.length == 16 && (chars.take 8).all Char.isDigit && chars[8]? == some 'T'
    && ((chars.drop 9).take 6).all Char.isDigit && chars[15]? == some 'Z'

/-- Whether a text is the identifier of a second: `strptime` with
`%Y%m%dT%H%M%SZ` reads it and `strftime` gives it back. -/
def isBuildId (text : String) : Bool :=
  let chars := text.toList
  match readDigits (chars.take 4), readDigits ((chars.drop 4).take 2),
    readDigits ((chars.drop 6).take 2), readDigits ((chars.drop 9).take 2),
    readDigits ((chars.drop 11).take 2), readDigits ((chars.drop 13).take 2) with
  | some year, some month, some day, some hour, some minute, some second =>
    let c : CivilDate := ⟨year, month, day⟩
    hasBuildIdShape text && decide (1 ≤ year) && decide (civilOfDate (dateOfCivil c) = c)
      && decide (hour < 24) && decide (minute < 60) && decide (second < 60)
  | _, _, _, _, _, _ => false

/-- An identifier of a second has the shape. -/
theorem hasBuildIdShape_of_isBuildId {text : String} (h : isBuildId text = true) :
    hasBuildIdShape text = true := by
  unfold isBuildId at h
  dsimp only at h
  split at h
  · simp only [Bool.and_eq_true] at h
    exact h.1.1.1.1.1
  · cases h
