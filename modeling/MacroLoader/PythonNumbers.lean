import MacroLoader.IngestionRecords

/-!
# Dates and numbers that are read from text

What a provider delivers is text, and which dates and numbers it has is for
`date.fromisoformat` and `float` to say. Both accept more than one would write: a date
may be given by its week, with dashes or without, and be followed by what is not a part
of it, and a number may have digits of any script, underscores between them, and blanks
around it. Where a number stands for a date, it is the text of the number that is read.

A number that is read is rational; `float` is the double nearest to it, and of two that
are as near the even one. From `2 ^ 1024 - 2 ^ 970` on this is an infinity
(`Float64.isFinite_nearest_iff`).
-/

/-! ## Dates -/

/-- The date of a day that exists. -/
def dateOf? (year month day : ℕ) : Option Date :=
  let c : CivilDate := ⟨year, month, day⟩
  if 1 ≤ year ∧ civilOfDate (dateOfCivil c) = c then some (dateOfCivil c) else none

/-- `date.weekday()`, from Monday on. -/
def weekday (d : Date) : ℤ := (d + 3) % 7

/-- The Monday of the first week of an ISO year, which is the one with January 4th in it. -/
def isoYearStart (year : ℕ) : Date :=
  let d := dateOfCivil ⟨year, 1, 4⟩
  d - weekday d

/-- `date.fromisocalendar(year, week, day)` of a day that exists. -/
def dateOfWeek? (year week day : ℕ) : Option Date :=
  let d := isoYearStart year + (7 * (week - 1) + (day - 1))
  if 1 ≤ year ∧ 1 ≤ week ∧ isoYearStart year + 7 * (week - 1) < isoYearStart (year + 1)
      ∧ 1 ≤ day ∧ day ≤ 7 ∧ dateMin ≤ d ∧ d ≤ dateMax then some d else none

/-- `parse_digits`: the number of some digits at the beginning, and what follows them. -/
def parseDigits (count : ℕ) (text : List Char) : Option (ℕ × List Char) :=
  if count ≤ text.length then (readDigits (text.take count)).map (·, text.drop count) else none

/-- The rest of a text after a dash, if there has to be one. -/
def parseSeparator (usesSeparator : Bool) (text : List Char) : Option (List Char) :=
  if usesSeparator then (if text.head? = some '-' then some text.tail else none) else some text

/-- `parse_isoformat_date`: a day of a month or of a week. What follows the day is not
looked at. -/
def parseIsoformatDate (text : List Char) : Option Date := do
  let (year, rest) ← parseDigits 4 text
  let usesSeparator := rest.head? == some '-'
  let rest := if usesSeparator then rest.tail else rest
  if rest.head? = some 'W' then do
    let (week, rest) ← parseDigits 2 rest.tail
    -- a week alone is its Monday
    if rest = [] then dateOfWeek? year week 1
    else do
      let (day, _) ← parseDigits 1 (← parseSeparator usesSeparator rest)
      dateOfWeek? year week day
  else do
    let (month, rest) ← parseDigits 2 rest
    let (day, _) ← parseDigits 2 (← parseSeparator usesSeparator rest)
    dateOf? year month day

/-- **`date.fromisoformat`** of a text of seven, eight or ten bytes. All that is read of it
is ASCII, so that the bytes are read as characters. -/
def fromIsoFormat (text : String) : Option Date :=
  if text.utf8ByteSize ∈ [7, 8, 10] then parseIsoformatDate text.toList else none

example : ["2026-08-19", "20260819", "2026-W34-3", "2026W343", "2026-W34", "2026W34"].map fromIsoFormat
    = [some 20684, some 20684, some 20684, some 20684, some 20682, some 20682] := by
  decide +kernel

example : ["20260819xx", "20260819é", "2026W345-3", "2026W343xx", "2026W34x", "2026W340xx",
      "2026-W54-1", "2026-02-29", "2026-8-19", "2026081", "20260819x"].map fromIsoFormat
    = [some 20684, some 20684, some 20686, some 20684, none, none, none, none, none, none, none] := by
  decide +kernel

/-! ## Doubles -/

/-- A number that is not negative, to the nearest integer; to the even one of two. -/
def roundHalfEven (x : ℚ) : ℕ :=
  let n := ⌊x⌋₊
  if x - n < 1 / 2 ∨ (x - n = 1 / 2 ∧ n % 2 = 0) then n else n + 1

theorem le_roundHalfEven {x : ℚ} {n : ℕ} (h : n ≤ x) : n ≤ roundHalfEven x := by
  have hfloor : n ≤ ⌊x⌋₊ := Nat.le_floor h
  unfold roundHalfEven
  dsimp only
  split_ifs <;> omega

theorem roundHalfEven_le {x : ℚ} {n : ℕ} (h : x ≤ n) : roundHalfEven x ≤ n := by
  rcases eq_or_lt_of_le h with rfl | hlt
  · simp [roundHalfEven]
  · have hfloor : ⌊x⌋₊ ≤ n := Nat.floor_le_of_le h
    by_cases hx : 0 ≤ x
    · have hfloor' : ⌊x⌋₊ < n := (Nat.floor_lt hx).mpr hlt
      unfold roundHalfEven
      dsimp only
      split_ifs <;> omega
    · have hzero : ⌊x⌋₊ = 0 := Nat.floor_of_nonpos (not_le.mp hx).le
      have hhalf : x - (0 : ℕ) < 1 / 2 := by push_cast; linarith
      simp only [roundHalfEven, hzero]
      rw [if_pos (.inl hhalf)]
      exact Nat.zero_le n

/-- A number is rounded to less than an even one if it is below the half before it. -/
theorem roundHalfEven_lt_iff {x : ℚ} (hx : 0 ≤ x) {n : ℕ} :
    roundHalfEven x < 2 * n ↔ x < (2 * n : ℕ) - 1 / 2 := by
  have hfloor : (⌊x⌋₊ : ℚ) ≤ x := Nat.floor_le hx
  have hnext : x < ⌊x⌋₊ + 1 := Nat.lt_floor_add_one x
  unfold roundHalfEven
  dsimp only
  generalize ⌊x⌋₊ = k at hfloor hnext ⊢
  -- what is between the two bounds has the odd number before the even one as its floor
  rcases lt_trichotomy (k + 1) (2 * n) with hk | hk | hk
  · refine iff_of_true (by split_ifs <;> omega) ?_
    have hcast : (k : ℚ) + 2 ≤ (2 * n : ℕ) := by exact_mod_cast hk
    linarith
  · have hodd : k % 2 ≠ 0 := by omega
    have hcast : (k : ℚ) + 1 = (2 * n : ℕ) := by exact_mod_cast hk
    rw [← hcast]
    split_ifs with hhalf
    · refine iff_of_true (by omega) ?_
      rcases hhalf with hbelow | ⟨-, heven⟩
      · linarith
      · exact absurd heven hodd
    · refine iff_of_false (by omega) ?_
      push Not at hhalf
      linarith [hhalf.1]
  · refine iff_of_false (by split_ifs <;> omega) ?_
    have hcast : ((2 * n : ℕ) : ℚ) ≤ k := by exact_mod_cast Nat.lt_succ_iff.mp hk
    linarith

/-- The exponent of the last place of a double near a positive number. -/
def lastPlace (q : ℚ) : ℤ := max (Int.log 2 q - 52) (-1074)

/-- The bits of the double nearest to a number that is not negative. A significand that is
rounded up to the next power of two carries into the exponent. -/
def magnitudeBits (q : ℚ) : ℕ :=
  if q = 0 then 0
  else min ((lastPlace q + 1074).toNat * 2 ^ 52 + roundHalfEven (q / 2 ^ lastPlace q)) (2047 * 2 ^ 52)

namespace Float64

/-- The double nearest to a number of which the sign and the magnitude are given. -/
def nearest (negative : Bool) (q : ℚ) : Float64 :=
  ⟨BitVec.ofNat 64 ((if negative then 2 ^ 63 else 0) + magnitudeBits q)⟩

/-- An infinity. -/
def infinite (negative : Bool) : Float64 :=
  ⟨BitVec.ofNat 64 ((if negative then 2 ^ 63 else 0) + 2047 * 2 ^ 52)⟩

/-- `math.nan`. -/
def quietNaN : Float64 := ⟨0x7FF8000000000000⟩

/-- From here on a number is nearer to an infinity than to any finite double. -/
def overflowThreshold : ℚ := 2 ^ 1024 - 2 ^ 970

example : [nearest false 1, nearest true 0, nearest false (1 / 10), nearest false (5 / 2 ^ 1076),
      nearest false (10 ^ 400)]
    = [one, negZero, ⟨0x3FB999999999999A⟩, ⟨1⟩, infinite false] := by
  decide +kernel

theorem magnitudeBits_le (q : ℚ) : magnitudeBits q ≤ 2047 * 2 ^ 52 := by
  unfold magnitudeBits
  split_ifs
  · exact Nat.zero_le _
  · exact min_le_right _ _

/-- A double is finite if its magnitude is below the bits of the infinity. -/
theorem isFinite_nearest (negative : Bool) (q : ℚ) :
    (nearest negative q).isFinite = true ↔ magnitudeBits q < 2047 * 2 ^ 52 := by
  have hle := magnitudeBits_le q
  have hexponent : (nearest negative q).exponent.toNat = magnitudeBits q / 2 ^ 52 := by
    rw [exponent, nearest, BitVec.extractLsb'_toNat, BitVec.toNat_ofNat, Nat.shiftRight_eq_div_pow]
    cases negative
    · simp only [Bool.false_eq_true, if_false]
      omega
    · simp only [if_true]
      omega
  rw [isFinite, bne_iff_ne, ne_eq, ← BitVec.toNat_inj, hexponent]
  show ¬ magnitudeBits q / 2 ^ 52 = 2047 ↔ _
  omega

/-- **A number has a finite double** if and only if it is below the threshold. -/
theorem isFinite_nearest_iff (negative : Bool) {q : ℚ} (hq : 0 ≤ q) :
    (nearest negative q).isFinite = true ↔ q < overflowThreshold := by
  have hthreshold : overflowThreshold = (2 ^ 54 - 1) * 2 ^ 970 := by
    rw [overflowThreshold, sub_mul, one_mul, ← pow_add]
  have hunit : (0 : ℚ) < 2 ^ 970 := pow_pos (by norm_num) 970
  rw [isFinite_nearest, hthreshold, magnitudeBits]
  split_ifs with hzero
  · rw [hzero]
    exact iff_of_true (by norm_num) (mul_pos (by norm_num) hunit)
  have hpos : 0 < q := lt_of_le_of_ne hq (Ne.symm hzero)
  have hlow : (2 : ℚ) ^ Int.log 2 q ≤ q := by
    exact_mod_cast Int.zpow_log_le_self (by norm_num : 1 < 2) hpos
  have hhigh : q < (2 : ℚ) ^ (Int.log 2 q + 1) := by
    exact_mod_cast Int.lt_zpow_succ_log_self (by norm_num : 1 < 2) q
  have hpower (n : ℕ) : (2 : ℚ) ^ ((n : ℤ) + 970) = 2 ^ n * 2 ^ 970 := by
    rw [zpow_add₀ (by norm_num), zpow_natCast]
    rfl
  rw [lastPlace]
  generalize Int.log 2 q = l at hlow hhigh ⊢
  have hplace (e : ℤ) : (0 : ℚ) < 2 ^ e := zpow_pos (by norm_num) e
  rcases lt_trichotomy l 1023 with hl | rfl | hl
  · -- the significand has at most 53 bits, and the exponent is one of a finite double
    have hbits : roundHalfEven (q / 2 ^ max (l - 52) (-1074)) ≤ 2 ^ 53 := by
      refine roundHalfEven_le ((div_le_iff₀ (hplace _)).mpr (hhigh.le.trans ?_))
      rw [Nat.cast_pow, ← zpow_natCast, Nat.cast_ofNat, ← zpow_add₀ (by norm_num)]
      exact zpow_le_zpow_right₀ (by norm_num) (by push_cast; omega)
    have hbelow : q < (2 ^ 54 - 1) * 2 ^ 970 := by
      have htop : (2 : ℚ) ^ (l + 1) ≤ 2 ^ (((53 : ℕ) : ℤ) + 970) :=
        zpow_le_zpow_right₀ (by norm_num) (by push_cast; omega)
      refine hhigh.trans_le (htop.trans ?_)
      rw [hpower]
      exact mul_le_mul_of_nonneg_right (by norm_num) hunit.le
    refine iff_of_true (lt_of_le_of_lt (min_le_left _ _) ?_) hbelow
    have hexponent : (max (l - 52) (-1074) + 1074).toNat ≤ 2044 := by omega
    omega
  · -- the last exponent: what is rounded up to the next power of two is infinite
    have hmax : max ((1023 : ℤ) - 52) (-1074) = 971 := by norm_num
    have hround := @roundHalfEven_lt_iff (q / 2 ^ (971 : ℤ)) (by positivity) (2 ^ 52)
    have hbelow : q / 2 ^ (971 : ℤ) < (2 * 2 ^ 52 : ℕ) - 1 / 2 ↔ q < (2 ^ 54 - 1) * 2 ^ 970 := by
      have htop : (2 : ℚ) ^ (971 : ℤ) = 2 * 2 ^ 970 := by
        rw [← pow_succ']
        rfl
      rw [div_lt_iff₀ (hplace _), htop, ← mul_assoc]
      norm_num
    rw [hmax, ← hbelow, ← hround]
    have hexponent : ((971 : ℤ) + 1074).toNat = 2045 := rfl
    rw [hexponent]
    omega
  · have hbits : 2 ^ 52 ≤ roundHalfEven (q / 2 ^ max (l - 52) (-1074)) := by
      refine le_roundHalfEven ((le_div_iff₀ (hplace _)).mpr (le_trans ?_ hlow))
      rw [Nat.cast_pow, ← zpow_natCast, Nat.cast_ofNat, ← zpow_add₀ (by norm_num)]
      exact zpow_le_zpow_right₀ (by norm_num) (by push_cast; omega)
    have habove : ¬ q < (2 ^ 54 - 1) * 2 ^ 970 := by
      have hbottom : (2 : ℚ) ^ (((54 : ℕ) : ℤ) + 970) ≤ 2 ^ l :=
        zpow_le_zpow_right₀ (by norm_num) (by push_cast; omega)
      refine not_lt.mpr (le_trans ?_ (hbottom.trans hlow))
      rw [hpower]
      exact mul_le_mul_of_nonneg_right (by norm_num) hunit.le
    refine iff_of_false (not_lt.mpr (le_min ?_ le_rfl)) habove
    have hexponent : 2046 ≤ (max (l - 52) (-1074) + 1074).toNat := by omega
    omega

end Float64

/-! ## The text of a double -/

namespace Float64

/-- The magnitude of a finite double. -/
def magnitude (x : Float64) : ℚ :=
  if x.exponent = 0 then x.fraction.toNat * 2 ^ (-1074 : ℤ)
  else (2 ^ 52 + x.fraction.toNat) * 2 ^ ((x.exponent.toNat : ℤ) - 1075)

/-- A positive number to some significant digits: a number of these digits, and the place
of the last. -/
def toSignificant (digits : ℕ) (q : ℚ) : ℕ × ℤ :=
  let place := Int.log 10 q + 1 - digits
  (roundHalfEven (q / 10 ^ place), place)

/-- The fewest significant digits from which a double is read back; seventeen are always
enough. -/
def shortestDecimal (x : Float64) : ℕ × ℤ :=
  (((List.range 17).map (fun k => toSignificant (k + 1) x.magnitude)).find?
    (fun d => decide (nearest x.sign (d.1 * 10 ^ d.2) = x))).getD (toSignificant 17 x.magnitude)

/-- The exponent of a number, with a sign and two digits at least. -/
def exponentText (exponent : ℤ) : List Char :=
  let text := Nat.toDigits 10 exponent.natAbs
  (if exponent < 0 then '-' else '+') :: (if text.length < 2 then '0' :: text else text)

/-- Digits with a point after some of them, which may be before the first or after the last;
far off it is written as an exponent. -/
def pointText (digits : List Char) (point : ℤ) : List Char :=
  if point ≤ -4 ∨ 16 < point then
    digits.take 1 ++ (if digits.length = 1 then [] else '.' :: digits.drop 1)
      ++ 'e' :: exponentText (point - 1)
  else if point ≤ 0 then '0' :: '.' :: List.replicate (-point).toNat '0' ++ digits
  else if digits.length ≤ point then
    digits ++ List.replicate (point.toNat - digits.length) '0' ++ ['.', '0']
  else digits.take point.toNat ++ '.' :: digits.drop point.toNat

/-- **`repr(x)`**. -/
def repr (x : Float64) : String :=
  if x.isNaN then "nan"
  else
    let (n, place) := x.shortestDecimal
    let digits := Nat.toDigits 10 n
    let text :=
      if x.isFinite = false then ['i', 'n', 'f']
      else if x.isZero then ['0', '.', '0']
      else pointText (digits.rdropWhile (· == '0')) (digits.length + place)
    String.ofList (if x.sign then '-' :: text else text)

example : [one, negZero, nearest false (1 / 10), nearest false 20260819, nearest false (10 ^ 22),
      nearest true (5 / 10 ^ 324), nearest false (123456789012345678), nearest false (1 / 3),
      nearest false (1 / 10000), nearest false (1 / 100000), nearest false (2 ^ 53), infinite true,
      quietNaN].map repr
    = ["1.0", "-0.0", "0.1", "20260819.0", "1e+22", "-5e-324", "1.2345678901234568e+17",
      "0.3333333333333333", "0.0001", "1e-05", "9007199254740992.0", "-inf", "nan"] := by
  decide +kernel

end Float64

/-! ## Numbers as text -/

/-- A number that `float` reads, before it is rounded. -/
inductive Numeral
  | finite (negative : Bool) (magnitude : ℚ)
  | infinite (negative : Bool)
  | nan
  deriving DecidableEq

/-- The zeros of the scripts that have decimal digits. The other nine digits follow them. -/
def digitZeros : List ℕ :=
  [0x30, 0x660, 0x6F0, 0x7C0, 0x966, 0x9E6, 0xA66, 0xAE6, 0xB66, 0xBE6, 0xC66, 0xCE6, 0xD66, 0xDE6,
    0xE50, 0xED0, 0xF20, 0x1040, 0x1090, 0x17E0, 0x1810, 0x1946, 0x19D0, 0x1A80, 0x1A90, 0x1B50,
    0x1BB0, 0x1C40, 0x1C50, 0xA620, 0xA8D0, 0xA900, 0xA9D0, 0xA9F0, 0xAA50, 0xABF0, 0xFF10, 0x104A0,
    0x10D30, 0x11066, 0x110F0, 0x11136, 0x111D0, 0x112F0, 0x11450, 0x114D0, 0x11650, 0x116C0,
    0x11730, 0x118E0, 0x11950, 0x11C50, 0x11D50, 0x11DA0, 0x11F50, 0x16A60, 0x16AC0, 0x16B50,
    0x1D7CE, 0x1D7D8, 0x1D7E2, 0x1D7EC, 0x1D7F6, 0x1E140, 0x1E2F0, 0x1E4F0, 0x1E950, 0x1FBF0]

/-- `unicodedata.decimal(c)`. -/
def decimalDigit (c : Char) : Option ℕ :=
  (digitZeros.find? (fun z => decide (z ≤ c.toNat ∧ c.toNat < z + 10))).map (c.toNat - ·)

/-- A character as `float` sees it: digits and blanks of any script are those of ASCII. -/
def asciiChar (c : Char) : Char :=
  if c.toNat < 127 then c
  else if isPySpace c then ' '
  else match decimalDigit c with
    | some n => Char.ofNat (48 + n)
    | none => '?'

/-- A text without the blanks at its ends. -/
def stripChars (isSpace : Char → Bool) (text : List Char) : List Char :=
  (text.dropWhile isSpace).rdropWhile isSpace

/-- A blank of ASCII. The separators from 28 on are blank for `strip`, but not for `float`. -/
def isAsciiSpace (c : Char) : Bool := c == ' ' || decide (9 ≤ c.toNat ∧ c.toNat ≤ 13)

/-- `text.strip()`. -/
def pyStrip (text : String) : String := String.ofList (stripChars isPySpace text.toList)

/-- The characters without their underscores, each of which has to be between two digits. -/
def dropUnderscores (afterDigit : Bool) : List Char → Option (List Char)
  | [] => some []
  | c :: rest =>
    if c = '_' then
      if afterDigit && rest.head?.any Char.isDigit then dropUnderscores false rest else none
    else (dropUnderscores c.isDigit rest).map (c :: ·)

/-- Digits, of which there is at least one. -/
def readSomeDigits (text : List Char) : Option ℕ := if text = [] then none else readDigits text

/-- A sign, and what follows it. -/
def readSign : List Char → Bool × List Char
  | '-' :: rest => (true, rest)
  | '+' :: rest => (false, rest)
  | rest => (false, rest)

/-- The exponent of a number, from its letter on. -/
def readExponent : List Char → Option ℤ
  | [] => some 0
  | _ :: rest => do
    let (negative, text) := readSign rest
    let n ← readSomeDigits text
    return if negative then -n else n

/-- A number without its sign: digits with a point among them, and an exponent. -/
def readMagnitude (text : List Char) : Option ℚ :=
  let isMantissa := fun c : Char => c != 'e' && c != 'E'
  let mantissa := text.takeWhile isMantissa
  let whole := mantissa.takeWhile (· != '.')
  let fraction := (mantissa.dropWhile (· != '.')).drop 1
  do
    let n ← readSomeDigits (whole ++ fraction)
    let exponent ← readExponent (text.dropWhile isMantissa)
    return n * 10 ^ (exponent - fraction.length)

/-- **The number that a text stands for**, if `float` accepts it. -/
def readNumeral (text : String) : Option Numeral := do
  let chars ← dropUnderscores false (stripChars isAsciiSpace (text.toList.map asciiChar))
  let (negative, rest) := readSign chars
  let word := String.ofList (rest.map Char.toLower)
  if word = "inf" ∨ word = "infinity" then some (.infinite negative)
  else if word = "nan" then some .nan
  else (readMagnitude rest).map (.finite negative)

/-- The double nearest to a number. -/
def Numeral.toFloat : Numeral → Float64
  | .finite negative magnitude => .nearest negative magnitude
  | .infinite negative => .infinite negative
  | .nan => .quietNaN

example : ["4.25", " -1_0.5e-1\n", "٤٫٢", "٤.٢", ".5", "5.", ".", "", "1__0", "1e", "-Infinity", "NAN",
      "0x10"].map readNumeral
    = [some (.finite false (17 / 4)), some (.finite true (21 / 20)), none,
      some (.finite false (21 / 5)), some (.finite false (1 / 2)), some (.finite false 5), none, none,
      none, none, some (.infinite true), some .nan, none] := by
  decide +kernel

theorem readMagnitude_nonneg {text : List Char} {q : ℚ} (h : readMagnitude text = some q) : 0 ≤ q := by
  unfold readMagnitude at h
  simp only [Option.bind_eq_bind, Option.bind_eq_some_iff, Option.pure_def, Option.some.injEq] at h
  obtain ⟨n, -, exponent, -, rfl⟩ := h
  positivity

theorem readNumeral_nonneg {text : String} {negative : Bool} {q : ℚ}
    (h : readNumeral text = some (.finite negative q)) : 0 ≤ q := by
  unfold readNumeral at h
  obtain ⟨chars, -, h⟩ := Option.bind_eq_some_iff.mp h
  dsimp only at h
  split_ifs at h
  · cases h
  · cases h
  · obtain ⟨magnitude, hmagnitude, hq⟩ := Option.map_eq_some_iff.mp h
    obtain ⟨-, rfl⟩ := Numeral.finite.inj hq
    exact readMagnitude_nonneg hmagnitude

theorem isFinite_infinite (negative : Bool) : (Float64.infinite negative).isFinite = false := by
  cases negative <;> decide

/-- **Whether the double of a number is finite**: its magnitude is below the threshold. -/
theorem Numeral.isFinite_toFloat_iff {text : String} {numeral : Numeral}
    (h : readNumeral text = some numeral) : numeral.toFloat.isFinite = true
      ↔ ∃ negative q, numeral = .finite negative q ∧ q < Float64.overflowThreshold := by
  cases numeral with
  | finite negative q =>
    rw [Numeral.toFloat, Float64.isFinite_nearest_iff negative (readNumeral_nonneg h)]
    simp
  | infinite negative => simp [Numeral.toFloat, isFinite_infinite]
  | nan =>
    have hnan : Float64.quietNaN.isFinite = false := by decide
    simp [Numeral.toFloat, hnan]
