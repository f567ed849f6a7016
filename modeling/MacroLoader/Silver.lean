import MacroLoader.Calendar

/-!
# Silver rows

A Silver row is one observation of one series in the schema that all series
have in common. The schema admits null in every column, and nothing else is
known of a frame that is read: that it belongs to one series, that its values
are finite and that its dates are distinct is checked by whoever uses it.
-/

/-! ## Dates of Python -/

/-- `date.min`. -/
def dateMin : Date := -719162

/-- `date.max`. -/
def dateMax : Date := 2932896

/-- A stored date as a Python `date`, which has four-digit years only. -/
def loadDate (d : Date) : Except PyError Date :=
  if dateMin ≤ d ∧ d ≤ dateMax then .ok d else .error (.valueError "date value out of range")

/-- A stored date that may be null. -/
def loadDate? : Option Date → Except PyError (Option Date)
  | none => .ok none
  | some d => (loadDate d).map some

theorem loadDate_eq_ok {d d' : Date} (h : loadDate d = .ok d') :
    d' = d ∧ dateMin ≤ d ∧ d ≤ dateMax := by
  unfold loadDate at h
  split_ifs at h with hrange
  exact ⟨(Except.ok.inj h).symm, hrange⟩

theorem loadDate?_eq_ok {d d' : Option Date} (h : loadDate? d = .ok d') :
    d' = d ∧ ∀ date ∈ d, dateMin ≤ date ∧ date ≤ dateMax := by
  cases d with
  | none =>
    cases h
    exact ⟨rfl, fun _ h => (nomatch h)⟩
  | some d =>
    cases hd : loadDate d with
    | error e =>
      rw [loadDate?, hd] at h
      cases h
    | ok loaded =>
      obtain ⟨rfl, hrange⟩ := loadDate_eq_ok hd
      rw [loadDate?, hd] at h
      cases h
      exact ⟨rfl, fun _ h => Option.some.inj h ▸ hrange⟩

theorem loadDate?_of_range {d : Option Date} (h : ∀ date ∈ d, dateMin ≤ date ∧ date ≤ dateMax) :
    loadDate? d = .ok d := by
  cases d with
  | none => rfl
  | some date =>
    rw [loadDate?, loadDate, if_pos (h date rfl)]
    rfl

theorem loadDate_of_range {d : Date} (h : dateMin ≤ d ∧ d ≤ dateMax) : loadDate d = .ok d :=
  if_pos h

/-- **The years of Python**: a date that Python can hold has a year of at most four
digits. -/
theorem year_bounds {d : ℤ} (h : dateMin ≤ d) (h' : d ≤ dateMax) :
    1 ≤ (civilOfDate d).year ∧ (civilOfDate d).year ≤ 9999 := by
  have hmin : (-719162 : ℤ) ≤ d := h
  have hmax : d ≤ (2932896 : ℤ) := h'
  have h0 := Int.emod_nonneg (d + 719468) (by norm_num : (146097 : ℤ) ≠ 0)
  have h1 := Int.emod_lt_of_pos (d + 719468) (by norm_num : (0 : ℤ) < 146097)
  have hsplit := Int.emod_add_mul_ediv (d + 719468) 146097
  have hyear := yearOfEra_bounds h0 h1
  have hday := dayOfYear_bounds h0 h1
  -- the first year is the one that begins in March before the first January, and the last
  -- day is in the year of an era that begins in March before the last December
  have hbefore : daysBeforeYear (yearOfEra ((d + 719468) % 146097))
      = 365 * yearOfEra ((d + 719468) % 146097) + yearOfEra ((d + 719468) % 146097) / 4
        - yearOfEra ((d + 719468) % 146097) / 100 := rfl
  unfold civilOfDate civilOfMarch
  dsimp only
  generalize yearOfEra ((d + 719468) % 146097) = year at *
  generalize daysBeforeYear year = before at *
  constructor <;> split_ifs <;> omega

/-! ## Rows -/

/-- **A row of Silver.** -/
structure SilverRow where
  observationDate : Option Date
  seriesId : Option String
  value : Option Float64
  bar : OhlcField → Option Float64
  unit : Option String
  provider : Option String
  sourceId : Option String
  fetchedAtUtc : Option Timestamp

/-- A Silver frame as it is read: its rows, and whether its schema is
`SILVER_SCHEMA`. -/
structure SilverFrame where
  hasSilverSchema : Bool
  rows : List SilverRow

/-- The order of dates, null before all others. -/
def dateLE : Option Date → Option Date → Bool
  | none, _ => true
  | some _, none => false
  | some a, some b => decide (a ≤ b)

/-- `frame.sort("observation_date")`. -/
def SilverFrame.sorted (frame : SilverFrame) : List SilverRow :=
  frame.rows.insertionSort (fun a b => dateLE a.observationDate b.observationDate)
