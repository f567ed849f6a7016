import MacroLoader.Registry

/-!
# Python values at the boundaries

Values that cross a boundary of the program – into a file, into a database,
into a digest – are the ones for which the representation matters. A double is
its 64 bits, so that the two zeros are two doubles and what makes them one
again is visible; a date-time knows whether it has a time zone; and an error
is its class with its message.
-/

/-- The classes of the errors that are raised or caught by class. -/
inductive ErrorKind
  | osError | typeError | valueError | lookupError | structError | databaseError
  | goldSyncSourceError | goldSyncCompatibilityError | goldSyncVerificationError
  | postgresGoldRepositoryError
  | bronzeUpdateError
  | overflowError | assertionError
  | other (className : String)
  deriving DecidableEq, Repr

/-- A raised error. -/
structure PyError where
  kind : ErrorKind
  message : String
  deriving DecidableEq, Repr

namespace PyError

abbrev osError (message : String) : PyError := ⟨.osError, message⟩
abbrev typeError (message : String) : PyError := ⟨.typeError, message⟩
abbrev valueError (message : String) : PyError := ⟨.valueError, message⟩
abbrev lookupError (message : String) : PyError := ⟨.lookupError, message⟩
abbrev overflowError (message : String) : PyError := ⟨.overflowError, message⟩
abbrev assertionError (message : String) : PyError := ⟨.assertionError, message⟩

end PyError

/-- A sequence of computations succeeds when both do. -/
theorem bind_eq_ok {ε α β : Type} {x : Except ε α} {f : α → Except ε β} {b : β} :
    (x >>= f) = .ok b ↔ ∃ a, x = .ok a ∧ f a = .ok b := by
  cases x <;> simp [bind, Except.bind]

/-- A loop of computations succeeds when each of them does. -/
theorem forM_eq_ok {ε α : Type} {f : α → Except ε Unit} {l : List α} {u : Unit} :
    l.forM f = .ok u ↔ ∀ a ∈ l, f a = .ok () := by
  induction l with
  | nil => exact ⟨fun _ _ h => (nomatch h), fun _ => rfl⟩
  | cons a l ih =>
    show (f a >>= fun _ => l.forM f) = .ok u ↔ _
    rw [bind_eq_ok, List.forall_mem_cons, ← ih]
    exact ⟨fun ⟨_, ha, hl⟩ => ⟨ha, hl⟩, fun ⟨ha, hl⟩ => ⟨_, ha, hl⟩⟩

section Lists

variable {α β : Type} {R : α → β → Prop} {l : List α} {l' : List β}

theorem forall₂_exists_right (h : List.Forall₂ R l l') {a : α} (ha : a ∈ l) :
    ∃ b ∈ l', R a b := by
  induction h with
  | nil => cases ha
  | cons hab _ ih =>
    rcases List.mem_cons.mp ha with rfl | ha
    · exact ⟨_, List.mem_cons_self, hab⟩
    · obtain ⟨b, hb, hr⟩ := ih ha
      exact ⟨b, List.mem_cons_of_mem _ hb, hr⟩

theorem forall₂_exists_left (h : List.Forall₂ R l l') {b : β} (hb : b ∈ l') :
    ∃ a ∈ l, R a b := by
  obtain ⟨a, ha, hr⟩ := forall₂_exists_right (List.Forall₂.flip h) hb
  exact ⟨a, ha, hr⟩

theorem forall₂_map {f : α → β} (h : ∀ a ∈ l, R a (f a)) : List.Forall₂ R l (l.map f) :=
  List.forall₂_map_right_iff.mpr (List.forall₂_same.mpr h)

/-- A loop that succeeds yields the result of each step. -/
theorem forall₂_of_mapM_eq_ok {ε : Type} {f : α → Except ε β} (h : l.mapM f = .ok l') :
    List.Forall₂ (fun a b => f a = .ok b) l l' := by
  induction l generalizing l' with
  | nil =>
    rw [List.mapM_nil] at h
    cases h
    exact .nil
  | cons a l ih =>
    rw [List.mapM_cons] at h
    obtain ⟨b, hb, h⟩ := bind_eq_ok.mp h
    obtain ⟨rest, hrest, h⟩ := bind_eq_ok.mp h
    cases h
    exact .cons hb (ih hrest)

/-- A loop succeeds when each step does. -/
theorem exists_mapM_eq_ok {ε : Type} {f : α → Except ε β}
    (h : ∀ a ∈ l, ∃ b, f a = .ok b ∧ R a b) :
    ∃ l', l.mapM f = .ok l' ∧ List.Forall₂ R l l' := by
  induction l with
  | nil => exact ⟨[], rfl, .nil⟩
  | cons a l ih =>
    obtain ⟨b, hb, hr⟩ := h a List.mem_cons_self
    obtain ⟨rest, hrest, hall⟩ := ih (fun a ha => h a (List.mem_cons_of_mem _ ha))
    refine ⟨b :: rest, ?_, .cons hr hall⟩
    rw [List.mapM_cons]
    exact bind_eq_ok.mpr ⟨b, hb, bind_eq_ok.mpr ⟨rest, hrest, rfl⟩⟩

end Lists

/-- Raise an error unless a condition holds. -/
def check (c : Prop) [Decidable c] (e : PyError) : Except PyError Unit :=
  if c then .ok () else .error e

@[simp] theorem check_eq_ok {c : Prop} [Decidable c] {e : PyError} {u : Unit} :
    check c e = .ok u ↔ c := by
  unfold check
  split_ifs with h <;> simp [h]

/-! ## Date-times -/

/-- A UTC instant, in microseconds since the Unix epoch: what a
`TIMESTAMPTZ(6)` column stores. -/
abbrev Timestamp := ℤ

/-- `datetime.min`, in microseconds. -/
def datetimeMin : Timestamp := -62135596800000000

/-- `datetime.max`, in microseconds. -/
def datetimeMax : Timestamp := 253402300799999999

/-- A stored instant as a Python `datetime`, which has four-digit years only. -/
def loadDatetime (t : Timestamp) : Except PyError Timestamp :=
  if datetimeMin ≤ t ∧ t ≤ datetimeMax then .ok t
  else .error (.valueError "timestamp out of range")

theorem loadDatetime_eq_ok {t t' : Timestamp} (h : loadDatetime t = .ok t') : t' = t := by
  unfold loadDatetime at h
  split_ifs at h
  exact (Except.ok.inj h).symm

/-- A Python `datetime`: an instant if it is aware of its time zone, the digits
of a wall clock if it is not. -/
structure PyDatetime where
  instant : Timestamp
  isAware : Bool
  deriving DecidableEq, Repr

/-- An aware date-time. -/
abbrev PyDatetime.utc (t : Timestamp) : PyDatetime := ⟨t, true⟩

/-! ## Bytes -/

abbrev Bytes := List UInt8

/-- `text.encode("utf-8")`. -/
def utf8 (text : String) : Bytes := text.toUTF8.toList

/-- The eight bytes of a 64-bit pattern, most significant first. -/
def bigEndian (bits : BitVec 64) : Bytes :=
  (List.range 8).map (fun i => UInt8.ofBitVec (bits.extractLsb' (8 * (7 - i)) 8))

@[simp] theorem bigEndian_length (bits : BitVec 64) : (bigEndian bits).length = 8 := by
  simp [bigEndian]

/-- **The bytes determine the pattern**: every bit is in one of them. -/
theorem bigEndian_injective : Function.Injective bigEndian := by
  intro a b h
  refine BitVec.eq_of_getLsbD_eq (fun i hi => ?_)
  have hbyte : a.extractLsb' (8 * (7 - (7 - i / 8))) 8 = b.extractLsb' (8 * (7 - (7 - i / 8))) 8 := by
    have hget := congrArg (fun bytes => bytes[7 - i / 8]?) h
    have hlt : 7 - i / 8 < 8 := by omega
    simp only [bigEndian, List.getElem?_map, List.getElem?_range hlt, Option.map_some,
      Option.some.injEq] at hget
    exact congrArg UInt8.toBitVec hget
  have hbit := congrArg (fun byte : BitVec 8 => byte.getLsbD (i % 8)) hbyte
  have hmod : i % 8 < 8 := Nat.mod_lt _ (by omega)
  have hindex : 8 * (7 - (7 - i / 8)) + i % 8 = i := by omega
  simpa only [BitVec.getLsbD_extractLsb', hmod, decide_true, Bool.true_and, hindex] using hbit

/-- `struct.pack(">q", value)`. -/
def packInt64 (value : ℤ) : Except PyError Bytes :=
  if -2 ^ 63 ≤ value ∧ value < 2 ^ 63 then .ok (bigEndian (BitVec.ofInt 64 value))
  else .error ⟨.structError, "int too large to convert"⟩

theorem packInt64_injective {a b : ℤ} {bytes : Bytes} (ha : packInt64 a = .ok bytes)
    (hb : packInt64 b = .ok bytes) : a = b := by
  unfold packInt64 at ha hb
  split_ifs at ha hb with hra hrb
  have hbits := bigEndian_injective
    ((Except.ok.inj ha).trans (Except.ok.inj hb).symm)
  have hint := congrArg BitVec.toInt hbits
  rwa [BitVec.toInt_ofInt_eq_self (by omega) (by omega) (by omega),
    BitVec.toInt_ofInt_eq_self (by omega) (by omega) (by omega)] at hint

/-! ## Doubles -/

/-- A double: its sign, exponent and fraction bits. -/
structure Float64 where
  bits : BitVec 64
  deriving DecidableEq

namespace Float64

/-- `1.0`. -/
def one : Float64 := ⟨0x3FF0000000000000⟩

/-- `0.0`. -/
def zero : Float64 := ⟨0⟩

/-- `-0.0`. -/
def negZero : Float64 := ⟨0x8000000000000000⟩

def exponent (x : Float64) : BitVec 11 := x.bits.extractLsb' 52 11

def fraction (x : Float64) : BitVec 52 := x.bits.extractLsb' 0 52

/-- Whether the sign bit is set. -/
def sign (x : Float64) : Bool := x.bits.getLsbD 63

/-- `math.isfinite(x)`. -/
def isFinite (x : Float64) : Bool := x.exponent != 0x7FF

def isNaN (x : Float64) : Bool := x.exponent == 0x7FF && x.fraction != 0

/-- `x == 0.0`, which both zeros satisfy. -/
def isZero (x : Float64) : Bool := x == zero || x == negZero

/-- `a == b` on doubles: no `nan` is equal to anything, and the zeros are equal. -/
def numEq (a b : Float64) : Bool := !a.isNaN && !b.isNaN && (a == b || (a.isZero && b.isZero))

theorem isFinite_of_isZero {x : Float64} (h : x.isZero) : x.isFinite := by
  rcases (Bool.or_eq_true _ _).mp h with h | h <;> rw [beq_iff_eq.mp h] <;> decide

theorem not_isNaN_of_isFinite {x : Float64} (h : x.isFinite) : x.isNaN = false := by
  simp_all [isFinite, isNaN]

end Float64

/-- `_canonical_float`: a finite double, with one zero. -/
def canonicalFloat (value : Float64) : Except PyError Float64 :=
  if value.isFinite then .ok (if value.isZero then Float64.zero else value)
  else .error (.valueError "Gold row digest rejects NaN and infinity")

theorem canonicalFloat_eq_ok {x y : Float64} (h : canonicalFloat x = .ok y) :
    x.isFinite ∧ y = if x.isZero then Float64.zero else x := by
  unfold canonicalFloat at h
  by_cases hf : x.isFinite
  · rw [if_pos hf] at h
    exact ⟨hf, (Except.ok.inj h).symm⟩
  · rw [if_neg hf] at h
    cases h

/-- A canonical double is its own canonical form. -/
theorem canonicalFloat_idem {x y : Float64} (h : canonicalFloat x = .ok y) :
    canonicalFloat y = .ok y := by
  obtain ⟨hf, rfl⟩ := canonicalFloat_eq_ok h
  by_cases hz : x.isZero
  · rw [if_pos hz]
    rfl
  · rw [if_neg hz, canonicalFloat, if_pos hf, if_neg hz]
