import Mathlib

/-!
# Nullable double-precision values in queries

The feature query computes with `DOUBLE PRECISION` values that may be null.
What it needs of the values themselves is collected in a class: literals,
the four operations, PostgreSQL's total order, the two infinities it compares
against, and the functions that no query result below depends on in any other
way than through the arguments it gives them – logarithm, exponential,
standard deviation and correlation.

The functions of the namespace `Sql` are the nullable readings: an operation
with a null operand is null, a comparison with a null operand is not true.
A condition is only ever asked whether it is true, so `Bool` is enough for it.
-/

/-- **What a query needs of `DOUBLE PRECISION`.** -/
class SqlDouble (V : Type) where
  /-- The value of a numeric literal. -/
  ofRat : ℚ → V
  add : V → V → V
  sub : V → V → V
  mul : V → V → V
  div : V → V → V
  /-- PostgreSQL's order on doubles, which is total. -/
  lt : V → V → Bool
  infinity : V
  negInfinity : V
  ln : V → V
  exp : V → V
  /-- The aggregates, each null on a list on which SQL leaves it null. -/
  sum : List V → Option V
  avg : List V → Option V
  stddevPop : List V → Option V
  stddevSamp : List V → Option V
  corr : List (V × V) → Option V

namespace Sql

variable {V : Type} [SqlDouble V]

/-- A numeric literal. -/
def lit (q : ℚ) : Option V := some (SqlDouble.ofRat q)

def add (a b : Option V) : Option V := Option.map₂ SqlDouble.add a b
def sub (a b : Option V) : Option V := Option.map₂ SqlDouble.sub a b
def mul (a b : Option V) : Option V := Option.map₂ SqlDouble.mul a b
def div (a b : Option V) : Option V := Option.map₂ SqlDouble.div a b

/-- `a > b` is true. -/
def gt (a b : Option V) : Bool :=
  match a, b with
  | some x, some y => SqlDouble.lt y x
  | _, _ => false

/-- `a <= b` is true. -/
def le (a b : Option V) : Bool :=
  match a, b with
  | some x, some y => !SqlDouble.lt y x
  | _, _ => false

/-- `a < b` is true. -/
def lt (a b : Option V) : Bool := gt b a

/-- `a >= b` is true. -/
def ge (a b : Option V) : Bool := le b a

/-- `a = b` is true. -/
def eq (a b : Option V) : Bool := le a b && le b a

/-- `a <> b` is true. -/
def ne (a b : Option V) : Bool := lt a b || gt a b

/-- `a > '-Infinity' AND a < 'Infinity'` is true. -/
def finite (a : Option V) : Bool :=
  gt a (some SqlDouble.negInfinity) && lt a (some SqlDouble.infinity)

/-- `CASE WHEN c THEN v END`. -/
def caseWhen {X : Type} (c : Bool) (v : Option X) : Option X := if c then v else none

/-- `NULLIF(a, b)`. -/
def nullif (a b : Option V) : Option V := if eq a b then none else a

/-- `greatest(a, b)`, which ignores a null argument. -/
def greatest (a b : Option V) : Option V :=
  match a, b with
  | some x, some y => if SqlDouble.lt x y then some y else some x
  | some x, none => some x
  | none, b => b

/-- `ln(a)`; with the guard, an argument that is not positive is replaced by
null first. -/
def ln (safeLogInputs : Bool) (a : Option V) : Option V :=
  (if safeLogInputs then caseWhen (gt a (lit 0)) a else a).map SqlDouble.ln

/-- The values an aggregate sees: the non-null ones. -/
def nonNull {R X : Type} (col : R → Option X) (rows : List R) : List X := rows.filterMap col

/-- `count(col)`. -/
def count {R X : Type} (col : R → Option X) (rows : List R) : ℕ := (nonNull col rows).length

def sum {R : Type} (col : R → Option V) (rows : List R) : Option V :=
  SqlDouble.sum (nonNull col rows)

def avg {R : Type} (col : R → Option V) (rows : List R) : Option V :=
  SqlDouble.avg (nonNull col rows)

def stddevPop {R : Type} (col : R → Option V) (rows : List R) : Option V :=
  SqlDouble.stddevPop (nonNull col rows)

def stddevSamp {R : Type} (col : R → Option V) (rows : List R) : Option V :=
  SqlDouble.stddevSamp (nonNull col rows)

/-- `corr(a, b)`, over the rows in which both are non-null. -/
def corr {R : Type} (a b : R → Option V) (rows : List R) : Option V :=
  SqlDouble.corr (nonNull (fun r => Option.map₂ Prod.mk (a r) (b r)) rows)

/-- `max(col)`. -/
def max {R : Type} (col : R → Option V) (rows : List R) : Option V :=
  (nonNull col rows).foldl (fun acc x => greatest acc (some x)) none

/-- `min(col)`. -/
def min {R : Type} (col : R → Option V) (rows : List R) : Option V :=
  (nonNull col rows).foldl
    (fun acc x => match acc with
      | some y => if SqlDouble.lt x y then some x else some y
      | none => some x) none

end Sql

/-! ## Exact values -/

/-- **Doubles that are computed with exactly**: the rational numbers and the three
special values. A query over numbers that doubles represent without rounding
can be evaluated with them. -/
inductive ExactDouble
  | negInfinity
  | rat (q : ℚ)
  | infinity
  | nan
  deriving DecidableEq

namespace ExactDouble

/-- Rational arithmetic; the result is no number if an operand is none. -/
def lift₂ (f : ℚ → ℚ → ℚ) : ExactDouble → ExactDouble → ExactDouble
  | rat a, rat b => rat (f a b)
  | _, _ => nan

/-- The place of a value in PostgreSQL's order: between the infinities it is that
of the rational numbers, and `nan` comes last. -/
def lt : ExactDouble → ExactDouble → Bool
  | rat a, rat b => decide (a < b)
  | negInfinity, negInfinity => false
  | negInfinity, _ => true
  | _, negInfinity => false
  | _, rat _ => false
  | rat _, _ => true
  | infinity, nan => true
  | _, _ => false

/-- The square root of a square. -/
def sqrt : ExactDouble → ExactDouble
  | rat q => if Rat.sqrt q * Rat.sqrt q = q then rat (Rat.sqrt q) else nan
  | _ => nan

def total (l : List ExactDouble) : ExactDouble := l.foldl (lift₂ (· + ·)) (rat 0)

def mean (l : List ExactDouble) : ExactDouble := lift₂ (· / ·) (total l) (rat l.length)

/-- The sum of the products of the deviations from the means. -/
def codeviation (l : List (ExactDouble × ExactDouble)) : ExactDouble :=
  let mean₁ := mean (l.map Prod.fst)
  let mean₂ := mean (l.map Prod.snd)
  total (l.map (fun p => lift₂ (· * ·) (lift₂ (· - ·) p.1 mean₁) (lift₂ (· - ·) p.2 mean₂)))

/-- The standard deviation with a given number of degrees of freedom. -/
def deviation (freedom : ℚ) (l : List ExactDouble) : ExactDouble :=
  sqrt (lift₂ (· / ·) (codeviation (l.map (fun x => (x, x)))) (rat freedom))

instance : SqlDouble ExactDouble where
  ofRat := rat
  add := lift₂ (· + ·)
  sub := lift₂ (· - ·)
  mul := lift₂ (· * ·)
  div := lift₂ (· / ·)
  lt := lt
  infinity := infinity
  negInfinity := negInfinity
  ln x := if x = rat 1 then rat 0 else nan
  exp x := if x = rat 0 then rat 1 else nan
  sum l := if l.isEmpty then none else some (total l)
  avg l := if l.isEmpty then none else some (mean l)
  stddevPop l := if l.isEmpty then none else some (deviation l.length l)
  stddevSamp l := if l.length < 2 then none else some (deviation (l.length - 1) l)
  corr l :=
    let deviations := lift₂ (· * ·) (codeviation (l.map (fun p => (p.1, p.1))))
      (codeviation (l.map (fun p => (p.2, p.2))))
    if l.isEmpty || deviations == rat 0 then none
    else some (lift₂ (· / ·) (codeviation l) (sqrt deviations))

end ExactDouble
