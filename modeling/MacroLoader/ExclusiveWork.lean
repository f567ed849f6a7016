import Mathlib.Logic.Function.Basic
import Mathlib.Logic.Relation

/-!
# Work under a lock

Processes share a state. A task takes time: it sees the state as it was when it began, and
leaves, when it is finished, what it has made of what it saw. Two tasks at once would therefore
lose the work of one of them. Under a lock this does not happen: wherever a process may begin a
task only while it holds the lock, and may not give the lock away before the task is finished,
the tasks have the effect of running one after the other, in the order in which they were
finished (`serial_of_reachable`).

Nothing is assumed of the tasks, and nothing of who takes the lock when. A task that fails, or
whose process is killed, is one that leaves something else.
-/

namespace ExclusiveWork

variable {ι σ τ : Type}

/-- The shared state, who holds the lock, what each process works on with what it has seen,
and the tasks that are finished. -/
structure Work (ι σ τ : Type) where
  shared : σ
  holder : Option ι
  working : ι → Option (τ × σ)
  finished : List τ

namespace Work

/-- Nobody is at work. -/
def initial (start : σ) : Work ι σ τ := ⟨start, none, fun _ => none, []⟩

variable (leave : τ → σ → σ)

/-- The state after some tasks, one after the other. -/
def after (start : σ) (tasks : List τ) : σ := tasks.foldl (fun s task => leave task s) start

/-- **The tasks have run one after the other**, and who is at work holds the lock and has seen
what is there. -/
structure Serial (start : σ) (w : Work ι σ τ) : Prop where
  shared : w.shared = after leave start w.finished
  holds : ∀ i task seen, w.working i = some (task, seen) → w.holder = some i
  seen : ∀ i task seen, w.working i = some (task, seen) → seen = w.shared

theorem serial_initial (start : σ) : Serial leave start (initial start : Work ι σ τ) where
  shared := rfl
  holds _ _ _ h := by cases h
  seen _ _ _ h := by cases h

variable {leave} {start : σ} {w w' : Work ι σ τ}

/-- Only one process is at work. -/
theorem Serial.unique (h : Serial leave start w) {i j : ι} {task task' : τ} {seen seen' : σ}
    (hi : w.working i = some (task, seen)) (hj : w.working j = some (task', seen')) : i = j :=
  Option.some.inj ((h.holds i task seen hi).symm.trans (h.holds j task' seen' hj))

variable [DecidableEq ι]

variable (leave) in
/-- **What can happen.** -/
inductive Step : Work ι σ τ → Work ι σ τ → Prop
  | acquire {w : Work ι σ τ} (i : ι) (hfree : w.holder = none) :
    Step w { w with holder := some i }
  | begin {w : Work ι σ τ} {i : ι} (task : τ) (hholds : w.holder = some i)
    (hidle : w.working i = none) :
    Step w { w with working := Function.update w.working i (some (task, w.shared)) }
  | finish {w : Work ι σ τ} {i : ι} {task : τ} {seen : σ} (hworks : w.working i = some (task, seen)) :
    Step w
      { w with
        shared := leave task seen
        working := Function.update w.working i none
        finished := w.finished ++ [task] }
  | release {w : Work ι σ τ} {i : ι} (hholds : w.holder = some i) (hidle : w.working i = none) :
    Step w { w with holder := none }

variable (leave) in
/-- What can happen in some steps. -/
abbrev Steps : Work ι σ τ → Work ι σ τ → Prop := Relation.ReflTransGen (Step leave)

theorem Serial.step (h : Serial leave start w) (hstep : Step leave w w') :
    Serial leave start w' := by
  cases hstep with
  | acquire i hfree =>
    refine ⟨h.shared, fun j task seen hj => ?_, h.seen⟩
    cases hfree.symm.trans (h.holds j task seen hj)
  | @begin i task hholds hidle =>
    refine ⟨h.shared, fun j task' seen hj => ?_, fun j task' seen hj => ?_⟩
    · by_cases hij : j = i
      · exact hij ▸ hholds
      · exact h.holds j task' seen ((Function.update_of_ne hij _ _).symm.trans hj)
    · by_cases hij : j = i
      · subst hij
        cases (Function.update_self _ _ _).symm.trans hj
        rfl
      · exact h.seen j task' seen ((Function.update_of_ne hij _ _).symm.trans hj)
  | @finish i task seen hworks =>
    -- nobody else is at work
    have hnone : ∀ j task' seen', Function.update w.working i none j ≠ some (task', seen') := by
      intro j task' seen' hj
      by_cases hij : j = i
      · subst hij
        cases (Function.update_self _ _ _).symm.trans hj
      · exact hij (h.unique ((Function.update_of_ne hij _ _).symm.trans hj) hworks)
    refine ⟨?_, fun j task' seen' hj => absurd hj (hnone j task' seen'),
      fun j task' seen' hj => absurd hj (hnone j task' seen')⟩
    show leave task seen = after leave start (w.finished ++ [task])
    rw [h.seen i task seen hworks, h.shared, after, after, List.foldl_append]
    rfl
  | @release i hholds hidle =>
    refine ⟨h.shared, fun j task seen hj => ?_, h.seen⟩
    -- who is at work holds the lock, so it is the one that gives it away
    obtain rfl : j = i := Option.some.inj ((h.holds j task seen hj).symm.trans hholds)
    cases hidle.symm.trans hj

/-- **Whatever happens, the tasks have run one after the other.** -/
theorem serial_of_reachable (hreach : Steps leave (initial start) w) : Serial leave start w := by
  induction hreach with
  | refl => exact serial_initial leave start
  | tail _ hstep ih => exact ih.step hstep

end Work

end ExclusiveWork
