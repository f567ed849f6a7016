import Mathlib

/-!
# Programs whose effects may fail

A program reads and changes a state through effects, and every effect may go
wrong: it may raise before it does anything, raise after it has taken effect,
or the process may stop on either side of it. Which of these happens is not
up to the program. It is given to the program as the list of faults to come,
one for each effect, so that a statement about all lists of faults is a
statement about all ways in which the effects can fail, while a program with a
given list still computes.

Two calculi go with it. `wp` is about every list of faults: what holds of a
program's outcome whichever effects fail. `Succeeds` is about the empty list:
that the program returns when none fails, and what it then establishes. Each
has one rule for each construct, and the rules are all that the proofs about a
particular program use.
-/

/-- How a program ends: with a value, with an error, or not at all, because the
process stopped. -/
inductive Outcome (ε α : Type)
  | returned (value : α)
  | raised (error : ε)
  | crashed
  deriving DecidableEq

/-- What happens to one effect. -/
inductive Fault (ε : Type)
  | none
  | raiseBefore (error : ε)
  | raiseAfter (error : ε)
  | crashBefore
  | crashAfter
  deriving DecidableEq

/-- **A program** over a state, given the faults of the effects to come. A list
that has run out stands for effects that do not fail. -/
def Program (σ ε α : Type) := σ → List (Fault ε) → Outcome ε α × σ × List (Fault ε)

namespace Program

variable {σ ε α β : Type}

/-- Run one program and, if it returns, another one on its value. -/
def andThen (m : Program σ ε α) (k : α → Program σ ε β) : Program σ ε β := fun s faults =>
  match m s faults with
  | (.returned a, s', faults') => k a s' faults'
  | (.raised e, s', faults') => (.raised e, s', faults')
  | (.crashed, s', faults') => (.crashed, s', faults')

instance : Monad (Program σ ε) where
  pure a := fun s faults => (.returned a, s, faults)
  bind := andThen

/-- End with an error. -/
def throw (e : ε) : Program σ ε α := fun s faults => (.raised e, s, faults)

/-- Handle an error. A stopped process handles nothing. -/
def tryCatch (m : Program σ ε α) (handler : ε → Program σ ε α) : Program σ ε α :=
  fun s faults =>
    match m s faults with
    | (.raised e, s', faults') => handler e s' faults'
    | r => r

/-- Raise unless a condition holds. -/
def require (c : Prop) [Decidable c] (e : ε) : Program σ ε Unit := if c then pure () else throw e

/-- Run a program only if a condition holds. -/
def onlyIf (c : Bool) (m : Program σ ε Unit) : Program σ ε Unit := if c then m else pure ()

/-- A computation that may raise and does not touch the state. -/
def ofExcept : Except ε α → Program σ ε α
  | .ok a => pure a
  | .error e => throw e

/-- Read the state. -/
def read : Program σ ε σ := fun s faults => (.returned s, s, faults)

/-- Change the state in a way that is assumed not to fail. -/
def update (f : σ → σ) : Program σ ε Unit := fun s faults => (.returned (), f s, faults)

/-- **An effect**: it computes a result from the state and changes the state,
unless the next fault intervenes. -/
def effect (f : σ → Except ε α × σ) : Program σ ε α := fun s faults =>
  let done : Outcome ε α × σ :=
    match f s with
    | (.ok a, s') => (.returned a, s')
    | (.error e, s') => (.raised e, s')
  match faults with
  | [] => (done.1, done.2, [])
  | .none :: rest => (done.1, done.2, rest)
  | .raiseBefore e :: rest => (.raised e, s, rest)
  | .raiseAfter e :: rest => (.raised e, done.2, rest)
  | .crashBefore :: rest => (.crashed, s, rest)
  | .crashAfter :: rest => (.crashed, done.2, rest)

/-- An effect that reads the state. -/
def query (f : σ → Except ε α) : Program σ ε α := effect (fun s => (f s, s))

/-- An effect that changes the state. -/
def write (f : σ → σ) : Program σ ε Unit := effect (fun s => (.ok (), f s))

/-- **Run a program, and take back what it has done**, or a part of it, unless it
returns: what is left is made of the states before and after it. -/
def undoing (undo : σ → σ → σ) (m : Program σ ε α) : Program σ ε α := fun s faults =>
  match m s faults with
  | (.returned a, s', faults') => (.returned a, s', faults')
  | (.raised e, s', faults') => (.raised e, undo s s', faults')
  | (.crashed, s', faults') => (.crashed, undo s s', faults')

/-- **Run a program as a transaction**: unless it returns, the state is what it
was before. -/
def atomically (m : Program σ ε α) : Program σ ε α := undoing (fun s _ => s) m

/-- Run a program for each element of a list, in order. -/
def forEach (l : List β) (body : β → Program σ ε Unit) : Program σ ε Unit :=
  match l with
  | [] => pure ()
  | b :: rest => body b >>= fun _ => forEach rest body

/-! ## Whatever fails -/

/-- What is to hold of the end of a program, by the way it ends. -/
structure Post (σ ε α : Type) where
  returned : α → σ → Prop
  raised : ε → σ → Prop
  crashed : σ → Prop

/-- The postcondition at the end a program comes to. -/
def Post.At (Q : Post σ ε α) : Outcome ε α × σ × List (Fault ε) → Prop
  | (.returned a, s, _) => Q.returned a s
  | (.raised e, s, _) => Q.raised e s
  | (.crashed, s, _) => Q.crashed s

/-- The postcondition that asks the same of the state however a program ends. -/
def Post.always (I : σ → Prop) : Post σ ε α := ⟨fun _ s => I s, fun _ s => I s, I⟩

/-- **The weakest precondition**: what holds of the end of a program started in
`s`, whichever effects fail. -/
def wp (m : Program σ ε α) (Q : Post σ ε α) (s : σ) : Prop := ∀ faults, Q.At (m s faults)

variable {m : Program σ ε α} {k : α → Program σ ε β} {s : σ}

theorem wp_mono {Q R : Post σ ε α} (h : wp m Q s) (hr : ∀ a s, Q.returned a s → R.returned a s)
    (he : ∀ e s, Q.raised e s → R.raised e s) (hc : ∀ s, Q.crashed s → R.crashed s) :
    wp m R s := by
  intro faults
  have hq := h faults
  generalize m s faults = end_ at *
  rcases end_ with ⟨_ | _ | _, s', faults'⟩
  · exact hr _ _ hq
  · exact he _ _ hq
  · exact hc _ hq

theorem wp_true (m : Program σ ε α) (s : σ) :
    wp m ⟨fun _ _ => True, fun _ _ => True, fun _ => True⟩ s := by
  intro faults
  rcases m s faults with ⟨_ | _ | _, s', faults'⟩ <;> exact trivial

theorem wp_and {Q R : Post σ ε α} (hq : wp m Q s) (hr : wp m R s) :
    wp m ⟨fun a s => Q.returned a s ∧ R.returned a s, fun e s => Q.raised e s ∧ R.raised e s,
      fun s => Q.crashed s ∧ R.crashed s⟩ s := by
  intro faults
  have h := And.intro (hq faults) (hr faults)
  generalize m s faults = end_ at *
  rcases end_ with ⟨_ | _ | _, s', faults'⟩ <;> exact h

theorem wp_pure {Q : Post σ ε α} {a : α} (h : Q.returned a s) :
    wp (pure a : Program σ ε α) Q s := fun _ => h

theorem wp_throw {Q : Post σ ε α} {e : ε} (h : Q.raised e s) :
    wp (throw e : Program σ ε α) Q s := fun _ => h

/-- **Sequencing**: the first program is to establish what the second needs, and
the postcondition wherever it does not return. -/
theorem wp_bind {Q : Post σ ε β}
    (h : wp m ⟨fun a s' => wp (k a) Q s', Q.raised, Q.crashed⟩ s) : wp (m >>= k) Q s := by
  intro faults
  have hm := h faults
  change Q.At (andThen m k s faults)
  unfold andThen
  generalize m s faults = end_ at *
  rcases end_ with ⟨a | e | _, s', faults'⟩
  · exact hm faults'
  · exact hm
  · exact hm

theorem wp_tryCatch {Q : Post σ ε α} {handler : ε → Program σ ε α}
    (h : wp m ⟨Q.returned, fun e s' => wp (handler e) Q s', Q.crashed⟩ s) :
    wp (tryCatch m handler) Q s := by
  intro faults
  have hm := h faults
  unfold tryCatch
  generalize m s faults = end_ at *
  rcases end_ with ⟨a | e | _, s', faults'⟩
  · exact hm
  · exact hm faults'
  · exact hm

theorem wp_require {Q : Post σ ε Unit} {c : Prop} [Decidable c] {e : ε}
    (ht : c → Q.returned () s) (hf : ¬ c → Q.raised e s) :
    wp (require c e : Program σ ε Unit) Q s := by
  unfold require
  split_ifs with hc
  · exact wp_pure (ht hc)
  · exact wp_throw (hf hc)

theorem wp_ofExcept {Q : Post σ ε α} {r : Except ε α} (ht : ∀ a, r = .ok a → Q.returned a s)
    (hf : ∀ e, r = .error e → Q.raised e s) : wp (ofExcept r) Q s := by
  cases r with
  | ok a => exact wp_pure (ht a rfl)
  | error e => exact wp_throw (hf e rfl)

theorem wp_read {Q : Post σ ε σ} (h : Q.returned s s) : wp read Q s := fun _ => h

theorem wp_update {Q : Post σ ε Unit} {f : σ → σ} (h : Q.returned () (f s)) :
    wp (update f) Q s := fun _ => h

/-- **An effect** ends before itself, after itself, or with its own result. -/
theorem wp_effect {Q : Post σ ε α} {f : σ → Except ε α × σ}
    (hok : ∀ a s', f s = (.ok a, s') → Q.returned a s')
    (herror : ∀ e s', f s = (.error e, s') → Q.raised e s')
    (hraise : ∀ e, Q.raised e s ∧ Q.raised e (f s).2)
    (hcrash : Q.crashed s ∧ Q.crashed (f s).2) : wp (effect f) Q s := by
  intro faults
  unfold effect
  rcases hf : f s with ⟨e | a, s'⟩ <;> rw [hf] at hraise hcrash
  · have := herror e s' hf
    rcases faults with _ | ⟨_ | _ | _ | _ | _, rest⟩ <;> simp_all [Post.At]
  · have := hok a s' hf
    rcases faults with _ | ⟨_ | _ | _ | _ | _, rest⟩ <;> simp_all [Post.At]

theorem wp_query {Q : Post σ ε α} {f : σ → Except ε α} (hok : ∀ a, f s = .ok a → Q.returned a s)
    (hraise : ∀ e, Q.raised e s) (hcrash : Q.crashed s) : wp (query f) Q s := by
  refine wp_effect (fun a s' h => ?_) (fun e s' h => ?_) (fun e => ⟨hraise e, hraise e⟩)
    ⟨hcrash, hcrash⟩
  · obtain ⟨hf, rfl⟩ := Prod.mk.inj h
    exact hok a hf
  · obtain ⟨-, rfl⟩ := Prod.mk.inj h
    exact hraise e

theorem wp_write {Q : Post σ ε Unit} {f : σ → σ} (hok : Q.returned () (f s))
    (hraise : ∀ e, Q.raised e s ∧ Q.raised e (f s)) (hcrash : Q.crashed s ∧ Q.crashed (f s)) :
    wp (write f) Q s := by
  refine wp_effect (fun a s' h => ?_) (fun e s' h => ?_) hraise hcrash
  · obtain ⟨-, rfl⟩ := Prod.mk.inj h
    exact hok
  · cases h

theorem wp_undoing {undo : σ → σ → σ} {Q : Post σ ε α}
    (h : wp m ⟨Q.returned, fun e s' => Q.raised e (undo s s'), fun s' => Q.crashed (undo s s')⟩ s) :
    wp (undoing undo m) Q s := by
  intro faults
  have hm := h faults
  unfold undoing
  generalize m s faults = end_ at *
  rcases end_ with ⟨a | e | _, s', faults'⟩ <;> exact hm

/-- **A transaction** has to be followed only where it returns. -/
theorem wp_atomically {Q : Post σ ε α}
    (h : wp m ⟨Q.returned, fun e _ => Q.raised e s, fun _ => Q.crashed s⟩ s) :
    wp (atomically m) Q s := wp_undoing h

/-- **A loop**: an invariant over the elements still to come, which the body
keeps and which gives the postcondition wherever the body does not return. -/
theorem wp_forEach {Q : Post σ ε Unit} {body : β → Program σ ε Unit} (I : List β → σ → Prop)
    {l : List β} (hs : I l s)
    (hbody : ∀ b rest s, I (b :: rest) s →
      wp (body b) ⟨fun _ s' => I rest s', Q.raised, Q.crashed⟩ s)
    (hdone : ∀ s, I [] s → Q.returned () s) : wp (forEach l body) Q s := by
  induction l generalizing s with
  | nil => exact wp_pure (hdone s hs)
  | cons b rest ih =>
    rw [forEach]
    refine wp_bind (wp_mono (hbody b rest s hs) (fun _ s' hs' => ih hs') ?_ ?_)
    · exact fun _ _ h => h
    · exact fun _ h => h

/-- What a program keeps in every state, it keeps through a sequence. -/
theorem wp_bind_always {I : σ → Prop} (hm : wp m (Post.always I) s)
    (hk : ∀ a s', I s' → wp (k a) (Post.always I) s') : wp (m >>= k) (Post.always I) s :=
  wp_bind (wp_mono hm (fun a s' h => hk a s' h) (fun _ _ h => h) (fun _ h => h))

/-! ## An invariant wherever a program ends -/

/-- An invariant that is to hold however a program ends, and a postcondition
where it returns. -/
def Post.keeping (I : σ → Prop) (Q : α → σ → Prop) : Post σ ε α :=
  ⟨fun a s => I s ∧ Q a s, fun _ s => I s, I⟩

section Keeping

variable {I : σ → Prop} {P Q : α → σ → Prop} {R : β → σ → Prop}

theorem wp_keeping_mono (h : wp m (Post.keeping I P) s) (hpq : ∀ a s', I s' → P a s' → Q a s') :
    wp m (Post.keeping I Q) s :=
  wp_mono h (fun a s' h => ⟨h.1, hpq a s' h.1 h.2⟩) (fun _ _ h => h) (fun _ h => h)

theorem wp_bind_keeping (hm : wp m (Post.keeping I P) s)
    (hk : ∀ a s', I s' → P a s' → wp (k a) (Post.keeping I R) s') :
    wp (m >>= k) (Post.keeping I R) s :=
  wp_bind (wp_mono hm (fun a s' h => hk a s' h.1 h.2) (fun _ _ h => h) (fun _ h => h))

theorem wp_pure_keeping {a : α} (h : I s) (hq : Q a s) :
    wp (pure a : Program σ ε α) (Post.keeping I Q) s := wp_pure ⟨h, hq⟩

theorem wp_throw_keeping {e : ε} (h : I s) : wp (throw e : Program σ ε α) (Post.keeping I Q) s :=
  wp_throw h

theorem wp_require_keeping {Q : Unit → σ → Prop} {c : Prop} [Decidable c] {e : ε} (h : I s)
    (hq : c → Q () s) : wp (require c e : Program σ ε Unit) (Post.keeping I Q) s :=
  wp_require (fun hc => ⟨h, hq hc⟩) (fun _ => h)

theorem wp_query_keeping {f : σ → Except ε α} (h : I s) (hq : ∀ a, f s = .ok a → Q a s) :
    wp (query f) (Post.keeping I Q) s :=
  wp_query (fun a ha => ⟨h, hq a ha⟩) (fun _ => h) h

theorem wp_effect_keeping {f : σ → Except ε α × σ} (h : I s) (h' : I (f s).2)
    (hq : ∀ a, (f s).1 = .ok a → Q a (f s).2) : wp (effect f) (Post.keeping I Q) s := by
  refine wp_effect (fun a s' hf => ?_) (fun e s' hf => ?_) (fun _ => ⟨h, h'⟩) ⟨h, h'⟩
  · rw [hf] at h' hq
    exact ⟨h', hq a rfl⟩
  · rw [hf] at h'
    exact h'

theorem wp_write_keeping {Q : Unit → σ → Prop} {f : σ → σ} (h : I s) (h' : I (f s))
    (hq : Q () (f s)) : wp (write f : Program σ ε Unit) (Post.keeping I Q) s :=
  wp_write ⟨h', hq⟩ (fun _ => ⟨h, h'⟩) ⟨h, h'⟩

theorem wp_onlyIf_keeping {Q : Unit → σ → Prop} {c : Bool} {m : Program σ ε Unit}
    (hm : c = true → wp m (Post.keeping I Q) s) (hskip : c = false → I s ∧ Q () s) :
    wp (onlyIf c m) (Post.keeping I Q) s := by
  cases c with
  | true => exact hm rfl
  | false => exact wp_pure (hskip rfl)

theorem wp_tryCatch_keeping {handler : ε → Program σ ε α} (hm : wp m (Post.keeping I Q) s)
    (hh : ∀ e s', I s' → wp (handler e) (Post.keeping I Q) s') :
    wp (tryCatch m handler) (Post.keeping I Q) s :=
  wp_tryCatch (wp_mono hm (fun _ _ h => h) (fun e s' h => hh e s' h) (fun _ h => h))

/-! The same for a first step, with what comes after it. -/

theorem wp_bind_require {c : Prop} [Decidable c] {e : ε} {k : Unit → Program σ ε β} (h : I s)
    (hk : c → wp (k ()) (Post.keeping I R) s) :
    wp ((require c e : Program σ ε Unit) >>= k) (Post.keeping I R) s :=
  wp_bind (wp_require hk (fun _ => h))

theorem wp_bind_ofExcept {r : Except ε α} (h : I s)
    (hk : ∀ a, r = .ok a → wp (k a) (Post.keeping I R) s) :
    wp (ofExcept r >>= k) (Post.keeping I R) s :=
  wp_bind (wp_ofExcept hk (fun _ _ => h))

theorem wp_bind_query {f : σ → Except ε α} (h : I s)
    (hk : ∀ a, f s = .ok a → wp (k a) (Post.keeping I R) s) :
    wp (query f >>= k) (Post.keeping I R) s :=
  wp_bind (wp_query hk (fun _ => h) h)

theorem wp_bind_write {f : σ → σ} {k : Unit → Program σ ε β} (h : I s) (h' : I (f s))
    (hk : wp (k ()) (Post.keeping I R) (f s)) :
    wp ((write f : Program σ ε Unit) >>= k) (Post.keeping I R) s :=
  wp_bind (wp_write hk (fun _ => ⟨h, h'⟩) ⟨h, h'⟩)

end Keeping

/-! ## Relations between the start and the end -/

/-- **A program moves along a relation**: however it ends, the state at its end is
related to the one at its start. -/
def Moves (R : σ → σ → Prop) (m : Program σ ε α) : Prop := ∀ s, wp m (Post.always (R s)) s

section Moves

variable {R : σ → σ → Prop}

/-- What a movement implies of its end. -/
theorem Moves.wp {Q : Post σ ε α} (h : Moves R m) (hr : ∀ a s', R s s' → Q.returned a s')
    (he : ∀ e s', R s s' → Q.raised e s') (hc : ∀ s', R s s' → Q.crashed s') : wp m Q s :=
  wp_mono (h s) (fun a s' h => hr a s' h) (fun e s' h => he e s' h) (fun s' h => hc s' h)

theorem Moves.keeping {I : σ → Prop} {Q : α → σ → Prop} (h : Moves R m)
    (hi : ∀ s', R s s' → I s') (hq : ∀ a s', R s s' → Q a s') :
    Program.wp m (Post.keeping I Q) s :=
  h.wp (fun a s' hr => ⟨hi s' hr, hq a s' hr⟩) (fun _ s' hr => hi s' hr) (fun s' hr => hi s' hr)

theorem Moves.mono {R' : σ → σ → Prop} (h : Moves R m) (hsub : ∀ s s', R s s' → R' s s') :
    Moves R' m := fun s =>
  wp_mono (h s) (fun _ s' h => hsub s s' h) (fun _ s' h => hsub s s' h) (fun s' h => hsub s s' h)

theorem moves_ite {c : Prop} [Decidable c] {m' : Program σ ε α} (hm : Moves R m)
    (hm' : Moves R m') : Moves R (if c then m else m') := by
  split_ifs
  · exact hm
  · exact hm'

theorem moves_bind [IsTrans σ R] (hm : Moves R m) (hk : ∀ a, Moves R (k a)) :
    Moves R (m >>= k) := fun s =>
  wp_bind_always (hm s) (fun a _ hs => (hk a).wp (fun _ _ h => IsTrans.trans _ _ _ hs h)
    (fun _ _ h => IsTrans.trans _ _ _ hs h) (fun _ h => IsTrans.trans _ _ _ hs h))

theorem moves_tryCatch [IsTrans σ R] {handler : ε → Program σ ε α} (hm : Moves R m)
    (hh : ∀ e, Moves R (handler e)) : Moves R (tryCatch m handler) := fun _ =>
  wp_tryCatch (hm.wp (fun _ _ h => h) (fun e _ hs => (hh e).wp
    (fun _ _ h => IsTrans.trans _ _ _ hs h) (fun _ _ h => IsTrans.trans _ _ _ hs h)
    (fun _ h => IsTrans.trans _ _ _ hs h)) (fun _ h => h))

variable [Std.Refl R]

theorem moves_pure (a : α) : Moves R (pure a : Program σ ε α) := fun s =>
  wp_pure (Std.Refl.refl s)

theorem moves_onlyIf {c : Bool} {m : Program σ ε Unit} (hm : Moves R m) : Moves R (onlyIf c m) :=
  moves_ite hm (moves_pure ())

theorem moves_throw (e : ε) : Moves R (throw e : Program σ ε α) := fun s =>
  wp_throw (Std.Refl.refl s)

theorem moves_require {c : Prop} [Decidable c] {e : ε} :
    Moves R (require c e : Program σ ε Unit) := fun s =>
  wp_require (fun _ => Std.Refl.refl s) (fun _ => Std.Refl.refl s)

theorem moves_ofExcept (r : Except ε α) : Moves R (ofExcept r : Program σ ε α) := fun s =>
  wp_ofExcept (fun _ _ => Std.Refl.refl s) (fun _ _ => Std.Refl.refl s)

theorem moves_query (f : σ → Except ε α) : Moves R (query f) := fun s =>
  wp_query (fun _ _ => Std.Refl.refl s) (fun _ => Std.Refl.refl s) (Std.Refl.refl s)

theorem moves_effect {f : σ → Except ε α × σ} (h : ∀ s, R s (f s).2) : Moves R (effect f) := by
  intro s
  have hend : ∀ r s', f s = (r, s') → R s s' := fun r s' hf => by simpa [hf] using h s
  exact wp_effect (fun a s' => hend (.ok a) s') (fun e s' => hend (.error e) s')
    (fun _ => ⟨Std.Refl.refl s, h s⟩) ⟨Std.Refl.refl s, h s⟩

theorem moves_write {f : σ → σ} (h : ∀ s, R s (f s)) :
    Moves R (write f : Program σ ε Unit) := moves_effect h

theorem moves_forEach [IsTrans σ R] {body : β → Program σ ε Unit} (hbody : ∀ b, Moves R (body b))
    (l : List β) : Moves R (forEach l body) := by
  induction l with
  | nil => exact moves_pure ()
  | cons b rest ih => exact moves_bind (hbody b) (fun _ => ih)

end Moves

/-! ## When nothing fails -/

/-- **The program returns**, when no effect fails, and establishes a
postcondition. -/
def Succeeds (m : Program σ ε α) (s : σ) (Q : α → σ → Prop) : Prop :=
  ∃ a s', m s [] = (.returned a, s', []) ∧ Q a s'

theorem Succeeds.mono {Q R : α → σ → Prop} (h : Succeeds m s Q)
    (hqr : ∀ a s', Q a s' → R a s') : Succeeds m s R := by
  obtain ⟨a, s', hm, hq⟩ := h
  exact ⟨a, s', hm, hqr a s' hq⟩

/-- A program that succeeds establishes what it always establishes. -/
theorem Succeeds.and_wp {Q : α → σ → Prop} {P : Post σ ε α} (h : Succeeds m s Q)
    (hwp : wp m P s) : Succeeds m s (fun a s' => Q a s' ∧ P.returned a s') := by
  obtain ⟨a, s', hm, hq⟩ := h
  have hend := hwp []
  rw [hm] at hend
  exact ⟨a, s', hm, hq, hend⟩

theorem succeeds_pure {Q : α → σ → Prop} {a : α} (h : Q a s) :
    Succeeds (pure a : Program σ ε α) s Q := ⟨a, s, rfl, h⟩

theorem succeeds_bind {Q : β → σ → Prop}
    (h : Succeeds m s (fun a s' => Succeeds (k a) s' Q)) : Succeeds (m >>= k) s Q := by
  obtain ⟨a, s', hm, b, s'', hk, hq⟩ := h
  refine ⟨b, s'', ?_, hq⟩
  change andThen m k s [] = _
  rw [andThen, hm]
  exact hk

theorem succeeds_require {Q : Unit → σ → Prop} {c : Prop} [Decidable c] {e : ε} (hc : c)
    (h : Q () s) : Succeeds (require c e : Program σ ε Unit) s Q := by
  rw [require, if_pos hc]
  exact succeeds_pure h

theorem succeeds_ofExcept {Q : α → σ → Prop} {r : Except ε α} {a : α} (hr : r = .ok a)
    (h : Q a s) : Succeeds (ofExcept r : Program σ ε α) s Q := by
  subst hr
  exact succeeds_pure h

theorem succeeds_effect {Q : α → σ → Prop} {f : σ → Except ε α × σ} {a : α} {s' : σ}
    (hf : f s = (.ok a, s')) (h : Q a s') : Succeeds (effect f) s Q := by
  refine ⟨a, s', ?_, h⟩
  simp only [effect, hf]

theorem succeeds_query {Q : α → σ → Prop} {f : σ → Except ε α} {a : α} (hf : f s = .ok a)
    (h : Q a s) : Succeeds (query f) s Q := by
  refine ⟨a, s, ?_, h⟩
  simp only [query, effect, hf]

theorem succeeds_write {Q : Unit → σ → Prop} {f : σ → σ} (h : Q () (f s)) :
    Succeeds (write f : Program σ ε Unit) s Q := ⟨(), f s, rfl, h⟩

/-- A check that holds, and the rest. -/
theorem succeeds_bind_require {Q : β → σ → Prop} {c : Prop} [Decidable c] {e : ε}
    {k : Unit → Program σ ε β} (hc : c) (h : Succeeds (k ()) s Q) :
    Succeeds (require c e >>= k) s Q := succeeds_bind (succeeds_require hc h)

theorem succeeds_bind_ofExcept {Q : β → σ → Prop} {r : Except ε α} {a : α} (hr : r = .ok a)
    (h : Succeeds (k a) s Q) : Succeeds (ofExcept r >>= k) s Q :=
  succeeds_bind (succeeds_ofExcept hr h)

theorem succeeds_bind_query {Q : β → σ → Prop} {f : σ → Except ε α} {a : α} (hf : f s = .ok a)
    (h : Succeeds (k a) s Q) : Succeeds (query f >>= k) s Q := succeeds_bind (succeeds_query hf h)

theorem succeeds_bind_write {Q : β → σ → Prop} {f : σ → σ} {k : Unit → Program σ ε β}
    (h : Succeeds (k ()) (f s) Q) : Succeeds (write f >>= k) s Q :=
  succeeds_bind (succeeds_write h)

theorem Succeeds.atomically {Q : α → σ → Prop} (h : Succeeds m s Q) :
    Succeeds (atomically m) s Q := by
  obtain ⟨a, s', hm, hq⟩ := h
  exact ⟨a, s', by rw [Program.atomically, undoing, hm], hq⟩

theorem Succeeds.tryCatch {Q : α → σ → Prop} {handler : ε → Program σ ε α}
    (h : Succeeds m s Q) : Succeeds (tryCatch m handler) s Q := by
  obtain ⟨a, s', hm, hq⟩ := h
  exact ⟨a, s', by rw [Program.tryCatch, hm], hq⟩

/-- **A loop** whose body always succeeds, with an invariant over the elements
still to come. -/
theorem succeeds_forEach {Q : Unit → σ → Prop} {body : β → Program σ ε Unit}
    (I : List β → σ → Prop) {l : List β} (hs : I l s)
    (hbody : ∀ b ∈ l, ∀ rest s, I (b :: rest) s → Succeeds (body b) s (fun _ s' => I rest s'))
    (hdone : ∀ s, I [] s → Q () s) : Succeeds (forEach l body) s Q := by
  induction l generalizing s with
  | nil => exact succeeds_pure (hdone s hs)
  | cons b rest ih =>
    rw [forEach]
    refine succeeds_bind ((hbody b List.mem_cons_self rest s hs).mono (fun _ s' hs' => ?_))
    exact ih hs' (fun b' hb' => hbody b' (List.mem_cons_of_mem _ hb'))

/-- **Nothing is left** of no faults. -/
def Silent (m : Program σ ε α) : Prop := ∀ s, (m s []).2.2 = []

theorem silent_pure (a : α) : Silent (pure a : Program σ ε α) := fun _ => rfl

theorem silent_throw (e : ε) : Silent (throw e : Program σ ε α) := fun _ => rfl

theorem silent_bind (hm : Silent m) (hk : ∀ a, Silent (k a)) : Silent (m >>= k) := by
  intro s
  have hrest := hm s
  show (andThen m k s []).2.2 = []
  rw [andThen]
  rcases hstep : m s [] with ⟨a | e | _, s', faults'⟩ <;> rw [hstep] at hrest
  · obtain rfl : faults' = [] := hrest
    exact hk a s'
  · exact hrest
  · exact hrest

theorem silent_effect (f : σ → Except ε α × σ) : Silent (effect f) := fun _ => rfl

theorem silent_require {c : Prop} [Decidable c] {e : ε} :
    Silent (require c e : Program σ ε Unit) := by
  unfold require
  split_ifs
  · exact silent_pure ()
  · exact silent_throw e

theorem silent_forEach {body : β → Program σ ε Unit} (hbody : ∀ b, Silent (body b)) (l : List β) :
    Silent (forEach l body) := by
  induction l with
  | nil => exact silent_pure ()
  | cons b rest ih => exact silent_bind (hbody b) (fun _ => ih)

theorem silent_atomically (hm : Silent m) : Silent (atomically m) := by
  intro s
  have hrest := hm s
  rw [atomically, undoing]
  rcases hstep : m s [] with ⟨a | e | _, s', faults'⟩ <;> rw [hstep] at hrest <;> exact hrest

theorem silent_tryCatch {handler : ε → Program σ ε α} (hm : Silent m)
    (hh : ∀ e, Silent (handler e)) : Silent (tryCatch m handler) := by
  intro s
  have hrest := hm s
  rw [tryCatch]
  rcases hstep : m s [] with ⟨a | e | _, s', faults'⟩ <;> rw [hstep] at hrest
  · exact hrest
  · obtain rfl : faults' = [] := hrest
    exact hh e s'
  · exact hrest

/-- Whether a program succeeds shows in its outcome. -/
theorem Silent.succeeds_iff {Q : α → σ → Prop} (hm : Silent m) :
    Succeeds m s Q ↔ ∃ a, (m s []).1 = .returned a ∧ Q a (m s []).2.1 := by
  constructor
  · rintro ⟨a, s', hrun, hq⟩
    rw [hrun]
    exact ⟨a, rfl, hq⟩
  · rintro ⟨a, hreturned, hq⟩
    exact ⟨a, (m s []).2.1, Prod.ext hreturned (Prod.ext rfl (hm s)), hq⟩

/-- **A program succeeds exactly if its parts do**, one after the other. -/
theorem succeeds_bind_iff {Q : β → σ → Prop} (hm : Silent m) :
    Succeeds (m >>= k) s Q ↔ Succeeds m s (fun a s' => Succeeds (k a) s' Q) := by
  refine ⟨fun ⟨b, s'', hrun, hq⟩ => ?_, succeeds_bind⟩
  have hrest := hm s
  change andThen m k s [] = _ at hrun
  rw [andThen] at hrun
  rcases hstep : m s [] with ⟨a | e | _, s', faults'⟩ <;> rw [hstep] at hrun hrest
  · obtain rfl : faults' = [] := hrest
    exact ⟨a, s', hstep, b, s'', hrun, hq⟩
  · cases hrun
  · cases hrun

theorem succeeds_effect_iff {Q : α → σ → Prop} {f : σ → Except ε α × σ} :
    Succeeds (effect f) s Q ↔ ∃ a, (f s).1 = .ok a ∧ Q a (f s).2 := by
  constructor
  · rintro ⟨a, s', hrun, hq⟩
    rcases hf : f s with ⟨e | b, s''⟩ <;> simp only [effect, hf] at hrun
    · cases hrun
    · cases hrun
      exact ⟨_, rfl, hq⟩
  · exact fun ⟨a, ha, hq⟩ => succeeds_effect (Prod.ext ha rfl) hq

theorem succeeds_query_iff {Q : α → σ → Prop} {f : σ → Except ε α} :
    Succeeds (query f) s Q ↔ ∃ a, f s = .ok a ∧ Q a s := succeeds_effect_iff

theorem succeeds_require_iff {Q : Unit → σ → Prop} {c : Prop} [Decidable c] {e : ε} :
    Succeeds (require c e : Program σ ε Unit) s Q ↔ c ∧ Q () s := by
  refine ⟨fun ⟨a, s', hrun, hq⟩ => ?_, fun h => succeeds_require h.1 h.2⟩
  unfold require at hrun
  split_ifs at hrun with hc
  · cases hrun
    exact ⟨hc, hq⟩
  · cases hrun

theorem succeeds_ofExcept_iff {Q : α → σ → Prop} {r : Except ε α} :
    Succeeds (ofExcept r : Program σ ε α) s Q ↔ ∃ a, r = .ok a ∧ Q a s := by
  refine ⟨fun ⟨a, s', hrun, hq⟩ => ?_, fun ⟨a, ha, hq⟩ => succeeds_ofExcept ha hq⟩
  cases r with
  | error e => cases hrun
  | ok b =>
    cases hrun
    exact ⟨_, rfl, hq⟩

theorem succeeds_atomically_iff {Q : α → σ → Prop} :
    Succeeds (atomically m) s Q ↔ Succeeds m s Q := by
  refine ⟨fun ⟨a, s', hrun, hq⟩ => ?_, Succeeds.atomically⟩
  rw [atomically, undoing] at hrun
  rcases hstep : m s [] with ⟨a | e | _, s', faults'⟩ <;> rw [hstep] at hrun <;> cases hrun
  exact ⟨_, _, hstep, hq⟩

/-- A handler that raises makes no difference. -/
theorem succeeds_tryCatch_iff {Q : α → σ → Prop} {handler : ε → Program σ ε α}
    (hh : ∀ e s faults, ∃ e', (handler e s faults).1 = .raised e') :
    Succeeds (tryCatch m handler) s Q ↔ Succeeds m s Q := by
  refine ⟨fun ⟨a, s', hrun, hq⟩ => ?_, Succeeds.tryCatch⟩
  rw [tryCatch] at hrun
  rcases hstep : m s [] with ⟨a | e | _, s', faults'⟩ <;> rw [hstep] at hrun
  · cases hrun
    exact ⟨_, _, hstep, hq⟩
  · obtain ⟨e', he'⟩ := hh e s' faults'
    dsimp only at hrun
    rw [hrun] at he'
    cases he'
  · cases hrun

/-! ## Runs with given faults -/

/-- The rest of a program, from where its first part returned. -/
theorem run_bind_of_returned {a : α} {s' : σ} {faults faults' : List (Fault ε)}
    (h : m s faults = (.returned a, s', faults')) : (m >>= k) s faults = k a s' faults' := by
  show andThen m k s faults = _
  rw [andThen, h]

theorem run_bind_of_raised {e : ε} {s' : σ} {faults faults' : List (Fault ε)}
    (h : m s faults = (.raised e, s', faults')) : (m >>= k) s faults = (.raised e, s', faults') := by
  show andThen m k s faults = _
  rw [andThen, h]

theorem run_bind_of_crashed {s' : σ} {faults faults' : List (Fault ε)}
    (h : m s faults = (.crashed, s', faults')) : (m >>= k) s faults = (.crashed, s', faults') := by
  show andThen m k s faults = _
  rw [andThen, h]

theorem run_bind_assoc {γ : Type} (m : Program σ ε α) (k : α → Program σ ε β)
    (l : β → Program σ ε γ) : (m >>= k) >>= l = m >>= fun a => k a >>= l := by
  funext s faults
  rcases h : m s faults with ⟨a | e | _, s', faults'⟩
  · rw [run_bind_of_returned h]
    show andThen (m >>= k) l s faults = andThen (k a) l s' faults'
    rw [andThen, run_bind_of_returned h, andThen]
  · rw [run_bind_of_raised h, run_bind_of_raised (run_bind_of_raised h)]
  · rw [run_bind_of_crashed h, run_bind_of_crashed (run_bind_of_crashed h)]

/-- An effect that meets no fault. -/
theorem run_effect {f : σ → Except ε α × σ} {a : α} {s' : σ} {faults : List (Fault ε)}
    (hfault : ∀ fault ∈ faults.take 1, fault = .none) (hf : f s = (.ok a, s')) :
    effect f s faults = (.returned a, s', faults.drop 1) := by
  unfold effect
  rw [hf]
  cases faults with
  | nil => rfl
  | cons fault rest =>
    obtain rfl := hfault fault (by simp)
    rfl

end Program
