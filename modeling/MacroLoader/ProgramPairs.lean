import MacroLoader.Program

/-!
# Two programs with the same faults

Which effects of a program fail is decided by its faults and not by its state. So a program
that is started in two states with the same faults, or two programs with the same effects,
fail at the same effects, and their ends can be compared. `wpPair` is about every list of
faults: the two programs end in the same way, with the same error if they raise and with the
same faults left, and what they return and leave is related by a postcondition.

Its rules are those of `wp`, with one program on each side. Nothing is asked of states in
which a process has stopped.
-/

namespace Program

variable {σ τ ε α α' β β' γ : Type}

/-- What is to hold of the ends of two programs, by the way they end. -/
structure PairPost (σ τ α α' : Type) where
  returned : α → α' → σ → τ → Prop
  raised : σ → τ → Prop

/-- **The ends that two programs come to**: of one kind, with the same error and the same
faults left. -/
inductive PairPost.At (Q : PairPost σ τ α α') :
    Outcome ε α × σ × List (Fault ε) → Outcome ε α' × τ × List (Fault ε) → Prop
  | returned {a : α} {a' : α'} {s : σ} {t : τ} {rest : List (Fault ε)}
    (h : Q.returned a a' s t) : Q.At (.returned a, s, rest) (.returned a', t, rest)
  | raised {e : ε} {s : σ} {t : τ} {rest : List (Fault ε)} (h : Q.raised s t) :
    Q.At (.raised e, s, rest) (.raised e, t, rest)
  | crashed {s : σ} {t : τ} {rest : List (Fault ε)} : Q.At (.crashed, s, rest) (.crashed, t, rest)

/-- **Two programs end alike**, whichever effects fail, if the same ones do in both. -/
def wpPair (m : Program σ ε α) (m' : Program τ ε α') (Q : PairPost σ τ α α') (s : σ) (t : τ) :
    Prop := ∀ faults, Q.At (m s faults) (m' t faults)

variable {m : Program σ ε α} {m' : Program τ ε α'} {k : α → Program σ ε β}
  {k' : α' → Program τ ε β'} {s : σ} {t : τ}

theorem wpPair_mono {Q R : PairPost σ τ α α'} (h : wpPair m m' Q s t)
    (hr : ∀ a a' s t, Q.returned a a' s t → R.returned a a' s t)
    (he : ∀ s t, Q.raised s t → R.raised s t) : wpPair m m' R s t := by
  intro faults
  have hq := h faults
  generalize m s faults = end_ at *
  generalize m' t faults = end' at *
  cases hq with
  | returned h => exact .returned (hr _ _ _ _ h)
  | raised h => exact .raised (he _ _ h)
  | crashed => exact .crashed

/-- What each program establishes for itself holds of the ends of both. -/
theorem wpPair_and {Q : PairPost σ τ α α'} {P : Post σ ε α} {P' : Post τ ε α'}
    (h : wpPair m m' Q s t) (hm : wp m P s) (hm' : wp m' P' t) :
    wpPair m m'
      ⟨fun a a' s t => Q.returned a a' s t ∧ P.returned a s ∧ P'.returned a' t,
        fun s t => Q.raised s t ∧ ∃ e, P.raised e s ∧ P'.raised e t⟩ s t := by
  intro faults
  have hq := h faults
  have hp := hm faults
  have hp' := hm' faults
  generalize m s faults = end_ at *
  generalize m' t faults = end' at *
  cases hq with
  | returned h => exact .returned ⟨h, hp, hp'⟩
  | raised h => exact .raised ⟨h, _, hp, hp'⟩
  | crashed => exact .crashed

theorem wpPair_pure {Q : PairPost σ τ α α'} {a : α} {a' : α'} (h : Q.returned a a' s t) :
    wpPair (pure a : Program σ ε α) (pure a' : Program τ ε α') Q s t := fun _ => .returned h

theorem wpPair_throw {Q : PairPost σ τ α α'} {e : ε} (h : Q.raised s t) :
    wpPair (throw e : Program σ ε α) (throw e : Program τ ε α') Q s t := fun _ => .raised h

theorem wpPair_bind {Q : PairPost σ τ β β'}
    (h : wpPair m m' ⟨fun a a' s t => wpPair (k a) (k' a') Q s t, Q.raised⟩ s t) :
    wpPair (m >>= k) (m' >>= k') Q s t := by
  intro faults
  have hm := h faults
  show Q.At (andThen m k s faults) (andThen m' k' t faults)
  unfold andThen
  generalize m s faults = end_ at *
  generalize m' t faults = end' at *
  cases hm with
  | returned h => exact h _
  | raised h => exact .raised h
  | crashed => exact .crashed

/-- The handlers go on from where the two programs have raised the same error. -/
theorem wpPair_tryCatch {Q : PairPost σ τ α α'} {handler : ε → Program σ ε α}
    {handler' : ε → Program τ ε α'}
    (h : wpPair m m' ⟨Q.returned, fun s t => ∀ e, wpPair (handler e) (handler' e) Q s t⟩ s t) :
    wpPair (tryCatch m handler) (tryCatch m' handler') Q s t := by
  intro faults
  have hm := h faults
  unfold tryCatch
  generalize m s faults = end_ at *
  generalize m' t faults = end' at *
  cases hm with
  | returned h => exact .returned h
  | raised h => exact h _ _
  | crashed => exact .crashed

theorem wpPair_require {Q : PairPost σ τ Unit Unit} {c : Prop} [Decidable c] {e : ε}
    (hr : c → Q.returned () () s t) (he : ¬ c → Q.raised s t) :
    wpPair (require c e : Program σ ε Unit) (require c e : Program τ ε Unit) Q s t := by
  unfold require
  split_ifs with hc
  · exact wpPair_pure (hr hc)
  · exact wpPair_throw (he hc)

theorem wpPair_ofExcept {Q : PairPost σ τ α α} {r : Except ε α}
    (hr : ∀ a, r = .ok a → Q.returned a a s t) (he : ∀ e, r = .error e → Q.raised s t) :
    wpPair (ofExcept r : Program σ ε α) (ofExcept r : Program τ ε α) Q s t := by
  cases r with
  | ok a => exact wpPair_pure (hr a rfl)
  | error e => exact wpPair_throw (he e rfl)

theorem wpPair_update {Q : PairPost σ τ Unit Unit} {f : σ → σ} {g : τ → τ}
    (h : Q.returned () () (f s) (g t)) :
    wpPair (update f : Program σ ε Unit) (update g : Program τ ε Unit) Q s t := fun _ => .returned h

/-- **Two effects** that go through, or are cut by the same fault. -/
theorem wpPair_effect {Q : PairPost σ τ α α'} {f : σ → Except ε α × σ} {g : τ → Except ε α' × τ}
    {a : α} {a' : α'} {s' : σ} {t' : τ} (hf : f s = (.ok a, s')) (hg : g t = (.ok a', t'))
    (hr : Q.returned a a' s' t') (he : Q.raised s t ∧ Q.raised s' t') :
    wpPair (effect f) (effect g) Q s t := by
  intro faults
  unfold effect
  rw [hf, hg]
  rcases faults with _ | ⟨_ | _ | _ | _ | _, rest⟩
  · exact .returned hr
  · exact .returned hr
  · exact .raised he.1
  · exact .raised he.2
  · exact .crashed
  · exact .crashed

theorem wpPair_write {Q : PairPost σ τ Unit Unit} {f : σ → σ} {g : τ → τ}
    (hr : Q.returned () () (f s) (g t)) (he : Q.raised s t ∧ Q.raised (f s) (g t)) :
    wpPair (write f : Program σ ε Unit) (write g : Program τ ε Unit) Q s t :=
  wpPair_effect rfl rfl hr he

/-- Two readings that succeed, with whatever they have read. -/
theorem wpPair_query {Q : PairPost σ τ α α'} {f : σ → Except ε α} {g : τ → Except ε α'}
    {a : α} {a' : α'} (hf : f s = .ok a) (hg : g t = .ok a') (hr : Q.returned a a' s t)
    (he : Q.raised s t) : wpPair (query f) (query g) Q s t :=
  wpPair_effect (by rw [hf]) (by rw [hg]) hr ⟨he, he⟩

/-- Two readings of the same. -/
theorem wpPair_query_eq {Q : PairPost σ τ α α} {f : σ → Except ε α} {g : τ → Except ε α}
    (h : f s = g t) (hr : ∀ a, f s = .ok a → Q.returned a a s t) (he : Q.raised s t) :
    wpPair (query f) (query g) Q s t := by
  cases hf : f s with
  | ok a => exact wpPair_query hf (h ▸ hf) (hr a hf) he
  | error e =>
    intro faults
    unfold query effect
    simp only [hf, ← h]
    rcases faults with _ | ⟨_ | _ | _ | _ | _, rest⟩
    · exact .raised he
    · exact .raised he
    · exact .raised he
    · exact .raised he
    · exact .crashed
    · exact .crashed

/-- **Two loops** over the same list, with an invariant between their states. -/
theorem wpPair_forEach {Q : PairPost σ τ Unit Unit} {body : γ → Program σ ε Unit}
    {body' : γ → Program τ ε Unit} (I : σ → τ → Prop) {l : List γ} (hs : I s t)
    (hbody : ∀ c s t, I s t → wpPair (body c) (body' c) ⟨fun _ _ s t => I s t, Q.raised⟩ s t)
    (hdone : ∀ s t, I s t → Q.returned () () s t) :
    wpPair (forEach l body) (forEach l body') Q s t := by
  induction l generalizing s t with
  | nil => exact wpPair_pure (hdone s t hs)
  | cons c rest ih =>
    rw [forEach, forEach]
    exact wpPair_bind (wpPair_mono (hbody c s t hs) (fun _ _ _ _ h => ih h) (fun _ _ h => h))

end Program
