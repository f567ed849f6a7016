import MacroLoader.Program

/-!
# Programs on a part of a state

A program that is written for one store runs unchanged in a state of which the store is a
part: the part is taken out, the program runs on it, and what it leaves is put back. All
that a proof about the larger program needs to know is what the smaller one does to its part,
and that nothing else is touched.
-/

/-- **A part of a state**: it can be read, and it can be put back changed. -/
structure StatePart (σ τ : Type) where
  get : σ → τ
  set : τ → σ → σ
  get_set : ∀ t s, get (set t s) = t
  set_get : ∀ s, set (get s) s = s
  set_set : ∀ t t' s, set t (set t' s) = set t s

namespace StatePart

variable {σ τ : Type} (part : StatePart σ τ) {R : τ → τ → Prop}

/-- **Only the part has changed**, and it has changed as a relation allows. -/
def Only (R : τ → τ → Prop) (s s' : σ) : Prop :=
  R (part.get s) (part.get s') ∧ s' = part.set (part.get s') s

theorem only_set {t : τ} {s : σ} (h : R (part.get s) t) : part.Only R s (part.set t s) := by
  rw [Only, part.get_set]
  exact ⟨h, rfl⟩

/-- The first of two. -/
def fst : StatePart (σ × τ) σ where
  get s := s.1
  set t s := (t, s.2)
  get_set _ _ := rfl
  set_get _ := rfl
  set_set _ _ _ := rfl

instance [Std.Refl R] : Std.Refl (part.Only R) :=
  ⟨fun s => ⟨Std.Refl.refl _, (part.set_get s).symm⟩⟩

instance [IsTrans τ R] : IsTrans σ (part.Only R) := by
  refine ⟨fun s s' s'' h h' => ⟨IsTrans.trans _ _ _ h.1 h'.1, ?_⟩⟩
  calc s'' = part.set (part.get s'') s' := h'.2
    _ = part.set (part.get s'') (part.set (part.get s') s) := congrArg _ h.2
    _ = part.set (part.get s'') s := part.set_set _ _ _

end StatePart

namespace Program

variable {σ τ ε α : Type} (part : StatePart σ τ) {m : Program τ ε α} {s : σ}

/-- Run a program on a part of the state. -/
def onPart (m : Program τ ε α) : Program σ ε α := fun s faults =>
  ((m (part.get s) faults).1, part.set (m (part.get s) faults).2.1 s,
    (m (part.get s) faults).2.2)

theorem wp_onPart {Q : Post σ ε α}
    (h : wp m ⟨fun a t => Q.returned a (part.set t s), fun e t => Q.raised e (part.set t s),
      fun t => Q.crashed (part.set t s)⟩ (part.get s)) : wp (onPart part m) Q s := by
  intro faults
  have hm := h faults
  unfold onPart
  generalize m (part.get s) faults = end_ at *
  rcases end_ with ⟨a | e | _, t, rest⟩ <;> exact hm

/-- What moves along a relation on its own moves only the part, along this relation. -/
theorem moves_onPart {R : τ → τ → Prop} (h : Moves R m) :
    Moves (part.Only R) (onPart part m) := fun s =>
  wp_onPart part (wp_mono (h (part.get s)) (fun _ _ h => part.only_set h)
    (fun _ _ h => part.only_set h) (fun _ h => part.only_set h))

/-- What only reads, only reads on a part. -/
theorem moves_onPart_eq (h : Moves (· = ·) m) : Moves (· = ·) (onPart part m) := by
  refine (moves_onPart part h).mono (fun s s' hs => ?_)
  rw [hs.2, ← hs.1, part.set_get]

/-- What is known of every end of a program, by the way it ends. -/
theorem wp_of_ends {E : Outcome ε α → σ → Prop} {m : Program σ ε α}
    (h : ∀ faults, E (m s faults).1 (m s faults).2.1) :
    wp m ⟨fun a => E (.returned a), fun e => E (.raised e), E .crashed⟩ s := by
  intro faults
  have hend := h faults
  generalize m s faults = end_ at *
  rcases end_ with ⟨a | e | _, s', rest⟩ <;> exact hend

/-- What holds of every end holds of the end that some faults lead to. -/
theorem ends_of_wp {E : Outcome ε α → σ → Prop} {m : Program σ ε α}
    (h : wp m ⟨fun a => E (.returned a), fun e => E (.raised e), E .crashed⟩ s)
    (faults : List (Fault ε)) : E (m s faults).1 (m s faults).2.1 := by
  have hend := h faults
  generalize m s faults = end_ at *
  rcases end_ with ⟨a | e | _, s', rest⟩ <;> exact hend

/-- However a program ends, some faults have led there. -/
theorem wp_runs (m : Program σ ε α) (s : σ) :
    wp m ⟨fun a s' => ∃ faults rest, m s faults = (.returned a, s', rest),
      fun e s' => ∃ faults rest, m s faults = (.raised e, s', rest),
      fun s' => ∃ faults rest, m s faults = (.crashed, s', rest)⟩ s := by
  intro faults
  rcases hm : m s faults with ⟨a | e | _, s', rest⟩ <;> exact ⟨faults, rest, hm⟩

@[simp] theorem onPart_pure (a : α) : onPart part (pure a : Program τ ε α) = pure a := by
  funext s faults
  show (Outcome.returned a, part.set (part.get s) s, faults) = (Outcome.returned a, s, faults)
  rw [part.set_get]

theorem onPart_bind {β : Type} (m : Program τ ε α) (k : α → Program τ ε β) :
    onPart part (m >>= k) = onPart part m >>= fun a => onPart part (k a) := by
  funext s faults
  show _ = andThen (onPart part m) (fun a => onPart part (k a)) s faults
  unfold andThen
  cases hm : m (part.get s) faults with
  | mk outcome end_ =>
    cases outcome with
    | returned a =>
      have hbind : (m >>= k) (part.get s) faults = k a end_.1 end_.2 := run_bind_of_returned hm
      simp only [onPart, hm, hbind, part.get_set, part.set_set]
    | raised e =>
      have hbind : (m >>= k) (part.get s) faults = (.raised e, end_) := run_bind_of_raised hm
      simp only [onPart, hm, hbind]
    | crashed =>
      have hbind : (m >>= k) (part.get s) faults = (.crashed, end_) := run_bind_of_crashed hm
      simp only [onPart, hm, hbind]

theorem succeeds_onPart {Q : α → σ → Prop}
    (h : Succeeds m (part.get s) (fun a t => Q a (part.set t s))) :
    Succeeds (onPart part m) s Q := by
  obtain ⟨a, t, hm, hq⟩ := h
  exact ⟨a, part.set t s, by rw [onPart, hm], hq⟩

/-- What a program establishes whose value is only looked at. -/
theorem wp_bind_pure_iff {β : Type} {f : α → β} {m : Program σ ε α} {Q : Post σ ε β} :
    wp (m >>= fun a => pure (f a)) Q s
      ↔ wp m ⟨fun a s' => Q.returned (f a) s', Q.raised, Q.crashed⟩ s := by
  refine ⟨fun h faults => ?_, fun h => wp_bind (wp_mono h (fun _ _ h => wp_pure h)
    (fun _ _ h => h) (fun _ h => h))⟩
  have hend := h faults
  rcases hm : m s faults with ⟨a | e | _, s', rest⟩
  · rw [run_bind_of_returned hm] at hend
    exact hend
  · rw [run_bind_of_raised hm] at hend
    exact hend
  · rw [run_bind_of_crashed hm] at hend
    exact hend

/-! ## Local variables -/

/-- Run a program with a variable of its own, which is gone at its end. -/
def withLocal (start : τ) (m : Program (σ × τ) ε α) : Program σ ε α := fun s faults =>
  ((m (s, start) faults).1, (m (s, start) faults).2.1.1, (m (s, start) faults).2.2)

theorem wp_withLocal {start : τ} {m : Program (σ × τ) ε α} {Q : Post σ ε α}
    (h : wp m ⟨fun a p => Q.returned a p.1, fun e p => Q.raised e p.1, fun p => Q.crashed p.1⟩
      (s, start)) : wp (withLocal start m) Q s := by
  intro faults
  have hm := h faults
  unfold withLocal
  generalize m (s, start) faults = end_ at *
  rcases end_ with ⟨a | e | _, p, rest⟩ <;> exact hm

/-! ## Loops that collect -/

variable {β : Type}

/-- Run a program for each element of a list, in order, and collect what they return. -/
def collect (l : List β) (body : β → Program σ ε α) : Program σ ε (List α) :=
  match l with
  | [] => pure []
  | b :: rest => do
    let a ← body b
    let values ← collect rest body
    pure (a :: values)

/-- **A loop that keeps an invariant** returns a value for each element. -/
theorem wp_collect_keeping {I : σ → Prop} {P : β → α → Prop} {body : β → Program σ ε α}
    {l : List β} (h : I s)
    (hbody : ∀ b ∈ l, ∀ s, I s → wp (body b) (Post.keeping I (fun a _ => P b a)) s) :
    wp (collect l body) (Post.keeping I (fun values _ => List.Forall₂ P l values)) s := by
  induction l generalizing s with
  | nil => exact wp_pure_keeping h .nil
  | cons b rest ih =>
    rw [collect]
    refine wp_bind_keeping (hbody b List.mem_cons_self s h) (fun a s₁ h₁ ha => ?_)
    refine wp_bind_keeping (ih h₁ (fun b' hb' => hbody b' (List.mem_cons_of_mem _ hb'))) ?_
    exact fun values s₂ h₂ hvalues => wp_pure_keeping h₂ (.cons ha hvalues)

/-- A loop whose body always succeeds. -/
theorem succeeds_collect {I : σ → Prop} {P : β → α → Prop} {body : β → Program σ ε α}
    {l : List β} (h : I s)
    (hbody : ∀ b ∈ l, ∀ s, I s → Succeeds (body b) s (fun a s' => I s' ∧ P b a)) :
    Succeeds (collect l body) s (fun values s' => I s' ∧ List.Forall₂ P l values) := by
  induction l generalizing s with
  | nil => exact succeeds_pure ⟨h, .nil⟩
  | cons b rest ih =>
    rw [collect]
    refine succeeds_bind ((hbody b List.mem_cons_self s h).mono (fun a s₁ h₁ => ?_))
    refine succeeds_bind ((ih h₁.1 (fun b' hb' => hbody b' (List.mem_cons_of_mem _ hb'))).mono ?_)
    exact fun values s₂ h₂ => succeeds_pure ⟨h₂.1, .cons h₁.2 h₂.2⟩

end Program
