import MacroLoader.ProgramPairs

/-!
# Workers on a shared state

Some workers run at the same time, each its own script: a program that is cut into steps,
between which the others go on. A step of a script either only reads the shared state, or it
is made under the lock that they all share. Under the lock nobody else writes, but the
others go on reading, and what they see then is whatever the locked step shows them: what it
has written so far, what it is about to take back.

The states have parts that belong to one worker each. If every step of a worker depends on
its own part only, and leaves those of the others as they are, then a worker does not notice
the others: however the steps are interleaved, it returns what it would have returned alone,
and its part of the state at the end is the one that it would have left alone
(`World.Run.alone`).
-/

open Program

/-- **A script**: steps between which other workers go on. A locked step says which states
it shows to those who read in the middle of it. -/
inductive Script (σ ε α : Type) : Type 1
  | done (a : α)
  | reading {β : Type} (m : Program σ ε β) (next : Except ε β → Script σ ε α)
  | locked {β : Type} (m : Program σ ε β) (shows : σ → σ → Prop)
      (next : Except ε β → Script σ ε α)

namespace Program

variable {σ ε α : Type} {m : Program σ ε α} {s : σ}

/-- Run a program and return what it returns or raises. -/
def attempt (m : Program σ ε α) : Program σ ε (Except ε α) := fun s faults =>
  match m s faults with
  | (.returned a, s', rest) => (.returned (.ok a), s', rest)
  | (.raised e, s', rest) => (.returned (.error e), s', rest)
  | (.crashed, s', rest) => (.crashed, s', rest)

/-- A sequence that returns has returned in both its parts. -/
theorem returned_of_bind {β : Type} {k : α → Program σ ε β} {b : β} {s'' : σ}
    {faults rest : List (Fault ε)} (h : (m >>= k) s faults = (.returned b, s'', rest)) :
    ∃ a s' rest', m s faults = (.returned a, s', rest')
      ∧ k a s' rest' = (.returned b, s'', rest) := by
  change andThen m k s faults = _ at h
  unfold andThen at h
  rcases hm : m s faults with ⟨a | e | _, s', rest'⟩ <;> rw [hm] at h
  · exact ⟨a, s', rest', rfl, h⟩
  · cases h
  · cases h

theorem wp_attempt {Q : Post σ ε (Except ε α)}
    (h : wp m ⟨fun a s' => Q.returned (.ok a) s', fun e s' => Q.returned (.error e) s',
      Q.crashed⟩ s) :
    wp (attempt m) Q s := by
  intro faults
  have hm := h faults
  unfold attempt
  generalize m s faults = end_ at *
  rcases end_ with ⟨a | e | _, s', rest⟩ <;> exact hm

/-- What holds of the end of a program holds of an attempt at it. -/
theorem attempt_of_wp {P : Except ε α → σ → Prop} (h : wp m ⟨fun a s' => P (.ok a) s',
    fun e s' => P (.error e) s', fun _ => True⟩ s) {r : Except ε α} {s' : σ}
    {faults rest : List (Fault ε)} (hrun : attempt m s faults = (.returned r, s', rest)) :
    P r s' := by
  have hend := wp_attempt (Q := ⟨P, fun _ _ => True, fun _ => True⟩) h faults
  rw [hrun] at hend
  exact hend

theorem Succeeds.attempt {Q : α → σ → Prop} (h : Succeeds m s Q) :
    Succeeds (attempt m) s (fun r s' => ∃ a, r = .ok a ∧ Q a s') := by
  obtain ⟨a, s', hm, hq⟩ := h
  exact ⟨.ok a, s', by rw [Program.attempt, hm], a, rfl, hq⟩

/-- Whether a program has returned or raised, something goes on. -/
theorem tryCatch_bind_eq_attempt {β : Type} (handler : ε → Program σ ε α)
    (k : α → Program σ ε β) :
    tryCatch m handler >>= k = attempt m >>= fun r =>
      match r with
      | .ok a => k a
      | .error e => handler e >>= k := by
  funext s faults
  show andThen (tryCatch m handler) k s faults = andThen (attempt m) _ s faults
  unfold andThen tryCatch attempt
  rcases m s faults with ⟨a | e | _, s', rest⟩ <;> rfl

theorem bind_eq_attempt {β : Type} (k : α → Program σ ε β) :
    m >>= k = attempt m >>= fun r =>
      match r with
      | .ok a => k a
      | .error e => throw e := by
  funext s faults
  show andThen m k s faults = andThen (attempt m) _ s faults
  unfold andThen attempt
  rcases m s faults with ⟨a | e | _, s', rest⟩ <;> rfl

theorem attempt_bind {β : Type} (k : α → Program σ ε β) :
    attempt (m >>= k) = attempt m >>= fun r =>
      match r with
      | .ok a => attempt (k a)
      | .error e => pure (.error e) := by
  funext s faults
  rcases hm : m s faults with ⟨a | e | _, s', rest⟩
  · rw [run_bind_of_returned (show attempt m s faults = (.returned (.ok a), s', rest) by
      rw [attempt, hm]), attempt, run_bind_of_returned hm]
    rfl
  · rw [run_bind_of_returned (show attempt m s faults = (.returned (.error e), s', rest) by
      rw [attempt, hm]), attempt, run_bind_of_raised hm]
    rfl
  · rw [run_bind_of_crashed (show attempt m s faults = (.crashed, s', rest) by
      rw [attempt, hm]), attempt, run_bind_of_crashed hm]

/-- A program that only reads leaves the state as it is. -/
theorem eq_of_attempt (hreads : Moves (· = ·) m) {r : Except ε α} {s' : σ}
    {faults rest : List (Fault ε)} (hrun : attempt m s faults = (.returned r, s', rest)) :
    s = s' := by
  have hend := wp_attempt (Q := Post.always (s = ·)) (hreads s) faults
  rw [hrun] at hend
  exact hend

end Program

/-- A script that is run by its worker alone. -/
def Script.run {σ ε α : Type} : Script σ ε α → Program σ ε α
  | .done a => pure a
  | .reading m next => attempt m >>= fun r => (next r).run
  | .locked m _ next => attempt m >>= fun r => (next r).run

/-- **The world of some workers**: what they share, and for each what it still has to do and
the faults that its effects will meet. -/
structure World (ι σ ε α : Type) : Type 1 where
  shared : σ
  script : ι → Script σ ε α
  faults : ι → List (Fault ε)

namespace World

section Steps

variable {ι σ ε α : Type} [DecidableEq ι]

/-- The world after a step of a worker. -/
def goOn (w : World ι σ ε α) (i : ι) (shared : σ) (script : Script σ ε α)
    (rest : List (Fault ε)) : World ι σ ε α where
  shared := shared
  script := Function.update w.script i script
  faults := Function.update w.faults i rest

/-- **A step of a world.** A worker reads, or makes a locked step, or it reads in the middle
of the locked step of another one. No process stops. -/
inductive Step : World ι σ ε α → World ι σ ε α → Prop
  | read {w : World ι σ ε α} (i : ι) {β : Type} {m : Program σ ε β}
    {next : Except ε β → Script σ ε α} {r : Except ε β} {s : σ} {rest : List (Fault ε)}
    (hscript : w.script i = .reading m next)
    (hrun : attempt m w.shared (w.faults i) = (.returned r, s, rest)) :
    Step w (w.goOn i s (next r) rest)
  | write {w : World ι σ ε α} (i : ι) {β : Type} {m : Program σ ε β} {shows : σ → σ → Prop}
    {next : Except ε β → Script σ ε α} {r : Except ε β} {s : σ} {rest : List (Fault ε)}
    (hscript : w.script i = .locked m shows next)
    (hrun : attempt m w.shared (w.faults i) = (.returned r, s, rest)) :
    Step w (w.goOn i s (next r) rest)
  | readMeanwhile {w : World ι σ ε α} (i j : ι) {β β' : Type} {m : Program σ ε β}
    {m' : Program σ ε β'} {shows : σ → σ → Prop} {next : Except ε β → Script σ ε α}
    {next' : Except ε β' → Script σ ε α} {r : Except ε β} (seen : σ) {s : σ}
    {rest : List (Fault ε)} (hscript : w.script i = .reading m next)
    (hlocked : w.script j = .locked m' shows next') (hseen : shows w.shared seen)
    (hrun : attempt m seen (w.faults i) = (.returned r, s, rest)) :
    Step w (w.goOn i w.shared (next r) rest)

/-- A run of a world. -/
abbrev Run : World ι σ ε α → World ι σ ε α → Prop := Relation.ReflTransGen Step

@[simp] theorem goOn_shared (w : World ι σ ε α) (i : ι) (s : σ) (script : Script σ ε α)
    (rest : List (Fault ε)) : (w.goOn i s script rest).shared = s := rfl

@[simp] theorem goOn_script_self (w : World ι σ ε α) (i : ι) (s : σ) (script : Script σ ε α)
    (rest : List (Fault ε)) : (w.goOn i s script rest).script i = script := Function.update_self ..

@[simp] theorem goOn_faults_self (w : World ι σ ε α) (i : ι) (s : σ) (script : Script σ ε α)
    (rest : List (Fault ε)) : (w.goOn i s script rest).faults i = rest := Function.update_self ..

theorem goOn_script_of_ne {i j : ι} (h : j ≠ i) (w : World ι σ ε α) (s : σ)
    (script : Script σ ε α) (rest : List (Fault ε)) :
    (w.goOn i s script rest).script j = w.script j := Function.update_of_ne h ..

theorem goOn_faults_of_ne {i j : ι} (h : j ≠ i) (w : World ι σ ε α) (s : σ)
    (script : Script σ ε α) (rest : List (Fault ε)) :
    (w.goOn i s script rest).faults j = w.faults j := Function.update_of_ne h ..

@[simp] theorem goOn_goOn (w : World ι σ ε α) (i : ι) (s s' : σ) (script script' : Script σ ε α)
    (rest rest' : List (Fault ε)) :
    (w.goOn i s script rest).goOn i s' script' rest' = w.goOn i s' script' rest' := by
  simp only [goOn, Function.update_idem]

/-- A worker that has nothing to do goes on with that. -/
theorem goOn_of_done {w : World ι σ ε α} {i : ι} {a : α} (h : w.script i = .done a) :
    w.goOn i w.shared (.done a) (w.faults i) = w := by
  simp only [goOn, ← h, Function.update_eq_self]

/-- **The workers may go one after the other**: what one of them does alone is a run of the
world. -/
theorem run_alone {w : World ι σ ε α} {i : ι} {a : α} {s : σ} {rest : List (Fault ε)}
    (h : (w.script i).run w.shared (w.faults i) = (.returned a, s, rest)) :
    Run w (w.goOn i s (.done a) rest) := by
  generalize hscript : w.script i = script at h
  induction script generalizing w with
  | done b =>
    cases h
    rw [goOn_of_done hscript]
  | reading m next ih =>
    obtain ⟨r, s', rest', hm, hnext⟩ := returned_of_bind h
    have hrest := @ih r (w.goOn i s' (next r) rest') (by simp) (by simpa using hnext)
    rw [goOn_goOn] at hrest
    exact .head (.read i hscript hm) hrest
  | locked m shows next ih =>
    obtain ⟨r, s', rest', hm, hnext⟩ := returned_of_bind h
    have hrest := @ih r (w.goOn i s' (next r) rest') (by simp) (by simpa using hnext)
    rw [goOn_goOn] at hrest
    exact .head (.write i hscript hm) hrest

end Steps

end World

/-! ## Parts of a state -/

/-- **Who owns what.** Each worker has a part of every state; the states in which a worker
may be are the valid ones; and what belongs to nobody changes in certain ways only. -/
structure Ownership (ι σ ν : Type) where
  valid : σ → Prop
  own : ι → σ → ν
  others : σ → σ → Prop
  others_refl : ∀ s, others s s
  others_trans : ∀ s t u, others s t → others t u → others s u

namespace Ownership

variable {ι σ ν ε α β : Type} (o : Ownership ι σ ν)

/-- Only the part of one worker has changed. -/
structure Frame (i : ι) (s s' : σ) : Prop where
  valid : o.valid s'
  own : ∀ j, j ≠ i → o.own j s' = o.own j s
  others : o.others s s'

/-- **A program of a worker**: it changes the part of its worker only, and all that it reads
of the state is this part. -/
structure Local (i : ι) (m : Program σ ε β) (P : Except ε β → Prop) : Prop where
  frame : ∀ s, o.valid s → wp m ⟨fun b s' => o.Frame i s s' ∧ P (.ok b),
    fun e s' => o.Frame i s s' ∧ P (.error e), fun _ => True⟩ s
  alike : ∀ s t, o.valid s → o.valid t → o.own i s = o.own i t →
    wpPair m m ⟨fun b b' s' t' => b = b' ∧ o.own i s' = o.own i t',
      fun s' t' => o.own i s' = o.own i t'⟩ s t

/-- **A script of a worker**: so are its steps, and what its locked steps show to the others
is valid and does not concern their parts. -/
inductive Keeps (i : ι) : Script σ ε α → Prop
  | done (a : α) : Keeps i (.done a)
  | reading {β : Type} {m : Program σ ε β} {next : Except ε β → Script σ ε α}
    (P : Except ε β → Prop) (hm : o.Local i m P) (hreads : Moves (· = ·) m)
    (hnext : ∀ r, P r → Keeps i (next r)) : Keeps i (.reading m next)
  | locked {β : Type} {m : Program σ ε β} {shows : σ → σ → Prop}
    {next : Except ε β → Script σ ε α} (P : Except ε β → Prop) (hm : o.Local i m P)
    (hshows : ∀ s seen, o.valid s → shows s seen → o.Frame i s seen)
    (hnext : ∀ r, P r → Keeps i (next r)) : Keeps i (.locked m shows next)

variable {o} {i : ι} {s t : σ} {m : Program σ ε β} {P : Except ε β → Prop}

theorem Frame.refl (h : o.valid s) : o.Frame i s s := ⟨h, fun _ _ => rfl, o.others_refl s⟩

theorem Frame.trans {u : σ} (h : o.Frame i s t) (h' : o.Frame i t u) : o.Frame i s u :=
  ⟨h'.valid, fun j hj => (h'.own j hj).trans (h.own j hj), o.others_trans _ _ _ h.others h'.others⟩

/-- A program of a worker that only reads. -/
theorem Local.of_reads (hreads : Moves (· = ·) m)
    (hp : ∀ s, wp m ⟨fun b _ => P (.ok b), fun e _ => P (.error e), fun _ => True⟩ s)
    (halike : ∀ s t, o.valid s → o.valid t → o.own i s = o.own i t →
      wpPair m m ⟨fun b b' _ _ => b = b', fun _ _ => True⟩ s t) : o.Local i m P where
  frame s hs := wp_mono (wp_and (hreads s) (hp s))
    (fun b s' h => ⟨h.1 ▸ .refl hs, h.2⟩) (fun e s' h => ⟨h.1 ▸ .refl hs, h.2⟩)
    (fun _ _ => trivial)
  alike s t hs ht hown := by
    refine wpPair_mono (wpPair_and (halike s t hs ht hown) (hreads s) (hreads t))
      (fun b b' s' t' h => ?_) (fun s' t' h => ?_)
    · obtain ⟨hb, hs', ht'⟩ := h
      obtain rfl : s = s' := hs'
      obtain rfl : t = t' := ht'
      exact ⟨hb, hown⟩
    · obtain ⟨-, e, hs', ht'⟩ := h
      obtain rfl : s = s' := hs'
      obtain rfl : t = t' := ht'
      exact hown

/-- A step of a worker, made in two states that it cannot tell apart. -/
theorem Local.attempt (h : o.Local i m P) (hs : o.valid s) (ht : o.valid t)
    (hown : o.own i s = o.own i t) {faults rest : List (Fault ε)} {r : Except ε β} {s' : σ}
    (hrun : attempt m s faults = (.returned r, s', rest)) :
    P r ∧ o.Frame i s s' ∧ ∃ t', Program.attempt m t faults = (.returned r, t', rest)
      ∧ o.valid t' ∧ o.own i t' = o.own i s' := by
  have hframe := h.frame s hs faults
  have hframe' := h.frame t ht faults
  have hends := h.alike s t hs ht hown faults
  unfold Program.attempt at hrun ⊢
  generalize m s faults = end_ at *
  generalize m t faults = end' at *
  cases hends with
  | returned hr =>
    obtain ⟨rfl, hown'⟩ := hr
    cases hrun
    exact ⟨hframe.2, hframe.1, _, rfl, hframe'.1.valid, hown'.symm⟩
  | raised hown' =>
    cases hrun
    exact ⟨hframe.2, hframe.1, _, rfl, hframe'.1.valid, hown'.symm⟩
  | crashed => cases hrun

end Ownership

/-! ## Nobody notices the others -/

section Alone

variable {ι σ ν ε α β : Type} {o : Ownership ι σ ν} {start w w' : World ι σ ε α}

/-- **Every worker seems to be alone**: there is a state that it cannot tell from the shared
one, and what it still has to do there is the rest of what it does alone. -/
structure SeemsAlone (o : Ownership ι σ ν) (start w : World ι σ ε α) : Prop where
  valid : o.valid w.shared
  others : o.others start.shared w.shared
  keeps : ∀ i, o.Keeps i (w.script i)
  alone : ∀ i, ∃ t, o.valid t ∧ o.own i t = o.own i w.shared
    ∧ (w.script i).run t (w.faults i) = (start.script i).run start.shared (start.faults i)

theorem SeemsAlone.initial (hvalid : o.valid start.shared)
    (hkeeps : ∀ i, o.Keeps i (start.script i)) : SeemsAlone o start start :=
  ⟨hvalid, o.others_refl _, hkeeps, fun _ => ⟨_, hvalid, rfl, rfl⟩⟩

variable [DecidableEq ι]

/-- One worker goes on, from a state that it cannot tell from the shared one. -/
theorem SeemsAlone.goOn (h : SeemsAlone o start w) {i : ι} {m : Program σ ε β}
    {P : Except ε β → Prop} {next : Except ε β → Script σ ε α} (hm : o.Local i m P)
    (hnext : ∀ r, P r → o.Keeps i (next r))
    (hscript : (w.script i).run = attempt m >>= fun r => (next r).run)
    {seen s shared : σ} {r : Except ε β} {rest : List (Fault ε)} (hvalid : o.valid seen)
    (hseen : o.own i seen = o.own i w.shared)
    (hrun : attempt m seen (w.faults i) = (.returned r, s, rest))
    (hframe : o.Frame i w.shared shared) (hown : o.own i shared = o.own i s) :
    SeemsAlone o start (w.goOn i shared (next r) rest) := by
  obtain ⟨t, ht, hti, halone⟩ := h.alone i
  obtain ⟨hr, -, t', hrun', ht', hti'⟩ := hm.attempt hvalid ht (hseen.trans hti.symm) hrun
  refine ⟨hframe.valid, o.others_trans _ _ _ h.others hframe.others, fun j => ?_, fun j => ?_⟩
  · by_cases hj : j = i
    · subst hj
      rw [World.goOn_script_self]
      exact hnext r hr
    · rw [World.goOn_script_of_ne hj]
      exact h.keeps j
  · by_cases hj : j = i
    · subst hj
      refine ⟨t', ht', hti'.trans hown.symm, ?_⟩
      rw [World.goOn_script_self, World.goOn_faults_self, ← halone, hscript]
      exact (run_bind_of_returned (k := fun r => (next r).run) hrun').symm
    · obtain ⟨u, hu, huj, halone'⟩ := h.alone j
      refine ⟨u, hu, huj.trans (hframe.own j hj).symm, ?_⟩
      rw [World.goOn_script_of_ne hj, World.goOn_faults_of_ne hj]
      exact halone'

/-- **Every step keeps it.** -/
theorem SeemsAlone.step (h : SeemsAlone o start w) (hstep : World.Step w w') :
    SeemsAlone o start w' := by
  cases hstep with
  | read i hscript hrun =>
    have hkeeps := h.keeps i
    rw [hscript] at hkeeps
    cases hkeeps with
    | reading P hm hreads hnext =>
      exact h.goOn hm hnext (by rw [hscript]; rfl) h.valid rfl hrun
        (hm.attempt h.valid h.valid rfl hrun).2.1 rfl
  | write i hscript hrun =>
    have hkeeps := h.keeps i
    rw [hscript] at hkeeps
    cases hkeeps with
    | locked P hm hshows hnext =>
      exact h.goOn hm hnext (by rw [hscript]; rfl) h.valid rfl hrun
        (hm.attempt h.valid h.valid rfl hrun).2.1 rfl
  | readMeanwhile i j seen hscript hlocked hseen hrun =>
    have hkeeps := h.keeps i
    have hkeeps' := h.keeps j
    rw [hscript] at hkeeps
    rw [hlocked] at hkeeps'
    have hij : i ≠ j := by
      rintro rfl
      rw [hscript] at hlocked
      cases hlocked
    cases hkeeps with
    | reading P hm hreads hnext =>
      cases hkeeps' with
      | locked P' hm' hshows hnext' =>
        have hframe := hshows _ _ h.valid hseen
        have hsame := hframe.own i hij
        -- a reader leaves what it has seen as it is
        exact h.goOn hm hnext (by rw [hscript]; rfl) hframe.valid hsame hrun (.refl h.valid)
          (by rw [← eq_of_attempt hreads hrun, hsame])

/-- **Nobody notices the others**, in no run of the world. -/
theorem World.Run.seemsAlone (hrun : World.Run start w) (hvalid : o.valid start.shared)
    (hkeeps : ∀ i, o.Keeps i (start.script i)) : SeemsAlone o start w := by
  induction hrun with
  | refl => exact .initial hvalid hkeeps
  | tail _ hstep ih => exact ih.step hstep

omit [DecidableEq ι] in
/-- A worker that is done has returned what it returns alone, and has left its part as it
leaves it alone. -/
theorem SeemsAlone.of_done (h : SeemsAlone o start w) {i : ι} {a : α}
    (hdone : w.script i = .done a) :
    ∃ t, (start.script i).run start.shared (start.faults i) = (.returned a, t, w.faults i)
      ∧ o.valid t ∧ o.own i w.shared = o.own i t := by
  obtain ⟨t, ht, hown, halone⟩ := h.alone i
  rw [hdone] at halone
  exact ⟨t, halone.symm, ht, hown.symm⟩

end Alone

/-! ## One after the other -/

section Progress

variable {ι σ ν ε α β : Type} {o : Ownership ι σ ν} {i : ι}

/-- **Where a program returns in one state**, it returns the same in every state that its worker
cannot tell from it, and leaves the parts of the others. -/
def Ownership.EndsAlike (o : Ownership ι σ ν) (i : ι) (m : Program σ ε α) : Prop :=
  ∀ ⦃s t s' : σ⦄ ⦃a : α⦄ ⦃faults rest : List (Fault ε)⦄, o.valid s → o.valid t →
    o.own i s = o.own i t → m s faults = (.returned a, s', rest) →
      ∃ t', m t faults = (.returned a, t', rest) ∧ o.Frame i t t'

/-- A step is made alike, and leaves states that are alike. -/
theorem Ownership.Local.endsAlike_bind {m : Program σ ε β} {P : Except ε β → Prop}
    {k : Except ε β → Program σ ε α} (hm : o.Local i m P)
    (hk : ∀ r, P r → o.EndsAlike i (k r)) : o.EndsAlike i (Program.attempt m >>= k) := by
  intro s t s' a faults rest hs ht hown hrun
  obtain ⟨r, s₁, rest₁, hfirst, hnext⟩ := returned_of_bind hrun
  obtain ⟨hr, hframe, t₁, hfirst', -, hown₁⟩ := hm.attempt hs ht hown hfirst
  have hframe' : o.Frame i t t₁ := (hm.attempt ht ht rfl hfirst').2.1
  obtain ⟨t', hnext', hrest⟩ := hk r hr hframe.valid hframe'.valid hown₁.symm hnext
  exact ⟨t', (run_bind_of_returned hfirst').trans hnext', hframe'.trans hrest⟩

/-- **The script of a worker** ends alike. -/
theorem Ownership.Keeps.endsAlike {script : Script σ ε α} (h : o.Keeps i script) :
    o.EndsAlike i script.run := by
  induction h with
  | done b =>
    intro s t s' a faults rest _ ht _ hrun
    cases hrun
    exact ⟨t, rfl, .refl ht⟩
  | reading P hm _ _ ih => exact hm.endsAlike_bind ih
  | locked P hm _ _ ih => exact hm.endsAlike_bind ih

/-- **Workers that each come to an end come to an end together**, one after the other: where
every one of them ends in all states in which it finds its part as it is at the start, and
leaves the parts of the others. -/
theorem World.exists_run_done [DecidableEq ι] [Fintype ι] {start : World ι σ ε α}
    {P : ι → α → Prop} (hvalid : o.valid start.shared)
    (hends : ∀ i s, o.valid s → o.own i s = o.own i start.shared →
      ∃ a s' rest, (start.script i).run s (start.faults i) = (.returned a, s', rest)
        ∧ o.Frame i s s' ∧ P i a) :
    ∃ w, World.Run start w ∧ ∀ i, ∃ a, w.script i = .done a ∧ P i a := by
  -- some have come to an end, and the others have not begun
  have hsome : ∀ workers : Finset ι, ∃ w, World.Run start w ∧ o.valid w.shared
      ∧ (∀ i ∈ workers, ∃ a, w.script i = .done a ∧ P i a)
      ∧ ∀ i ∉ workers, w.script i = start.script i ∧ w.faults i = start.faults i
        ∧ o.own i w.shared = o.own i start.shared := by
    intro workers
    induction workers using Finset.induction_on with
    | empty => exact ⟨start, .refl, hvalid, by simp, fun i _ => ⟨rfl, rfl, rfl⟩⟩
    | insert i workers hi ih =>
      obtain ⟨w, hrun, hw, hdone, hothers⟩ := ih
      obtain ⟨hscript, hfaults, hown⟩ := hothers i hi
      obtain ⟨a, s', rest, halone, hframe, ha⟩ := hends i w.shared hw hown
      rw [← hscript, ← hfaults] at halone
      refine ⟨w.goOn i s' (.done a) rest, hrun.trans (World.run_alone halone), hframe.valid,
        fun j hj => ?_, fun j hj => ?_⟩
      · by_cases hji : j = i
        · subst hji
          exact ⟨a, World.goOn_script_self .., ha⟩
        · rw [World.goOn_script_of_ne hji]
          exact hdone j (Finset.mem_of_mem_insert_of_ne hj hji)
      · obtain ⟨hji, hj⟩ := not_or.mp (Finset.mem_insert.not.mp hj)
        obtain ⟨hscript, hfaults, hown⟩ := hothers j hj
        rw [World.goOn_script_of_ne hji, World.goOn_faults_of_ne hji]
        exact ⟨hscript, hfaults, (hframe.own j hji).trans hown⟩
  obtain ⟨w, hrun, -, hdone, -⟩ := hsome Finset.univ
  exact ⟨w, hrun, fun i => hdone i (Finset.mem_univ i)⟩

end Progress

/-! ## Workers that find their parts as they have left them -/

section Stays

variable {ι σ ν ε α β : Type} {o : Ownership ι σ ν} {I : ι → ν → Prop} {Q : ι → α → ν → Prop}
  {start w w' : World ι σ ε α}

/-- **A script that keeps to the part of its worker**, from a value of this part on: what holds
of the part until the worker is done, and what holds of it then. -/
inductive Stays (o : Ownership ι σ ν) (i : ι) (I : ν → Prop) (Q : α → ν → Prop) :
    Script σ ε α → ν → Prop
  | done {a : α} {v : ν} (hq : Q a v) : Stays o i I Q (.done a) v
  | reading {β : Type} {m : Program σ ε β} {next : Except ε β → Script σ ε α} {v : ν} (h : I v)
    (hreads : Moves (· = ·) m)
    (hnext : ∀ s faults r s' rest, o.valid s → o.own i s = v →
      attempt m s faults = (.returned r, s', rest) → Stays o i I Q (next r) v) :
    Stays o i I Q (.reading m next) v
  | locked {β : Type} {m : Program σ ε β} {shows : σ → σ → Prop}
    {next : Except ε β → Script σ ε α} {v : ν} (h : I v)
    (hframe : ∀ s faults r s' rest, o.valid s → o.own i s = v →
      attempt m s faults = (.returned r, s', rest) → o.Frame i s s')
    (hnext : ∀ s faults r s' rest, o.valid s → o.own i s = v →
      attempt m s faults = (.returned r, s', rest) → Stays o i I Q (next r) (o.own i s'))
    (hshows : ∀ s seen, o.valid s → shows s seen → o.Frame i s seen) :
    Stays o i I Q (.locked m shows next) v

theorem Stays.holds_or_done {i : ι} {I : ν → Prop} {Q : α → ν → Prop} {script : Script σ ε α}
    {v : ν} (h : Stays o i I Q script v) : I v ∨ ∃ a, script = .done a ∧ Q a v := by
  cases h with
  | done hq => exact .inr ⟨_, rfl, hq⟩
  | reading hI hreads hnext => exact .inl hI
  | locked hI hframe hnext hshows => exact .inl hI

theorem Stays.holds {i : ι} {I : ν → Prop} {Q : α → ν → Prop} {script : Script σ ε α} {v : ν}
    (h : Stays o i I Q script v) (hdone : ∀ a v, Q a v → I v) : I v := by
  rcases h.holds_or_done with hI | ⟨a, -, hq⟩
  · exact hI
  · exact hdone a v hq

theorem Stays.of_done {i : ι} {I : ν → Prop} {Q : α → ν → Prop} {a : α} {v : ν}
    (h : Stays (ε := ε) o i I Q (.done a) v) : Q a v := by
  cases h
  assumption

/-- A world in which every worker keeps to its part. -/
structure AllStay (o : Ownership ι σ ν) (I : ι → ν → Prop) (Q : ι → α → ν → Prop)
    (start w : World ι σ ε α) : Prop where
  valid : o.valid w.shared
  others : o.others start.shared w.shared
  stays : ∀ i, Stays o i (I i) (Q i) (w.script i) (o.own i w.shared)

variable [DecidableEq ι]

/-- One worker goes on, and the others find their parts as they were. -/
theorem AllStay.goOn (h : AllStay o I Q start w) {i : ι} {shared : σ} {script : Script σ ε α}
    {rest : List (Fault ε)} (hframe : o.Frame i w.shared shared)
    (hstays : Stays o i (I i) (Q i) script (o.own i shared)) :
    AllStay o I Q start (w.goOn i shared script rest) := by
  refine ⟨hframe.valid, o.others_trans _ _ _ h.others hframe.others, fun j => ?_⟩
  by_cases hj : j = i
  · subst hj
    rw [World.goOn_script_self]
    exact hstays
  · rw [World.goOn_script_of_ne hj, World.goOn_shared, hframe.own j hj]
    exact h.stays j

theorem AllStay.step (h : AllStay o I Q start w) (hstep : World.Step w w') :
    AllStay o I Q start w' := by
  cases hstep with
  | read i hscript hrun =>
    have hstays := h.stays i
    rw [hscript] at hstays
    cases hstays with
    | reading hI hreads hnext =>
      rw [← eq_of_attempt hreads hrun]
      exact h.goOn (.refl h.valid) (hnext _ _ _ _ _ h.valid rfl hrun)
  | write i hscript hrun =>
    have hstays := h.stays i
    rw [hscript] at hstays
    cases hstays with
    | locked hI hframe hnext hshows =>
      exact h.goOn (hframe _ _ _ _ _ h.valid rfl hrun) (hnext _ _ _ _ _ h.valid rfl hrun)
  | readMeanwhile i j seen hscript hlocked hseen hrun =>
    have hstays := h.stays i
    have hstays' := h.stays j
    rw [hscript] at hstays
    rw [hlocked] at hstays'
    have hij : i ≠ j := by
      rintro rfl
      rw [hscript] at hlocked
      cases hlocked
    cases hstays with
    | reading hI hreads hnext =>
      cases hstays' with
      | locked hI' hframe' hnext' hshows' =>
        have hframe := hshows' _ _ h.valid hseen
        exact h.goOn (.refl h.valid) (hnext _ _ _ _ _ hframe.valid (hframe.own i hij) hrun)

/-- **Every worker keeps to its part**, in every run of the world. -/
theorem World.Run.allStay (hrun : World.Run start w) (hvalid : o.valid start.shared)
    (hstays : ∀ i, Stays o i (I i) (Q i) (start.script i) (o.own i start.shared)) :
    AllStay o I Q start w := by
  induction hrun with
  | refl => exact ⟨hvalid, o.others_refl _, hstays⟩
  | tail _ hstep ih => exact ih.step hstep

end Stays
