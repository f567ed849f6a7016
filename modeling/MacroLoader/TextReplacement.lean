import Mathlib.Data.List.Infix
import Mathlib.Data.List.Lattice

/-!
# Replacing words in a text

A word is replaced in a text from left to right, one occurrence after the other and
without overlaps. What comes out can have new words in it: letters that were apart
become neighbours, and the letters of the replacement join in. A word that shares no
letter with the replacement cannot come about like this (`infix_of_infix_replace`),
because between two pieces of the text that are joined there is always a replacement.
So if the words that are replaced one after the other share no letter with it, none of
them is left in the end, in whatever order and however they overlap
(`not_infix_replaceEach`).
-/

namespace TextReplacement

variable {α : Type} [DecidableEq α]

/-- The text without some letters at its beginning, with the occurrences of a word in
it replaced. -/
def replaceFrom (old new : List α) : ℕ → List α → List α
  | _, [] => []
  | skip + 1, _ :: rest => replaceFrom old new skip rest
  | 0, c :: rest =>
    if old.isPrefixOf (c :: rest) then new ++ replaceFrom old new (old.length - 1) rest
    else c :: replaceFrom old new 0 rest

/-- **A text with every occurrence of a word replaced.** -/
def replace (old new text : List α) : List α := replaceFrom old new 0 text

/-- A text with the occurrences of several words replaced, one word after the other. -/
def replaceEach (new : List α) (words : List (List α)) (text : List α) : List α :=
  words.foldl (fun text old => replace old new text) text

section Occurrences

variable {old new text w : List α} {skip : ℕ}

omit [DecidableEq α] in
/-- A word that shares no letter with a text does not begin in it. -/
theorem eq_nil_of_prefix_append (hnew : new ≠ []) (hw : w.Disjoint new) {rest : List α}
    (h : w <+: new ++ rest) : w = [] := by
  cases w with
  | nil => rfl
  | cons a w =>
    cases new with
    | nil => exact absurd rfl hnew
    | cons b new =>
      obtain rfl : a = b := (List.cons_prefix_cons.mp h).1
      exact absurd List.mem_cons_self (List.disjoint_left.mp hw List.mem_cons_self)

omit [DecidableEq α] in
theorem infix_of_infix_append (hw : w.Disjoint new) {rest : List α} (h : w <:+: new ++ rest) :
    w <:+: rest := by
  induction new with
  | nil => exact h
  | cons b new ih =>
    have htail : w.Disjoint new :=
      List.disjoint_left.mpr (fun a ha => fun hb =>
        List.disjoint_left.mp hw ha (List.mem_cons_of_mem b hb))
    rcases List.infix_cons_iff.mp h with hstart | hinfix
    · have hnil : w = [] := eq_nil_of_prefix_append (List.cons_ne_nil b new) hw hstart
      rw [hnil]
      exact List.nil_infix
    · exact ih htail hinfix

/-- A word the text begins with after the replacement is one it began with. -/
theorem prefix_of_prefix_replaceFrom (hnew : new ≠ []) (hw : w.Disjoint new)
    (h : w <+: replaceFrom old new 0 text) : w <+: text := by
  induction text generalizing w with
  | nil => exact h
  | cons c rest ih =>
    rw [replaceFrom] at h
    split_ifs at h with hmatch
    · rw [eq_nil_of_prefix_append hnew hw h]
      exact List.nil_prefix
    · rcases List.prefix_cons_iff.mp h with rfl | ⟨w', rfl, hw'⟩
      · exact List.nil_prefix
      · exact List.cons_prefix_cons.mpr ⟨rfl, ih (List.disjoint_cons_left.mp hw).2 hw'⟩

theorem infix_of_infix_replaceFrom (hnew : new ≠ []) (hw : w.Disjoint new)
    (h : w <:+: replaceFrom old new skip text) : w <:+: text := by
  induction text generalizing skip with
  | nil => exact h
  | cons c rest ih =>
    cases skip with
    | succ skip => exact List.infix_cons (ih h)
    | zero =>
      have hstart : w <+: replaceFrom old new 0 (c :: rest) → w <+: c :: rest :=
        prefix_of_prefix_replaceFrom hnew hw
      rw [replaceFrom] at h hstart
      split_ifs at h hstart with hmatch
      · exact List.infix_cons (ih (infix_of_infix_append hw h))
      · rcases List.infix_cons_iff.mp h with hbegins | hinfix
        · exact (hstart hbegins).isInfix
        · exact List.infix_cons (ih hinfix)

theorem not_infix_replaceFrom (hold : old ≠ []) (hnew : new ≠ []) (hw : old.Disjoint new) :
    ¬ old <:+: replaceFrom old new skip text := by
  induction text generalizing skip with
  | nil => exact fun h => hold (List.infix_nil.mp h)
  | cons c rest ih =>
    cases skip with
    | succ skip => exact ih
    | zero =>
      intro h
      have hstart : old <+: replaceFrom old new 0 (c :: rest) → old <+: c :: rest :=
        prefix_of_prefix_replaceFrom hnew hw
      rw [replaceFrom] at h hstart
      split_ifs at h hstart with hmatch
      · exact ih (infix_of_infix_append hw h)
      · rcases List.infix_cons_iff.mp h with hbegins | hinfix
        · exact hmatch (List.isPrefixOf_iff_prefix.mpr (hstart hbegins))
        · exact ih hinfix

end Occurrences

section Words

variable {old new text w : List α} {words : List (List α)}

/-- **Replacing a word makes no new ones** that share no letter with the replacement. -/
theorem infix_of_infix_replace (hnew : new ≠ []) (hw : w.Disjoint new)
    (h : w <:+: replace old new text) : w <:+: text := infix_of_infix_replaceFrom hnew hw h

/-- **A word that is replaced is not left**, nor does it come about again. -/
theorem not_infix_replace (hold : old ≠ []) (hnew : new ≠ []) (hw : old.Disjoint new) :
    ¬ old <:+: replace old new text := not_infix_replaceFrom hold hnew hw

theorem infix_of_infix_replaceEach (hnew : new ≠ []) (hw : w.Disjoint new)
    (h : w <:+: replaceEach new words text) : w <:+: text := by
  induction words generalizing text with
  | nil => exact h
  | cons old rest ih => exact infix_of_infix_replace hnew hw (ih h)

/-- **No word that is replaced is left in the end.** -/
theorem not_infix_replaceEach (hnew : new ≠ [])
    (hwords : ∀ old ∈ words, old ≠ [] ∧ old.Disjoint new) :
    ∀ old ∈ words, ¬ old <:+: replaceEach new words text := by
  induction words generalizing text with
  | nil => exact fun _ hold => absurd hold List.not_mem_nil
  | cons old rest ih =>
    rw [List.forall_mem_cons] at hwords ⊢
    refine ⟨fun h => ?_, ih hwords.2⟩
    -- the later words do not bring it back
    have hleft : old <:+: replace old new text := infix_of_infix_replaceEach hnew hwords.1.2 h
    exact not_infix_replace hwords.1.1 hnew hwords.1.2 hleft

end Words

end TextReplacement
