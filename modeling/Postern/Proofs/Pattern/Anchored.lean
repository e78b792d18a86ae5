import Postern.Pattern.Reader

/-!
Patterns of literal characters that are anchored at the start of a text.  The start is the only place where they can
begin to match (`filter_textStart`), so they match the texts that begin with these characters (`isMatch_beginning`), and
with an anchor at the end too just the one text (`isMatch_exactly`).
-/

namespace Postern.Pattern

/-- The pattern of the texts that begin with some characters. -/
def beginning (cs : List Char) : Pattern := .seq (.assertion .textStart :: cs.map (.char .exact))

/-- The pattern of a text that consists of some characters. -/
def exactly (cs : List Char) : Pattern :=
  .seq (.assertion .textStart :: (cs.map (.char .exact) ++ [.assertion .textEnd]))

section
variable (cs ds : List Char) (before : Option Char)

theorem endsSeq_append (rs ts : List Pattern) (ps : List Place) :
    endsSeq (rs ++ ts) ps = endsSeq ts (endsSeq rs ps) := by
  induction rs generalizing ps with
  | nil => rfl
  | cons r rs ih => exact ih (ends r ps)

theorem filter_textStart_some (c : Char) : (placesFrom (some c) cs).filter Assertion.textStart.holds = [] := by
  induction cs generalizing c with
  | nil => rfl
  | cons d cs ih => exact ih d

theorem filter_textStart (text : String) :
    (places text).filter Assertion.textStart.holds = [⟨none, text.toList⟩] := by
  unfold places
  cases text.toList with
  | nil => rfl
  | cons c cs => exact congrArg _ (filter_textStart_some cs c)

theorem endsSeq_chars_nil : endsSeq (cs.map (.char .exact)) [] = [] := by
  induction cs with
  | nil => rfl
  | cons c cs ih => exact ih

/-- Literal characters lead past themselves, or nowhere. -/
theorem endsSeq_chars :
    (∃ rest after, ds = cs ++ rest ∧ endsSeq (cs.map (.char .exact)) [⟨before, ds⟩] = [⟨after, rest⟩]) ∨
      (¬ cs <+: ds ∧ endsSeq (cs.map (.char .exact)) [⟨before, ds⟩] = []) := by
  induction cs generalizing ds before with
  | nil => exact .inl ⟨ds, before, rfl, rfl⟩
  | cons c cs ih =>
    cases ds with
    | nil => exact .inr ⟨by simp, endsSeq_chars_nil cs⟩
    | cons d ds =>
      have hstep : endsSeq ((c :: cs).map (.char .exact)) [⟨before, d :: ds⟩] =
          endsSeq (cs.map (.char .exact)) (if d = c then [⟨some d, ds⟩] else []) := by
        simp [endsSeq, ends, advance, CaseRule.orbit, eq_comm]
      rw [hstep]
      split
      · rename_i he
        subst he
        rcases ih ds (some d) with ⟨rest, after, rfl, hends⟩ | ⟨hnot, hends⟩
        · exact .inl ⟨rest, after, rfl, hends⟩
        · exact .inr ⟨fun h => hnot (List.cons_prefix_cons.1 h).2, hends⟩
      · rename_i hne
        exact .inr ⟨fun h => hne (List.cons_prefix_cons.1 h).1.symm, endsSeq_chars_nil cs⟩

end

/-- **Anchored at the start, characters match the texts that begin with them.** -/
theorem isMatch_beginning (cs : List Char) (text : String) :
    (beginning cs).isMatch text = true ↔ cs <+: text.toList := by
  have hends : ends (beginning cs) (places text) = endsSeq (cs.map (.char .exact)) [⟨none, text.toList⟩] := by
    rw [← filter_textStart]
    rfl
  rw [isMatch, hends]
  rcases endsSeq_chars cs text.toList none with ⟨rest, after, htext, hends⟩ | ⟨hnot, hends⟩
  · rw [hends, htext]
    simp
  · simp [hends, hnot]

/-- **Anchored at both ends, they match themselves.** -/
theorem isMatch_exactly (word text : String) : (exactly word.toList).isMatch text = true ↔ text = word := by
  have hends : ends (exactly word.toList) (places text) =
      (endsSeq (word.toList.map (.char .exact)) [⟨none, text.toList⟩]).filter Assertion.textEnd.holds := by
    rw [← filter_textStart]
    exact endsSeq_append ..
  rw [isMatch, hends, ← String.toList_inj]
  rcases endsSeq_chars word.toList text.toList none with ⟨rest, after, htext, hends⟩ | ⟨hnot, hends⟩
  · rw [hends, htext]
    cases rest <;> simp [Assertion.holds]
  · rw [hends]
    simp only [List.filter_nil, ne_eq, not_true, decide_false, Bool.false_eq_true, false_iff]
    exact fun he => hnot (he ▸ List.prefix_refl _)

end Postern.Pattern
