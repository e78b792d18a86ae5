/-!
Splitting text at every occurrence of a separator.  `fields` loses nothing (`joined_fields`), its pieces are free of
separators (`not_mem_of_mem_fields`), and so it splits as `List.splitOn` does (`fields_eq_splitOn`).
-/

namespace Postern.Text

/-- The pieces of a text between the occurrences of `sep`; there is always one more than there are separators. -/
def fields (sep : Char) : List Char → List (List Char)
  | [] => [[]]
  | c :: cs =>
    if c = sep then [] :: fields sep cs
    else
      match fields sep cs with
      | [] => [[c]]
      | f :: fs => (c :: f) :: fs

def joined (sep : Char) : List (List Char) → List Char
  | [] => []
  | [f] => f
  | f :: g :: fs => f ++ sep :: joined sep (g :: fs)

/-- What stands before and after the last `sep` of a text. -/
def splitLast? (sep : Char) : List Char → Option (List Char × List Char)
  | [] => none
  | c :: cs =>
    match splitLast? sep cs with
    | some (before, after) => some (c :: before, after)
    | none => if c = sep then some ([], cs) else none

section
variable {sep : Char}

theorem fields_ne_nil (cs : List Char) : fields sep cs ≠ [] := by
  induction cs with
  | nil => simp [fields]
  | cons c cs ih =>
    unfold fields
    split
    · simp
    · split <;> simp

theorem fields_sep (cs : List Char) : fields sep (sep :: cs) = [] :: fields sep cs := by
  simp [fields]

theorem joined_fields (cs : List Char) : joined sep (fields sep cs) = cs := by
  induction cs with
  | nil => rfl
  | cons c cs ih =>
    unfold fields
    split
    · rename_i h
      cases hf : fields sep cs with
      | nil => exact absurd hf (fields_ne_nil cs)
      | cons f fs => rw [hf] at ih; simp [joined, ih, h]
    · cases hf : fields sep cs with
      | nil => exact absurd hf (fields_ne_nil cs)
      | cons f fs =>
        rw [hf] at ih
        cases fs with
        | nil => simpa [joined] using ih
        | cons g gs => simpa [joined] using ih

theorem not_mem_of_mem_fields (cs : List Char) : ∀ f ∈ fields sep cs, sep ∉ f := by
  induction cs with
  | nil => simp [fields]
  | cons c cs ih =>
    unfold fields
    split
    · simpa using ih
    · rename_i h
      cases hf : fields sep cs with
      | nil => exact absurd hf (fields_ne_nil cs)
      | cons f fs =>
        rw [hf] at ih
        intro g hg
        rcases List.mem_cons.1 hg with rfl | hg
        · have := ih f (by simp)
          simp [this, Ne.symm h]
        · exact ih g (by simp [hg])

theorem fields_of_not_mem {f : List Char} (h : sep ∉ f) : fields sep f = [f] := by
  induction f with
  | nil => rfl
  | cons c f ih =>
    simp only [List.mem_cons, not_or] at h
    simp [fields, ih h.2, Ne.symm h.1]

theorem splitLast?_eq_none {cs : List Char} (h : sep ∉ cs) : splitLast? sep cs = none := by
  induction cs with
  | nil => rfl
  | cons c cs ih =>
    simp only [List.mem_cons, not_or] at h
    simp [splitLast?, ih h.2, Ne.symm h.1]

theorem splitLast?_append_sep {after : List Char} (h : sep ∉ after) (before : List Char) :
    splitLast? sep (before ++ sep :: after) = some (before, after) := by
  induction before with
  | nil => simp [splitLast?, splitLast?_eq_none h]
  | cons c before ih => simp [splitLast?, ih]

theorem exists_last_of_mem {cs : List Char} (h : sep ∈ cs) :
    ∃ before after, cs = before ++ sep :: after ∧ sep ∉ after := by
  induction cs with
  | nil => simp at h
  | cons c cs ih =>
    by_cases hm : sep ∈ cs
    · obtain ⟨b, a, rfl, ha⟩ := ih hm
      exact ⟨c :: b, a, rfl, ha⟩
    · simp only [List.mem_cons, hm, or_false] at h
      exact ⟨[], cs, by simp [h], hm⟩

theorem append_of_splitLast? {cs before after : List Char} (h : splitLast? sep cs = some (before, after)) :
    cs = before ++ sep :: after ∧ sep ∉ after := by
  induction cs generalizing before with
  | nil => simp [splitLast?] at h
  | cons c cs ih =>
    unfold splitLast? at h
    split at h
    · rename_i b a hs
      simp only [Option.some.injEq, Prod.mk.injEq] at h
      obtain ⟨rfl, rfl⟩ := h
      obtain ⟨rfl, hn⟩ := ih hs
      exact ⟨rfl, hn⟩
    · rename_i hs
      split at h
      · rename_i hc
        simp only [Option.some.injEq, Prod.mk.injEq] at h
        obtain ⟨rfl, rfl⟩ := h
        refine ⟨by simp [hc], fun hm => ?_⟩
        obtain ⟨b, a, rfl, ha⟩ := exists_last_of_mem hm
        rw [splitLast?_append_sep ha] at hs
        cases hs
      · cases h

theorem fields_append_sep {f : List Char} (h : sep ∉ f) (cs : List Char) :
    fields sep (f ++ sep :: cs) = f :: fields sep cs := by
  induction f with
  | nil => simp [fields]
  | cons c f ih =>
    simp only [List.mem_cons, not_or] at h
    simp [fields, ih h.2, Ne.symm h.1]

theorem length_fields (cs : List Char) : (fields sep cs).length = cs.count sep + 1 := by
  induction cs with
  | nil => rfl
  | cons c cs ih =>
    by_cases h : c = sep
    · subst h
      rw [fields_sep, List.length_cons, ih, List.count_cons_self]
    · rw [List.count_cons_of_ne h, ← ih]
      cases hf : fields sep cs with
      | nil => exact absurd hf (fields_ne_nil cs)
      | cons f fs => simp [fields, h, hf]

theorem joined_eq_intercalate (fs : List (List Char)) : joined sep fs = [sep].intercalate fs := by
  induction fs with
  | nil => rfl
  | cons f fs ih =>
    cases fs with
    | nil => simp [joined]
    | cons g gs => rw [joined, ih, List.intercalate_cons_cons, List.append_assoc, List.singleton_append]

theorem fields_eq_splitOn (cs : List Char) : fields sep cs = cs.splitOn sep := by
  have h := List.splitOn_intercalate sep (not_mem_of_mem_fields cs) (fields_ne_nil cs)
  rw [← joined_eq_intercalate, joined_fields] at h
  exact h.symm

end

end Postern.Text
