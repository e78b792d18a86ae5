import Mathlib.Data.List.TakeWhile
import Postern.Http.Message
import Postern.Proofs.Text.Form

/-!
Targets that are read back.  The question mark may stand in no path and the number sign in neither part, so a target
that is written as a path and a query is cut where it was put together (`pathAndQuery?_append`).  A query in the form
encoding holds nothing that may not be sent (`isQueryChar_of_mem_encode`).
-/

namespace Postern.HttpRequest

section
variable {path query : List Char} (hpath : ∀ c ∈ path, isPathChar c = true)
  (hquery : ∀ c ∈ query, isQueryChar c = true)
include hpath hquery

theorem pathAndQuery?_append (hne : path ≠ []) :
    pathAndQuery? (path ++ '?' :: query) = some (String.ofList path, some (String.ofList query)) := by
  have hinPath : ∀ c ∈ path, decide (c ≠ '?' ∧ c ≠ '#') = true := by
    intro c hc
    have hallowed := hpath c hc
    refine decide_eq_true ⟨?_, ?_⟩
    · rintro rfl
      exact absurd hallowed (by decide)
    · rintro rfl
      exact absurd hallowed (by decide)
  have hinQuery : ∀ c ∈ query, decide (c ≠ '#') = true := by
    intro c hc
    refine decide_eq_true ?_
    rintro rfl
    exact absurd (hquery _ hc) (by decide)
  have htake : (path ++ '?' :: query).takeWhile (fun c => decide (c ≠ '?' ∧ c ≠ '#')) = path := by
    rw [List.takeWhile_append_of_pos hinPath]
    simp
  have hrest : query.takeWhile (fun c => decide (c ≠ '#')) = query := List.takeWhile_eq_self_iff.2 hinQuery
  have hpathAll : path.all isPathChar = true := List.all_eq_true.2 hpath
  have hqueryAll : query.all isQueryChar = true := List.all_eq_true.2 hquery
  simp only [pathAndQuery?, htake, hpathAll, if_true, List.drop_left, hrest, hqueryAll, if_neg hne]

/-- **A path and a query make a request,** unless they are too long to be sent. -/
theorem ofParts?_path (hslash : path.head? = some '/') {target : String}
    (htarget : target.toList = path ++ '?' :: query) (hsize : Text.Utf8.size target ≤ longestTarget)
    (headers : List (String × String)) :
    ofParts? "GET" target headers =
      (headers.mapM header?).map (⟨"GET", String.ofList path, some (String.ofList query), ·⟩) := by
  obtain ⟨rest, rfl⟩ : ∃ rest, path = '/' :: rest := List.head?_eq_some_iff.1 hslash
  have hread : target? target = some (String.ofList ('/' :: rest), some (String.ofList query)) := by
    rw [target?, if_neg (Nat.not_lt.2 hsize), htarget]
    exact pathAndQuery?_append hpath hquery (List.cons_ne_nil _ _)
  have hmethod : isMethod "GET" = true := by decide
  rw [ofParts?, if_pos hmethod, hread]
  cases headers.mapM header? with
  | none => rfl
  | some headers => rfl

end

/-! ### Queries of pairs -/

theorem isQueryChar_of_isWritten {c : Char} (h : Text.Form.isWritten c = true) : isQueryChar c = true := by
  have hall : ∀ n < 0x80, Text.Form.isWritten (Char.ofNat n) = true → isQueryChar (Char.ofNat n) = true := by
    decide +kernel
  exact Text.forall_ascii (P := fun c => Text.Form.isWritten c = true → isQueryChar c = true) hall
    (Text.Form.toNat_of_isWritten h) h

theorem isQueryChar_of_mem_encode {pairs : List (String × String)} {c : Char}
    (h : c ∈ (Text.Form.encode pairs).toList) : isQueryChar c = true := by
  rw [Text.Form.encode, String.toList_ofList] at h
  rcases Text.mem_joined h with rfl | ⟨part, hpart, hc⟩
  · decide
  · obtain ⟨pair, -, rfl⟩ := List.mem_map.1 hpart
    rcases List.mem_append.1 hc with hc | hc
    · exact isQueryChar_of_isWritten (Text.Form.isWritten_of_mem hc)
    · rcases List.mem_cons.1 hc with rfl | hc
      · decide
      · exact isQueryChar_of_isWritten (Text.Form.isWritten_of_mem hc)

end Postern.HttpRequest
