import Postern.Json.Basic

/-!
Members of objects.  A record is read off an object that has at most one member of each of its names
(`fields?_obj_eq_some_iff`), or off a list with an item for each of them (`fields?_arr_eq_some_iff`).
-/

namespace Postern.Json

/-- The values of the members of a name. -/
def named (name : String) (members : List (String × Json)) : List Json := (members.filter (·.1 = name)).map (·.2)

section
variable {name : String} {names : List String} {members : List (String × Json)}

theorem named_eq_nil (h : ∀ m ∈ members, m.1 ≠ name) : named name members = [] := by
  have hfilter : members.filter (·.1 = name) = [] := by
    rw [List.filter_eq_nil_iff]
    intro m hm
    simpa using h m hm
  rw [named, hfilter, List.map_nil]

theorem find?_eq_head?_named : (members.find? (·.1 = name)).map (·.2) = (named name members).head? := by
  rw [named, List.head?_map, List.head?_filter]

theorem fields?_obj_eq_some_iff {fields : List (Option Json)} : (Json.obj members).fields? names = some fields ↔
    (∀ name ∈ names, (named name members).length ≤ 1) ∧
      names.map (fun name => (named name members).head?) = fields := by
  have hall : (names.all fun name => (members.filter (·.1 = name)).length ≤ 1) = true ↔
      ∀ name ∈ names, (named name members).length ≤ 1 := by
    simp [named]
  simp only [fields?, find?_eq_head?_named]
  split
  · rename_i honce
    rw [hall] at honce
    rw [Option.some.injEq, and_iff_right honce]
  · rename_i honce
    rw [hall] at honce
    simp [honce]

theorem fields?_arr_eq_some_iff {items : List Json} {fields : List (Option Json)} :
    (Json.arr items).fields? names = some fields ↔ items.length = names.length ∧ items.map some = fields := by
  simp only [fields?]
  split
  · rename_i hlength
    rw [Option.some.injEq, and_iff_right hlength]
  · rename_i hlength
    simp [hlength]

theorem named_eq_singleton {j : Json} (hlength : (named name members).length ≤ 1)
    (hhead : (named name members).head? = some j) : named name members = [j] := by
  obtain ⟨rest, hrest⟩ := List.head?_eq_some_iff.1 hhead
  rw [hrest, List.length_cons] at hlength
  have hnil : rest = [] := List.eq_nil_of_length_eq_zero (by omega)
  rw [hrest, hnil]

end

theorem text?_eq_some_iff {j : Json} {s : String} : j.text? = some s ↔ j = .str s := by
  cases j <;> simp [text?]

theorem intBetween?_eq_some_iff {lo hi n : Int} {j : Json} :
    j.intBetween? lo hi = some n ↔ j = .int n ∧ lo ≤ n ∧ n ≤ hi := by
  cases j with
  | int k =>
    rw [intBetween?, Option.ite_none_right_eq_some, Option.some.injEq, Json.int.injEq]
    constructor
    · rintro ⟨hbounds, rfl⟩
      exact ⟨rfl, hbounds⟩
    · rintro ⟨rfl, hbounds⟩
      exact ⟨hbounds, rfl⟩
  | _ => simp [intBetween?]

theorem mapM_text?_eq_some_iff {js : List Json} {ss : List String} :
    js.mapM text? = some ss ↔ js = ss.map .str := by
  induction js generalizing ss with
  | nil => simp [eq_comm]
  | cons j js ih =>
    rw [List.mapM_cons]
    constructor
    · intro h
      obtain ⟨s, hs, h⟩ := Option.bind_eq_some_iff.1 h
      obtain ⟨rest, hrest, h⟩ := Option.bind_eq_some_iff.1 h
      obtain rfl := Option.some.inj h
      rw [text?_eq_some_iff.1 hs, ih.1 hrest, List.map_cons]
    · intro h
      cases ss with
      | nil => cases h
      | cons s ss =>
        obtain ⟨rfl, rfl⟩ := List.cons.inj h
        have hrest : (ss.map .str).mapM text? = some ss := ih.2 rfl
        rw [hrest]
        rfl

end Postern.Json
