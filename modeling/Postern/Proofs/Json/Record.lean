import Postern.Json.Record
import Postern.Proofs.Json.Members
import Postern.Proofs.Text.Utf8

/-!
Records read off JSON.  Readers that are given the same text are compared by what they make of it (`Follows`), and the
readers of strings, containers and members keep this relation between the readers of their parts.  So a value that can
be read can also be passed over (`follows_pass?`), and the record that a text is has just the members of its value
that count (`record?_of_readBytes?`), of which the fields are the same (`readFields?_of_read?`).
-/

namespace Postern.Json

/-! ### Readers compared -/

/-- Where one reader reads `x` another reads `f x`, and as far. -/
def Follows {α β : Type} (f : α → β) (reader : List Char → Option (α × List Char))
    (reader' : List Char → Option (β × List Char)) : Prop :=
  ∀ ⦃cs x rest⦄, reader cs = some (x, rest) → reader' cs = some (f x, rest)

section
variable {α β ν μ : Type} {f : α → β} {reader : List Char → Option (α × List Char)}
  {reader' : List Char → Option (β × List Char)}

theorem Follows.refl (reader : List Char → Option (α × List Char)) : Follows id reader reader := fun _ _ _ h => h

theorem Follows.stringChars? (h : Follows f reader reader') (fuel : Nat) :
    Follows (List.map f) (stringChars? reader fuel) (stringChars? reader' fuel) := by
  induction fuel with
  | zero => exact fun _ _ _ hread => nomatch hread
  | succ fuel ih =>
    intro cs xs rest hread
    unfold Json.stringChars? at hread ⊢
    split at hread
    · cases hread
      rfl
    split at hread
    · cases hread
    · rename_i hchar
      obtain ⟨⟨xs, rest⟩, hrest, heq⟩ := Option.map_eq_some_iff.1 hread
      cases heq
      simp [h hchar, ih hrest]

theorem Follows.moreItems? (h : Follows f reader reader') (close : Char) (fuel : Nat) :
    Follows (List.map f) (moreItems? reader close fuel) (moreItems? reader' close fuel) := by
  induction fuel with
  | zero => exact fun _ _ _ hread => nomatch hread
  | succ fuel ih =>
    intro cs xs rest hread
    unfold Json.moreItems? at hread ⊢
    split at hread
    · cases hread
    split at hread
    · rename_i hclose
      cases hread
      simp [hclose]
    split at hread
    · rename_i hclose hcomma
      split at hread
      · cases hread
      · rename_i hitem
        obtain ⟨⟨xs, rest⟩, hrest, heq⟩ := Option.map_eq_some_iff.1 hread
        cases heq
        rw [if_neg hclose, if_pos hcomma]
        simp [h hitem, ih hrest]
    · cases hread

theorem Follows.items? (h : Follows f reader reader') (close : Char) :
    Follows (List.map f) (items? reader close) (items? reader' close) := by
  intro cs xs rest hread
  unfold Json.items? at hread ⊢
  split at hread
  · cases hread
  split at hread
  · rename_i hclose
    cases hread
    simp [hclose]
  split at hread
  · cases hread
  · rename_i hclose _ _ _ hitem
    obtain ⟨⟨xs, rest⟩, hrest, heq⟩ := Option.map_eq_some_iff.1 hread
    cases heq
    simp [hclose, h hitem, h.moreItems? close _ hrest]

theorem Follows.memberOf? {g : ν → μ} {name : List Char → Option (ν × List Char)}
    {name' : List Char → Option (μ × List Char)} {value : ν → List Char → Option (α × List Char)}
    {value' : μ → List Char → Option (β × List Char)} {f : ν → α → β} (hname : Follows g name name')
    (hvalue : ∀ n, Follows (f n) (value n) (value' (g n))) :
    Follows (fun m => (g m.1, f m.1 m.2)) (memberOf? name value) (memberOf? name' value') := by
  intro cs m rest hread
  unfold Json.memberOf? at hread ⊢
  split at hread
  case h_2 => cases hread
  split at hread
  case h_1 => cases hread
  rename_i n _ hn
  split at hread
  case h_2 => cases hread
  rename_i hcolon
  obtain ⟨⟨x, rest⟩, hx, heq⟩ := Option.map_eq_some_iff.1 hread
  cases heq
  simp [hname hn, hcolon, hvalue n hx]

end

/-! ### Passing over -/

theorem follows_passChar? : Follows (fun _ => ()) stringChar? passChar? := by
  intro cs x rest hread
  simp only [passChar?, hread]

theorem follows_passString? : Follows (fun _ => ()) string? passString? := by
  intro cs s rest hread
  obtain ⟨⟨units, rest⟩, hunits, htext⟩ := Option.bind_eq_some_iff.1 hread
  obtain ⟨s, -, heq⟩ := Option.map_eq_some_iff.1 htext
  cases heq
  simp [passString?, follows_passChar?.stringChars? _ hunits]

theorem follows_numeral? : Follows (fun _ => ()) number? fun cs => (numeral? cs).map fun (_, rest) => ((), rest) := by
  intro cs j rest hread
  obtain ⟨⟨n, rest⟩, hn, hvalue⟩ := Option.bind_eq_some_iff.1 hread
  obtain ⟨j, -, heq⟩ := Option.map_eq_some_iff.1 hvalue
  cases heq
  simp [hn]

/-- **What can be read can be passed over,** where nesting may be as deep. -/
theorem follows_pass? {depth depth' : Nat} (hdepth : depth ≤ depth') :
    Follows (fun _ => ()) (value? depth) (pass? depth') := by
  intro cs j rest hread
  unfold value? at hread
  unfold pass?
  cases hlead : lead (skip cs) with | mk first tail =>
  simp only [hlead] at hread ⊢
  cases first with
  | word j =>
    cases hread
    rfl
  | quote =>
    obtain ⟨⟨s, rest⟩, hs, heq⟩ := Option.map_eq_some_iff.1 hread
    cases heq
    exact follows_passString? hs
  | other => exact follows_numeral? hread
  | bracket =>
    cases depth with
    | zero => cases hread
    | succ depth =>
      obtain ⟨depth', rfl⟩ : ∃ k, depth' = k + 1 := ⟨depth' - 1, by omega⟩
      have hitem := follows_pass? (Nat.le_of_succ_le_succ hdepth)
      obtain ⟨⟨items, rest⟩, hitems, heq⟩ := Option.map_eq_some_iff.1 hread
      cases heq
      simp [hitem.items? ']' hitems]
  | brace =>
    cases depth with
    | zero => cases hread
    | succ depth =>
      obtain ⟨depth', rfl⟩ : ∃ k, depth' = k + 1 := ⟨depth' - 1, by omega⟩
      have hmember : Follows (fun _ => ((), ())) (memberOf? string? fun _ => value? depth)
          (memberOf? passString? fun _ => pass? depth') :=
        follows_passString?.memberOf? (f := fun _ _ => ()) fun _ => follows_pass? (Nat.le_of_succ_le_succ hdepth)
      obtain ⟨⟨members, rest⟩, hmembers, heq⟩ := Option.map_eq_some_iff.1 hread
      cases heq
      simp [hmember.items? '\x7d' hmembers]

/-! ### The members that count -/

section
variable {readers : List (String × ValueReader)} {depth : Nat}

/-- Whether there is a reader for members of a name. -/
def counts (readers : List (String × ValueReader)) (name : String) : Bool := (readers.find? (·.1 = name)).isSome

/-- A value with the members that count. -/
def restrict (readers : List (String × ValueReader)) : Json → Json
  | .obj members => .obj (members.filter fun m => counts readers m.1)
  | j => j

theorem restrict_eq_self {members : List (String × Json)} (h : ∀ m ∈ members, counts readers m.1 = true) :
    restrict readers (.obj members) = .obj members := by
  rw [restrict, List.filter_eq_self.2 h]

/-- Readers that read whatever is JSON. -/
def ReadJson (readers : List (String × ValueReader)) : Prop := ∀ r ∈ readers, Follows id within? r.2

theorem follows_field? (h : ReadJson readers) (hdepth : maxDepth ≤ depth) (name : String) :
    Follows (fun j => if counts readers name then some j else none) within? (field? readers depth name) := by
  intro cs j rest hread
  unfold field? counts
  cases hfind : readers.find? (·.1 = name) with
  | none =>
    have hpass := follows_pass? (Nat.le_trans (Nat.sub_le maxDepth 1) hdepth) hread
    simp [hpass]
  | some r =>
    have hreader := h r (List.mem_of_find?_eq_some hfind) hread
    simp [hreader]

theorem filterMap_counted? (members : List (String × Json)) :
    ((members.map fun m => (m.1, if counts readers m.1 then some m.2 else none)).filterMap counted?) =
      members.filter fun m => counts readers m.1 := by
  induction members with
  | nil => rfl
  | cons m members ih =>
    rw [List.map_cons, List.filterMap_cons, List.filter_cons, ih]
    cases hcounts : counts readers m.1 <;> simp [counted?]

theorem lead_word {cs rest : List Char} {j : Json} (h : lead cs = (.word j, rest)) : ∀ members, j ≠ .obj members := by
  unfold lead at h
  split at h
  all_goals
    cases h
    try exact fun _ => nofun

theorem number?_ne_obj {cs rest : List Char} {members : List (String × Json)} :
    number? cs ≠ some (.obj members, rest) := by
  intro h
  obtain ⟨⟨n, rest⟩, -, hvalue⟩ := Option.bind_eq_some_iff.1 h
  obtain ⟨j, hj, heq⟩ := Option.map_eq_some_iff.1 hvalue
  cases heq
  unfold Numeral.value? at hj
  grind

/-- An object is read off what stands between braces. -/
theorem items?_of_value? {cs rest : List Char} {j : Json} (h : value? maxDepth cs = some (j, rest)) :
    (∃ tail members, lead (skip cs) = (.brace, tail) ∧ j = .obj members ∧
      items? (memberOf? string? fun _ => within?) '\x7d' tail = some (members, rest)) ∨
    (∀ tail, lead (skip cs) ≠ (.brace, tail)) ∧ ∀ members, j ≠ .obj members := by
  rw [maxDepth, value?] at h
  cases hlead : lead (skip cs) with | mk first tail =>
  simp only [hlead] at h
  cases first with
  | brace =>
    obtain ⟨⟨members, rest⟩, hmembers, heq⟩ := Option.map_eq_some_iff.1 h
    cases heq
    exact .inl ⟨tail, members, rfl, rfl, hmembers⟩
  | word j =>
    cases h
    exact .inr ⟨nofun, lead_word hlead⟩
  | quote | bracket =>
    obtain ⟨r, -, heq⟩ := Option.map_eq_some_iff.1 h
    cases heq
    exact .inr ⟨nofun, nofun⟩
  | other =>
    refine .inr ⟨nofun, ?_⟩
    rintro members rfl
    exact number?_ne_obj h

/-- **The record of JSON text** is its value with the members that count. -/
theorem record?_of_readBytes? (h : ReadJson readers) {bytes : List UInt8} {j : Json}
    (hread : readBytes? maxDepth bytes = some j) : record? readers bytes = some (restrict readers j) := by
  obtain ⟨rest, hvalue, hrest⟩ :
      ∃ rest, value? maxDepth (Text.Utf8.octets bytes) = some (j, rest) ∧ skip rest = [] := by
    unfold readBytes? at hread
    split at hread
    · rename_i j' rest hvalue
      obtain ⟨hrest, heq⟩ := Option.ite_none_right_eq_some.1 hread
      cases heq
      exact ⟨rest, hvalue, hrest⟩
    · cases hread
  unfold record?
  rcases items?_of_value? hvalue with ⟨tail, members, hlead, rfl, hmembers⟩ | ⟨hlead, hobj⟩
  · have hmember := (Follows.refl string?).memberOf?
      (follows_field? h (Nat.le_add_right maxDepth (Text.Utf8.octets bytes).length))
    have hitems := hmember.items? '\x7d' hmembers
    simp only [hlead, hitems, hrest, if_true]
    rw [restrict, ← filterMap_counted?]
    rfl
  · have hsame : restrict readers j = j := by
      cases j with
      | obj members => exact absurd rfl (hobj members)
      | _ => rfl
    rw [hsame]
    dsimp only
    split
    · rename_i hbrace
      exact absurd hbrace (hlead _)
    · exact hread

/-! ### Fields -/

variable {names : List String} {j : Json}

theorem named_filter {name : String} (h : counts readers name = true) (members : List (String × Json)) :
    named name (members.filter fun m => counts readers m.1) = named name members := by
  have hsame : ∀ m : String × Json, (decide (m.1 = name) && counts readers m.1) = decide (m.1 = name) := by
    intro m
    by_cases hm : m.1 = name
    · simp [hm, h]
    · simp [hm]
  simp only [named, List.filter_filter, hsame]

theorem fields?_restrict (h : ∀ name ∈ names, counts readers name = true) :
    (restrict readers j).fields? names = j.fields? names := by
  cases j with
  | obj members =>
    have hnamed : ∀ name ∈ names, named name (members.filter fun m => counts readers m.1) = named name members :=
      fun name hname => named_filter (h name hname) members
    ext fields
    rw [restrict, fields?_obj_eq_some_iff, fields?_obj_eq_some_iff]
    refine and_congr (forall₂_congr fun name hname => by rw [hnamed name hname]) ?_
    rw [List.map_congr_left fun name hname => by rw [hnamed name hname]]
  | _ => rfl

end

theorem readJson_within? (names : List String) : ReadJson (names.map (·, within?)) := by
  intro r hr
  obtain ⟨name, -, rfl⟩ := List.mem_map.1 hr
  exact Follows.refl _

theorem counts_map {names : List String} {reader : ValueReader} {name : String} (h : name ∈ names) :
    counts (names.map (·, reader)) name = true := by
  rw [counts, List.find?_isSome]
  exact ⟨(name, reader), List.mem_map.2 ⟨name, h, rfl⟩, decide_eq_true rfl⟩

/-- **Fields are read off JSON text as off its value.** -/
theorem readFields?_of_read? {names : List String} {s : String} {j : Json} (h : read? s = some j) :
    readFields? names (Text.Utf8.encode s) = j.fields? names := by
  rw [readFields?, record?_of_readBytes? (readJson_within? names) h]
  exact fields?_restrict fun _ => counts_map

end Postern.Json
