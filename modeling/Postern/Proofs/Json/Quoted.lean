import Mathlib.Tactic.SplitIfs
import Postern.Json.Printer
import Postern.Json.Reader
import Postern.Proofs.Text.Utf8

/-!
String literals.  Texts are read from their bytes (`wire`).  A reader takes what `Spells` some bytes for them, whatever
stands behind it.  An escaped character spells its own bytes (`spells_escape`), and so a literal is read as its text
(`string?_quoted`).
-/

namespace Postern.Json

/-! ### Texts as they are read -/

/-- The bytes of a text, as characters. -/
def wire (cs : List Char) : List Char := Text.Utf8.octets (cs.flatMap Text.Utf8.encodeChar)

theorem wire_append (cs ds : List Char) : wire (cs ++ ds) = wire cs ++ wire ds := by
  simp [wire, Text.Utf8.octets]

theorem wire_ascii {cs : List Char} (h : ∀ c ∈ cs, c.toNat < 0x80) : wire cs = cs := by
  induction cs with
  | nil => rfl
  | cons c cs ih =>
    obtain ⟨hc, hcs⟩ := List.forall_mem_cons.1 h
    have hone : wire [c] = [c] := by
      rw [wire, List.flatMap_singleton]
      exact Text.Utf8.octets_encodeChar_ascii hc
    rw [← List.singleton_append, wire_append, hone, ih hcs]

theorem wire_cons {c : Char} (h : c.toNat < 0x80) (cs : List Char) : wire (c :: cs) = c :: wire cs := by
  rw [← List.singleton_append, wire_append, wire_ascii (List.forall_mem_singleton.2 h), List.singleton_append]

theorem ofOctets_wire (s : String) : Text.Utf8.ofOctets (wire s.toList) = Text.Utf8.encode s :=
  Text.Utf8.ofOctets_octets _

/-! ### Strings -/

section
variable {α : Type} {char : List Char → Option (α × List Char)}

theorem stringChars?_add {fuel : Nat} (more : Nat) {cs : List Char} {r : List α × List Char}
    (h : stringChars? char fuel cs = some r) : stringChars? char (fuel + more) cs = some r := by
  induction fuel generalizing cs r with
  | zero => cases h
  | succ fuel ih =>
    rw [Nat.succ_add]
    unfold stringChars? at h ⊢
    split at h
    · exact h
    split at h
    · cases h
    · obtain ⟨r', hr', rfl⟩ := Option.map_eq_some_iff.1 h
      rw [ih hr']
      rfl

end

/-- A text by which bytes are written inside a literal, whatever stands behind it. -/
def Spells (text bytes : List Char) : Prop :=
  ∀ ⦃fuel rest units tail⦄, stringChars? stringChar? fuel rest = some (units, tail) →
    ∃ units', stringChars? stringChar? (fuel + text.length) (text ++ rest) = some (units', tail) ∧
      units'.flatten = bytes ++ units.flatten

theorem spells_nil : Spells [] [] := fun _ _ _ _ h => ⟨_, h, rfl⟩

theorem Spells.append {text text' bytes bytes' : List Char} (h : Spells text bytes) (h' : Spells text' bytes') :
    Spells (text ++ text') (bytes ++ bytes') := by
  intro fuel rest units tail hrest
  obtain ⟨units', hunits', hbytes'⟩ := h' hrest
  obtain ⟨units'', hunits'', hbytes''⟩ := h hunits'
  refine ⟨units'', ?_, ?_⟩
  · rw [List.length_append, Nat.add_comm text.length, ← Nat.add_assoc, List.append_assoc]
    exact hunits''
  · rw [hbytes'', hbytes', List.append_assoc]

theorem spells_of_stringChar? {c : Char} {text bytes : List Char} (hc : c ≠ '\x22')
    (h : ∀ rest, stringChar? (c :: (text ++ rest)) = some (bytes, rest)) : Spells (c :: text) bytes := by
  intro fuel rest units tail hrest
  refine ⟨bytes :: units, ?_, by simp⟩
  have hmore := stringChars?_add text.length hrest
  rw [List.length_cons, ← Nat.add_assoc, List.cons_append]
  simp [stringChars?, hc, h, hmore]

/-- Bytes that are no ASCII characters stand for themselves. -/
theorem spells_of_le {cs : List Char} (h : ∀ c ∈ cs, 0x80 ≤ c.toNat) : Spells cs cs := by
  induction cs with
  | nil => exact spells_nil
  | cons c cs ih =>
    obtain ⟨hc, hcs⟩ := List.forall_mem_cons.1 h
    have hquote : c ≠ '\x22' := by
      rintro rfl
      exact absurd hc (by decide)
    have hback : c ≠ '\\' := by
      rintro rfl
      exact absurd hc (by decide)
    have hplain : ¬ c.toNat < 0x20 := by omega
    have hone : Spells [c] [c] := spells_of_stringChar? hquote (by simp [stringChar?, hback, hplain])
    exact hone.append (ih hcs)

/-- Two hexadecimal digits after two zeros are read as the control character that they stand for. -/
theorem unicode?_control {c : Char} (h : c.toNat < 0x20) (rest : List Char) :
    unicode? ('0' :: '0' :: hexDigit (c.toNat / 16) :: hexDigit (c.toNat % 16) :: rest) = some (c, rest) := by
  have hdigits : ∀ n < 0x20, Text.numeral? 16 ['0', '0', hexDigit (n / 16), hexDigit (n % 16)] = some n := by decide
  have hsmall : c.toNat < 0xD800 := by omega
  simp [unicode?, hex4?, hdigits _ h, hsmall, Char.ofNat_toNat]

theorem toNat_hexDigit_lt : ∀ n < 16, (hexDigit n).toNat < 0x80 := by decide

/-- **An escaped character spells its own bytes.** -/
theorem spells_escape (c : Char) : Spells (wire (escape c)) (wire [c]) := by
  have hself : c.toNat < 0x80 → wire [c] = [c] := fun h => wire_ascii (List.forall_mem_singleton.2 h)
  have hshort : ∀ {e}, c.toNat < 0x80 → e.toNat < 0x80 → escaped? e = some c →
      Spells (wire ['\\', e]) (wire [c]) := by
    intro e hc he hread
    rw [hself hc, wire_cons (by decide), wire_ascii (List.forall_mem_singleton.2 he)]
    have hu : e ≠ 'u' := by
      rintro rfl
      cases hread
    exact spells_of_stringChar? (by decide) fun rest => by simp_all [stringChar?]
  unfold escape
  split_ifs with hquote hback hb hf hn hr ht hcontrol
  case pos => subst hquote; exact hshort (by decide) (by decide) rfl
  case pos => subst hback; exact hshort (by decide) (by decide) rfl
  case pos => subst hb; exact hshort (by decide) (by decide) rfl
  case pos => subst hf; exact hshort (by decide) (by decide) rfl
  case pos => subst hn; exact hshort (by decide) (by decide) rfl
  case pos => subst hr; exact hshort (by decide) (by decide) rfl
  case pos => subst ht; exact hshort (by decide) (by decide) rfl
  case pos =>
    have hascii : c.toNat < 0x80 := by omega
    have hhigh := toNat_hexDigit_lt (c.toNat / 16) (by omega)
    have hlow := toNat_hexDigit_lt (c.toNat % 16) (by omega)
    have htext : wire ['\\', 'u', '0', '0', hexDigit (c.toNat / 16), hexDigit (c.toNat % 16)] =
        ['\\', 'u', '0', '0', hexDigit (c.toNat / 16), hexDigit (c.toNat % 16)] :=
      wire_ascii (by simp [hhigh, hlow])
    rw [htext, hself hascii]
    refine spells_of_stringChar? (by decide) fun rest => ?_
    simp [stringChar?, unicode?_control hcontrol, Text.Utf8.octets_encodeChar_ascii hascii]
  case neg =>
    rcases Nat.lt_or_ge c.toNat 0x80 with hascii | hother
    · rw [hself hascii]
      exact spells_of_stringChar? hquote (by simp [stringChar?, hback, hcontrol])
    · refine spells_of_le fun o ho => ?_
      rw [wire, List.flatMap_singleton] at ho
      obtain ⟨b, hb, rfl⟩ := List.mem_map.1 ho
      rw [Text.Utf8.toNat_ofNat_toNat]
      exact Text.Utf8.le_toNat_of_mem_encodeChar hother b hb

theorem spells_flatMap_escape (cs : List Char) : Spells (wire (cs.flatMap escape)) (wire cs) := by
  induction cs with
  | nil => exact spells_nil
  | cons c cs ih =>
    have hcons := (spells_escape c).append ih
    rwa [← wire_append, ← wire_append] at hcons

/-- **A string literal reads back,** whatever stands behind it. -/
theorem string?_quoted (s : String) (rest : List Char) :
    string? (wire (s.toList.flatMap escape) ++ '\x22' :: rest) = some (s, rest) := by
  have hend : stringChars? stringChar? 1 ('\x22' :: rest) = some ([], rest) := rfl
  obtain ⟨units, hunits, hbytes⟩ := spells_flatMap_escape s.toList hend
  have hmore := stringChars?_add (rest.length + 1) hunits
  have hfuel : 1 + (wire (s.toList.flatMap escape)).length + (rest.length + 1) =
      (wire (s.toList.flatMap escape) ++ '\x22' :: rest).length + 1 := by
    simp only [List.length_append, List.length_cons]
    omega
  have htext : Text.Utf8.decode? (Text.Utf8.ofOctets units.flatten) = some s := by
    rw [hbytes, List.flatten_nil, List.append_nil, ofOctets_wire]
    exact Text.Utf8.decode?_eq_some_iff.2 rfl
  rw [string?, ← hfuel, hmore]
  simp only [Option.bind_some, htext, Option.map_some]

theorem wire_quoted_append (s : String) (rest : List Char) :
    wire (quoted s) ++ rest = '\x22' :: (wire (s.toList.flatMap escape) ++ '\x22' :: rest) := by
  rw [quoted, wire_cons (by decide), wire_append, wire_ascii (List.forall_mem_singleton.2 (by decide))]
  simp

theorem length_le_flatMap_escape (cs : List Char) : cs.length ≤ (cs.flatMap escape).length := by
  have hone : ∀ c, 1 ≤ (escape c).length := by
    intro c
    unfold escape
    split_ifs
    all_goals exact Nat.le_add_left _ _
  induction cs with
  | nil => exact Nat.le_refl _
  | cons c cs ih =>
    rw [List.flatMap_cons, List.length_append, List.length_cons, Nat.add_comm]
    exact Nat.add_le_add (hone c) ih

theorem length_lt_quoted (s : String) : s.toList.length < (quoted s).length := by
  have hlength := length_le_flatMap_escape s.toList
  simp only [quoted, List.length_cons, List.length_append]
  omega

end Postern.Json
