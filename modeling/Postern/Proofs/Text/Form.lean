import Mathlib.Tactic.SplitIfs
import Postern.Proofs.Text.Utf8
import Postern.Text.Encoding

/-!
Query strings read back.  What is written for a name or a value is ASCII without `&` and `=` (`isWritten_of_mem`), so
the two separators cut it out again, and its escapes and plus signs stand for its bytes (`decodePart_encodePart`).  So
the pairs that are written are the pairs that are read, whatever their texts are (`decode_encode`).
-/

namespace Postern.Text

/-- What holds of every code below 128 holds of every ASCII character. -/
theorem forall_ascii {P : Char → Prop} (h : ∀ n < 0x80, P (Char.ofNat n)) {c : Char} (hc : c.toNat < 0x80) : P c := by
  have hcode := h c.toNat hc
  rwa [Char.ofNat_toNat] at hcode

/-! ### Pieces -/

theorem mem_joined {sep c : Char} {fs : List (List Char)} (h : c ∈ joined sep fs) : c = sep ∨ ∃ f ∈ fs, c ∈ f := by
  induction fs with
  | nil => cases h
  | cons f fs ih =>
    cases fs with
    | nil => exact .inr ⟨f, by simp, h⟩
    | cons g gs =>
      rw [joined] at h
      rcases List.mem_append.1 h with hf | hrest
      · exact .inr ⟨f, by simp, hf⟩
      · rcases List.mem_cons.1 hrest with rfl | hrest
        · exact .inl rfl
        · obtain rfl | ⟨f', hf', hc⟩ := ih hrest
          · exact .inl rfl
          · exact .inr ⟨f', List.mem_cons_of_mem f hf', hc⟩

/-- Pieces without the separator come back from the text that joins them. -/
theorem fields_joined {sep : Char} {fs : List (List Char)} (hne : fs ≠ []) (h : ∀ f ∈ fs, sep ∉ f) :
    fields sep (joined sep fs) = fs := by
  induction fs with
  | nil => exact absurd rfl hne
  | cons f fs ih =>
    obtain ⟨hf, hfs⟩ := List.forall_mem_cons.1 h
    cases fs with
    | nil => exact fields_of_not_mem hf
    | cons g gs =>
      have hrest := ih (List.cons_ne_nil g gs) hfs
      rw [joined, fields_append_sep hf, hrest]

/-! ### Percent escapes -/

namespace Percent

open Utf8 (byteOf)

theorem decode_cons_of_ne {a : UInt8} (h : a ≠ 0x25) (bs : List UInt8) : decode (a :: bs) = a :: decode bs := by
  match bs with
  | [] => rfl
  | [b] => rfl
  | b :: c :: rest => rw [decode, if_neg h]

theorem digitValue?_hexDigit : ∀ n < 16, digitValue? (Char.ofNat (byteOf (hexDigit n)).toNat) = some n := by decide

/-- The two digits of a byte are read as that byte. -/
theorem unescape?_hexDigits (b : UInt8) :
    unescape? (byteOf (hexDigit (b.toNat / 16))) (byteOf (hexDigit (b.toNat % 16))) = some b := by
  have hb : b.toNat < 256 := b.toNat_lt
  have hhi := digitValue?_hexDigit (b.toNat / 16) (by omega)
  have hlo := digitValue?_hexDigit (b.toNat % 16) (by omega)
  have hvalue : b.toNat / 16 * 16 + b.toNat % 16 = b.toNat := by omega
  rw [unescape?, hhi, hlo]
  simp [hvalue]

theorem mem_escape {b : UInt8} {c : Char} (h : c ∈ escape b) : c = '%' ∨ ∃ n < 16, c = hexDigit n := by
  have hb : b.toNat < 256 := b.toNat_lt
  simp only [escape, List.mem_cons, List.not_mem_nil, or_false] at h
  rcases h with rfl | rfl | rfl
  · exact .inl rfl
  · exact .inr ⟨_, by omega, rfl⟩
  · exact .inr ⟨_, by omega, rfl⟩

/-- What is kept and what escapes are written with is all that is written. -/
theorem mem_encode {keep : Char → Bool} {s : String} {c : Char} (h : c ∈ encode keep s) :
    keep c = true ∨ c = '%' ∨ ∃ n < 16, c = hexDigit n := by
  obtain ⟨c', -, hc⟩ := List.mem_flatMap.1 h
  split at hc
  · rename_i hkeep
    obtain rfl := List.mem_singleton.1 hc
    exact .inl hkeep
  · obtain ⟨b, -, hb⟩ := List.mem_flatMap.1 hc
    exact .inr (mem_escape hb)

theorem decode_escape (b : UInt8) (rest : List UInt8) : decode ((escape b).map byteOf ++ rest) = b :: decode rest := by
  have hbyte := unescape?_hexDigits b
  have hmark : byteOf '%' = 0x25 := by decide
  simp [escape, decode, hmark, hbyte]

end Percent

/-! ### Names and values -/

namespace Form

open Utf8 (byteOf)

def isWritten (c : Char) : Bool := c = '+' || c = '%' || isPlain c

theorem isPlain_hexDigit : ∀ n < 16, isPlain (Percent.hexDigit n) = true := by decide

theorem toNat_of_isPlain {c : Char} (h : isPlain c = true) : c.toNat < 0x80 := by
  have hle : ∀ {a b : Char}, a ≤ b → a.toNat ≤ b.toNat := fun hab => hab
  simp only [isPlain, isDigit, isLetter, Bool.or_eq_true, Bool.and_eq_true, decide_eq_true_eq] at h
  rcases h with ((((⟨-, h⟩ | ⟨-, h⟩ | ⟨-, h⟩) | rfl) | rfl) | rfl) | rfl
  · exact Nat.lt_of_le_of_lt (hle h) (by decide)
  · exact Nat.lt_of_le_of_lt (hle h) (by decide)
  · exact Nat.lt_of_le_of_lt (hle h) (by decide)
  all_goals decide

theorem toNat_of_isWritten {c : Char} (h : isWritten c = true) : c.toNat < 0x80 := by
  simp only [isWritten, Bool.or_eq_true, decide_eq_true_eq] at h
  rcases h with (rfl | rfl) | h
  · decide
  · decide
  · exact toNat_of_isPlain h

theorem ne_sep_of_isWritten {c : Char} (h : isWritten c = true) : c ≠ '&' ∧ c ≠ '=' := by
  constructor
  · rintro rfl
    exact absurd h (by decide)
  · rintro rfl
    exact absurd h (by decide)

theorem isWritten_of_mem_escape {b : UInt8} {c : Char} (h : c ∈ Percent.escape b) : isWritten c = true := by
  rcases Percent.mem_escape h with rfl | ⟨n, hn, rfl⟩
  · decide
  · simp [isWritten, isPlain_hexDigit n hn]

theorem isWritten_of_mem {s : String} {c : Char} (h : c ∈ encodePart s) : isWritten c = true := by
  obtain ⟨c', -, hc⟩ := List.mem_flatMap.1 h
  unfold encodeChar at hc
  split_ifs at hc with hblank hplain
  · obtain rfl := List.mem_singleton.1 hc
    decide
  · obtain rfl := List.mem_singleton.1 hc
    simp [isWritten, hplain]
  · obtain ⟨b, -, hb⟩ := List.mem_flatMap.1 hc
    exact isWritten_of_mem_escape hb

/-- The byte that a reader takes a character for: a plus sign is a blank. -/
def readByte (c : Char) : UInt8 := if byteOf c = 0x2B then 0x20 else byteOf c

theorem readByte_hexDigit : ∀ n < 16, readByte (Percent.hexDigit n) = byteOf (Percent.hexDigit n) := by decide

theorem map_readByte_escape (b : UInt8) : (Percent.escape b).map readByte = (Percent.escape b).map byteOf := by
  have hb : b.toNat < 256 := b.toNat_lt
  have hhi := readByte_hexDigit (b.toNat / 16) (by omega)
  have hlo := readByte_hexDigit (b.toNat % 16) (by omega)
  have hmark : readByte '%' = byteOf '%' := by decide
  simp only [Percent.escape, List.map_cons, List.map_nil, hhi, hlo, hmark]

theorem readByte_of_isPlain {c : Char} (h : isPlain c = true) : readByte c = byteOf c ∧ byteOf c ≠ 0x25 := by
  have hall : ∀ n < 0x80, isPlain (Char.ofNat n) = true →
      readByte (Char.ofNat n) = byteOf (Char.ofNat n) ∧ byteOf (Char.ofNat n) ≠ 0x25 := by decide +kernel
  exact forall_ascii (P := fun c => isPlain c = true → readByte c = byteOf c ∧ byteOf c ≠ 0x25) hall
    (toNat_of_isPlain h) h

theorem decode_escapes (bs rest : List UInt8) :
    Percent.decode ((bs.flatMap Percent.escape).map readByte ++ rest) = bs ++ Percent.decode rest := by
  induction bs with
  | nil => rfl
  | cons b bs ih =>
    rw [List.flatMap_cons, List.map_append, map_readByte_escape, List.append_assoc, Percent.decode_escape, ih]
    rfl

/-- What is written for a character is read as its bytes, whatever stands behind it. -/
theorem decode_encodeChar (c : Char) (rest : List UInt8) :
    Percent.decode ((encodeChar c).map readByte ++ rest) = Utf8.encodeChar c ++ Percent.decode rest := by
  unfold encodeChar
  split_ifs with hblank hplain
  · subst hblank
    exact Percent.decode_cons_of_ne (by decide) rest
  · obtain ⟨hread, hne⟩ := readByte_of_isPlain hplain
    have hone := Utf8.encodeChar_ascii (toNat_of_isPlain hplain)
    rw [hone, List.map_singleton, hread]
    exact Percent.decode_cons_of_ne hne rest
  · exact decode_escapes _ rest

/-- **A name or a value reads back.** -/
theorem decodePart_encodePart (s : String) : decodePart (encodePart s) = s := by
  have hascii : ∀ c ∈ encodePart s, c.toNat < 0x80 := fun c hc => toNat_of_isWritten (isWritten_of_mem hc)
  have hbytes : ∀ cs : List Char,
      Percent.decode ((cs.flatMap encodeChar).map readByte) = cs.flatMap Utf8.encodeChar := by
    intro cs
    induction cs with
    | nil => rfl
    | cons c cs ih => rw [List.flatMap_cons, List.map_append, decode_encodeChar, ih, List.flatMap_cons]
  have hread : (Utf8.encode (String.ofList (encodePart s))).map (fun b => if b = 0x2B then 0x20 else b) =
      (encodePart s).map readByte := by
    rw [Utf8.encode_ascii hascii, List.map_map]
    rfl
  rw [decodePart, hread, encodePart, hbytes]
  exact Utf8.decodeLossy_encode s

/-! ### Pairs -/

theorem notMem_encodePart (s : String) : '&' ∉ encodePart s ∧ '=' ∉ encodePart s :=
  ⟨fun h => (ne_sep_of_isWritten (isWritten_of_mem h)).1 rfl, fun h => (ne_sep_of_isWritten (isWritten_of_mem h)).2 rfl⟩

theorem notMem_encodePair (p : String × String) : '&' ∉ encodePair p := by
  intro h
  rcases List.mem_append.1 h with h | h
  · exact (notMem_encodePart p.1).1 h
  · rcases List.mem_cons.1 h with h | h
    · exact absurd h (by decide)
    · exact (notMem_encodePart p.2).1 h

theorem decodePair_encodePair (p : String × String) : decodePair (encodePair p) = p := by
  have hname : ∀ c ∈ encodePart p.1, decide (c ≠ '=') = true := by
    intro c hc
    have hne : c ≠ '=' := by
      rintro rfl
      exact (notMem_encodePart p.1).2 hc
    simpa using hne
  rw [decodePair, encodePair, List.takeWhile_append_of_pos hname, List.dropWhile_append_of_pos hname]
  simp [decodePart_encodePart]

/-- **The pairs that are written are read,** in their order. -/
theorem decode_encode (ps : List (String × String)) : decode (encode ps) = ps := by
  rw [decode, encode, String.toList_ofList]
  cases ps with
  | nil => rfl
  | cons p ps =>
    have hsep : ∀ f ∈ (p :: ps).map encodePair, '&' ∉ f := by
      intro f hf
      obtain ⟨p', -, rfl⟩ := List.mem_map.1 hf
      exact notMem_encodePair p'
    have hfull : ∀ f ∈ (p :: ps).map encodePair, decide (f ≠ []) = true := by
      intro f hf
      obtain ⟨p', -, rfl⟩ := List.mem_map.1 hf
      simp [encodePair]
    rw [fields_joined (by simp) hsep, List.filter_eq_self.2 hfull, List.map_map]
    have hpair : decodePair ∘ encodePair = id := funext decodePair_encodePair
    rw [hpair, List.map_id]

end Form
end Postern.Text
