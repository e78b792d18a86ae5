import Postern.Text.Encoding

/-!
UTF-8 read back.  A reader takes each character off the bytes that stand for it, whatever follows them
(`next_encodeChar`): the lead byte says how many bytes there are, and the bounds on the byte behind it are those of
the shortest form.  So the bytes of a text are well formed and stand for that text alone, and well-formed bytes are
those of the text that they are read as (`decode?_eq_some_iff`).
-/

namespace Postern.Text.Utf8

/-! ### Reading one character -/

section
variable {a b c d : UInt8} (rest : List UInt8)

theorem next_two (hlow : 0xC2 ≤ a.toNat) (hhigh : a.toNat < 0xE0) (hb : canFollow a b = true) :
    next (a :: b :: rest) = some (some (Char.ofNat ((a.toNat - 0xC0) * 0x40 + payload b)), rest) := by
  have hone : ¬ a.toNat < 0x80 := by omega
  have hlead : ¬ (a.toNat < 0xC2 ∨ 0xF5 ≤ a.toNat) := by omega
  simp [next, hone, hlead, hb, hhigh]

theorem next_three (hlow : 0xE0 ≤ a.toNat) (hhigh : a.toNat < 0xF0) (hb : canFollow a b = true)
    (hc : isCont c = true) :
    next (a :: b :: c :: rest) =
      some (some (Char.ofNat ((a.toNat - 0xE0) * 0x1000 + payload b * 0x40 + payload c)), rest) := by
  have hone : ¬ a.toNat < 0x80 := by omega
  have hlead : ¬ (a.toNat < 0xC2 ∨ 0xF5 ≤ a.toNat) := by omega
  have htwo : ¬ a.toNat < 0xE0 := by omega
  simp [next, hone, hlead, hb, htwo, hc, hhigh]

theorem next_four (hlow : 0xF0 ≤ a.toNat) (hhigh : a.toNat < 0xF5) (hb : canFollow a b = true)
    (hc : isCont c = true) (hd : isCont d = true) :
    next (a :: b :: c :: d :: rest) =
      some (some (Char.ofNat
        ((a.toNat - 0xF0) * 0x40000 + payload b * 0x1000 + payload c * 0x40 + payload d)), rest) := by
  have hone : ¬ a.toNat < 0x80 := by omega
  have hlead : ¬ (a.toNat < 0xC2 ∨ 0xF5 ≤ a.toNat) := by omega
  have htwo : ¬ a.toNat < 0xE0 := by omega
  have hthree : ¬ a.toNat < 0xF0 := by omega
  simp [next, hone, hlead, hb, htwo, hc, hthree, hd]

end

theorem toNat_ofNat_of_lt {n : Nat} (h : n < 256) : (UInt8.ofNat n).toNat = n := by
  rw [UInt8.toNat_ofNat']
  omega

theorem toNat_cont (n : Nat) : (UInt8.ofNat (0x80 + n % 0x40)).toNat = 0x80 + n % 0x40 :=
  toNat_ofNat_of_lt (by omega)

theorem isCont_cont (n : Nat) : isCont (UInt8.ofNat (0x80 + n % 0x40)) = true := by
  have hbyte := toNat_cont n
  simp only [isCont, hbyte, Bool.and_eq_true, decide_eq_true_eq]
  omega

theorem payload_cont (n : Nat) : payload (UInt8.ofNat (0x80 + n % 0x40)) = n % 0x40 := by
  have hbyte := toNat_cont n
  unfold payload
  omega

/-- Which bytes may follow a lead byte: `E0` and `F0` ask for a large one, since a small one would be an overlong form,
`ED` and `F4` for a small one, since a large one would be a surrogate or beyond the last character. -/
theorem canFollow_cont (lead n : Nat) (hlead : lead < 256) (hE0 : lead = 0xE0 → 0x20 ≤ n % 0x40)
    (hED : lead = 0xED → n % 0x40 < 0x20) (hF0 : lead = 0xF0 → 0x10 ≤ n % 0x40)
    (hF4 : lead = 0xF4 → n % 0x40 < 0x10) : canFollow (UInt8.ofNat lead) (UInt8.ofNat (0x80 + n % 0x40)) = true := by
  have ha : (UInt8.ofNat lead).toNat = lead := toNat_ofNat_of_lt hlead
  have hb := toNat_cont n
  have hcont := isCont_cont n
  simp only [canFollow, ha, hb, hcont, Bool.true_and, Bool.and_eq_true, Bool.or_eq_true, bne_iff_ne, decide_eq_true_eq]
  omega

/-- A character is below the surrogates or above them, and of at most 21 bits. -/
theorem toNat_bounds (c : Char) : c.toNat < 0xD800 ∨ 0xDFFF < c.toNat ∧ c.toNat < 0x110000 := c.valid

/-- **A character reads back,** whatever bytes stand behind it. -/
theorem next_encodeChar (c : Char) (rest : List UInt8) : next (encodeChar c ++ rest) = some (some c, rest) := by
  have hbounds := toNat_bounds c
  unfold encodeChar
  dsimp only
  split
  · rename_i hone
    have ha : (UInt8.ofNat c.toNat).toNat = c.toNat := toNat_ofNat_of_lt (by omega)
    simp [next, ha, hone]
  · split
    · have ha : (UInt8.ofNat (0xC0 + c.toNat / 0x40)).toNat = 0xC0 + c.toNat / 0x40 := toNat_ofNat_of_lt (by omega)
      have hfollow := canFollow_cont (0xC0 + c.toNat / 0x40) c.toNat (by omega) (by omega) (by omega)
        (by omega) (by omega)
      have hvalue : (0xC0 + c.toNat / 0x40 - 0xC0) * 0x40 + c.toNat % 0x40 = c.toNat := by omega
      rw [List.cons_append, List.cons_append, List.nil_append, next_two rest (by omega) (by omega) hfollow,
        ha, payload_cont, hvalue, Char.ofNat_toNat]
    · split
      · have ha : (UInt8.ofNat (0xE0 + c.toNat / 0x1000)).toNat = 0xE0 + c.toNat / 0x1000 :=
          toNat_ofNat_of_lt (by omega)
        have hfollow := canFollow_cont (0xE0 + c.toNat / 0x1000) (c.toNat / 0x40) (by omega) (by omega)
          (by omega) (by omega) (by omega)
        have hvalue : (0xE0 + c.toNat / 0x1000 - 0xE0) * 0x1000 + c.toNat / 0x40 % 0x40 * 0x40 + c.toNat % 0x40 =
            c.toNat := by omega
        simp only [List.cons_append, List.nil_append]
        rw [next_three rest (by omega) (by omega) hfollow (isCont_cont _), ha, payload_cont, payload_cont, hvalue,
          Char.ofNat_toNat]
      · have ha : (UInt8.ofNat (0xF0 + c.toNat / 0x40000)).toNat = 0xF0 + c.toNat / 0x40000 :=
          toNat_ofNat_of_lt (by omega)
        have hfollow := canFollow_cont (0xF0 + c.toNat / 0x40000) (c.toNat / 0x1000) (by omega) (by omega)
          (by omega) (by omega) (by omega)
        have hvalue : (0xF0 + c.toNat / 0x40000 - 0xF0) * 0x40000 + c.toNat / 0x1000 % 0x40 * 0x1000
            + c.toNat / 0x40 % 0x40 * 0x40 + c.toNat % 0x40 = c.toNat := by omega
        simp only [List.cons_append, List.nil_append]
        rw [next_four rest (by omega) (by omega) hfollow (isCont_cont _) (isCont_cont _), ha, payload_cont,
          payload_cont, payload_cont, hvalue, Char.ofNat_toNat]

/-! ### Texts -/

theorem length_encodeChar_pos (c : Char) : 0 < (encodeChar c).length := by
  unfold encodeChar
  dsimp only
  split
  · exact Nat.zero_lt_one
  · split
    · exact Nat.zero_lt_two
    · split <;> exact Nat.succ_pos _

/-- The characters of a text come back one by one, if there are enough steps. -/
theorem scan_encode (cs : List Char) (fuel : Nat) (h : (cs.flatMap encodeChar).length ≤ fuel) :
    scan fuel (cs.flatMap encodeChar) = cs.map some := by
  induction cs generalizing fuel with
  | nil => cases fuel <;> rfl
  | cons c cs ih =>
    have hpos := length_encodeChar_pos c
    rw [List.flatMap_cons, List.length_append] at h
    obtain ⟨fuel, rfl⟩ : ∃ n, fuel = n + 1 := ⟨fuel - 1, by omega⟩
    have hrest := ih fuel (by omega)
    rw [List.flatMap_cons, scan, next_encodeChar]
    simp [hrest]

/-- **The bytes of a text are read as that text.** -/
theorem decodeLossy_encode (s : String) : decodeLossy (encode s) = s := by
  have hscan := scan_encode s.toList _ (Nat.le_refl _)
  rw [decodeLossy, encode, hscan]
  simp [Function.comp_def]

/-! ### Well-formed bytes -/

theorem toNat_ofNat_of_isValid {n : Nat} (h : n.isValidChar) : (Char.ofNat n).toNat = n := by
  rw [Char.ofNat, dif_pos h]
  rfl

theorem ofNat_of_toNat {a : UInt8} {n : Nat} (h : a.toNat = n) : UInt8.ofNat n = a := by
  rw [← h, UInt8.ofNat_toNat]

/-- A continuation byte holds six bits. -/
theorem toNat_of_isCont {b : UInt8} (h : isCont b = true) : payload b < 0x40 ∧ b.toNat = 0x80 + payload b := by
  simp only [isCont, Bool.and_eq_true, decide_eq_true_eq] at h
  unfold payload
  omega

/-- What may follow a lead byte is a continuation byte, and its bits are neither too small nor too large. -/
theorem toNat_of_canFollow {a b : UInt8} (h : canFollow a b = true) :
    (payload b < 0x40 ∧ b.toNat = 0x80 + payload b) ∧ (a.toNat = 0xE0 → 0x20 ≤ payload b) ∧
      (a.toNat = 0xED → payload b < 0x20) ∧ (a.toNat = 0xF0 → 0x10 ≤ payload b) ∧
      (a.toNat = 0xF4 → payload b < 0x10) := by
  simp only [canFollow, Bool.and_eq_true, Bool.or_eq_true, bne_iff_ne, decide_eq_true_eq] at h
  obtain ⟨⟨⟨⟨hcont, hE0⟩, hED⟩, hF0⟩, hF4⟩ := h
  have hbits := toNat_of_isCont hcont
  refine ⟨hbits, ?_⟩
  omega

section
variable {a b c d : UInt8}

theorem encodeChar_one (h : a.toNat < 0x80) : encodeChar (Char.ofNat a.toNat) = [a] := by
  have hvalue : (Char.ofNat a.toNat).toNat = a.toNat := toNat_ofNat_of_isValid (Or.inl (by omega))
  simp [encodeChar, hvalue, h]

theorem encodeChar_two (hlow : 0xC2 ≤ a.toNat) (hhigh : a.toNat < 0xE0) (hb : canFollow a b = true) :
    encodeChar (Char.ofNat ((a.toNat - 0xC0) * 0x40 + payload b)) = [a, b] := by
  obtain ⟨⟨hp, hbyte⟩, -⟩ := toNat_of_canFollow hb
  generalize payload b = p at hp hbyte ⊢
  have hvalue : (Char.ofNat ((a.toNat - 0xC0) * 0x40 + p)).toNat = (a.toNat - 0xC0) * 0x40 + p :=
    toNat_ofNat_of_isValid (Or.inl (by omega))
  have ha : UInt8.ofNat (0xC0 + ((a.toNat - 0xC0) * 0x40 + p) / 0x40) = a := ofNat_of_toNat (by omega)
  have hb : UInt8.ofNat (0x80 + ((a.toNat - 0xC0) * 0x40 + p) % 0x40) = b := ofNat_of_toNat (by omega)
  unfold encodeChar
  simp only [hvalue]
  rw [if_neg (by omega), if_pos (by omega), ha, hb]

theorem encodeChar_three (hlow : 0xE0 ≤ a.toNat) (hhigh : a.toNat < 0xF0) (hb : canFollow a b = true)
    (hc : isCont c = true) :
    encodeChar (Char.ofNat ((a.toNat - 0xE0) * 0x1000 + payload b * 0x40 + payload c)) = [a, b, c] := by
  obtain ⟨⟨hp, hbyte⟩, hE0, hED, -⟩ := toNat_of_canFollow hb
  obtain ⟨hq, hcyte⟩ := toNat_of_isCont hc
  generalize payload b = p at hp hbyte hE0 hED ⊢
  generalize payload c = q at hq hcyte ⊢
  have hvalid : ((a.toNat - 0xE0) * 0x1000 + p * 0x40 + q).isValidChar := by
    unfold Nat.isValidChar
    omega
  have hvalue := toNat_ofNat_of_isValid hvalid
  generalize hn : (a.toNat - 0xE0) * 0x1000 + p * 0x40 + q = n at hvalue ⊢
  have ha : UInt8.ofNat (0xE0 + n / 0x1000) = a := ofNat_of_toNat (by omega)
  have hb : UInt8.ofNat (0x80 + n / 0x40 % 0x40) = b := ofNat_of_toNat (by omega)
  have hc : UInt8.ofNat (0x80 + n % 0x40) = c := ofNat_of_toNat (by omega)
  unfold encodeChar
  simp only [hvalue]
  rw [if_neg (by omega), if_neg (by omega), if_pos (by omega), ha, hb, hc]

theorem encodeChar_four (hlow : 0xF0 ≤ a.toNat) (hhigh : a.toNat < 0xF5) (hb : canFollow a b = true)
    (hc : isCont c = true) (hd : isCont d = true) :
    encodeChar (Char.ofNat
      ((a.toNat - 0xF0) * 0x40000 + payload b * 0x1000 + payload c * 0x40 + payload d)) = [a, b, c, d] := by
  obtain ⟨⟨hp, hbyte⟩, -, -, hF0, hF4⟩ := toNat_of_canFollow hb
  obtain ⟨hq, hcyte⟩ := toNat_of_isCont hc
  obtain ⟨hr, hdyte⟩ := toNat_of_isCont hd
  generalize payload b = p at hp hbyte hF0 hF4 ⊢
  generalize payload c = q at hq hcyte ⊢
  generalize payload d = r at hr hdyte ⊢
  have hvalid : ((a.toNat - 0xF0) * 0x40000 + p * 0x1000 + q * 0x40 + r).isValidChar := by
    unfold Nat.isValidChar
    omega
  have hvalue := toNat_ofNat_of_isValid hvalid
  generalize hn : (a.toNat - 0xF0) * 0x40000 + p * 0x1000 + q * 0x40 + r = n at hvalue ⊢
  have ha : UInt8.ofNat (0xF0 + n / 0x40000) = a := ofNat_of_toNat (by omega)
  have hb : UInt8.ofNat (0x80 + n / 0x1000 % 0x40) = b := ofNat_of_toNat (by omega)
  have hc : UInt8.ofNat (0x80 + n / 0x40 % 0x40) = c := ofNat_of_toNat (by omega)
  have hd : UInt8.ofNat (0x80 + n % 0x40) = d := ofNat_of_toNat (by omega)
  unfold encodeChar
  simp only [hvalue]
  rw [if_neg (by omega), if_neg (by omega), if_neg (by omega), ha, hb, hc, hd]

end

/-- **A character is read off its own bytes only.** -/
theorem eq_of_next {bs rest : List UInt8} {c : Char} (h : next bs = some (some c, rest)) :
    bs = encodeChar c ++ rest := by
  have hread : ∀ {x : Char} {tail : List UInt8}, some (some x, tail) = some (some c, rest) → x = c ∧ tail = rest :=
    fun h => ⟨Option.some.inj (Prod.mk.inj (Option.some.inj h)).1, (Prod.mk.inj (Option.some.inj h)).2⟩
  unfold next at h
  dsimp only at h
  split at h
  · cases h
  rename_i a tail
  split at h
  · rename_i hone
    obtain ⟨rfl, rfl⟩ := hread h
    rw [encodeChar_one hone, List.singleton_append]
  split at h
  · cases h
  rename_i hlead
  split at h
  · cases h
  rename_i b tail
  split at h
  · cases h
  rename_i hb
  have hfollow : canFollow a b = true := by simpa using hb
  split at h
  · rename_i htwo
    obtain ⟨rfl, rfl⟩ := hread h
    rw [encodeChar_two (by omega) htwo hfollow]
    rfl
  rename_i htwo
  split at h
  · cases h
  rename_i c' tail
  split at h
  · cases h
  rename_i hc
  have hcont : isCont c' = true := by simpa using hc
  split at h
  · rename_i hthree
    obtain ⟨rfl, rfl⟩ := hread h
    rw [encodeChar_three (by omega) hthree hfollow hcont]
    rfl
  rename_i hthree
  split at h
  · cases h
  rename_i d tail
  split at h
  · cases h
  rename_i hd
  obtain ⟨rfl, rfl⟩ := hread h
  rw [encodeChar_four (by omega) (by omega) hfollow hcont (by simpa using hd)]
  rfl

theorem eq_nil_of_next {bs : List UInt8} (h : next bs = none) : bs = [] := by
  unfold next at h
  dsimp only at h
  split at h
  · rfl
  repeat' split at h
  all_goals cases h

theorem mapM_id_eq_some_iff {xs : List (Option Char)} {cs : List Char} : xs.mapM id = some cs ↔ xs = cs.map some := by
  induction xs generalizing cs with
  | nil => cases cs <;> simp
  | cons x xs ih =>
    have hcons : (x :: xs).mapM id = x.bind fun c => (xs.mapM id).map (c :: ·) := by
      rw [List.mapM_cons]
      cases x <;> cases xs.mapM id <;> rfl
    rw [hcons]
    constructor
    · intro h
      obtain ⟨c, rfl, h⟩ := Option.bind_eq_some_iff.1 h
      obtain ⟨ds, hds, rfl⟩ := Option.map_eq_some_iff.1 h
      rw [ih.1 hds, List.map_cons]
    · intro h
      cases cs with
      | nil => cases h
      | cons c cs =>
        obtain ⟨rfl, hxs⟩ := List.cons.inj h
        rw [Option.bind_some, ih.2 hxs, Option.map_some]

/-- Characters that are all read are read off all of the bytes, if there are enough steps. -/
theorem eq_flatMap_of_scan {fuel : Nat} {bs : List UInt8} {cs : List Char} (hfuel : bs.length ≤ fuel)
    (h : scan fuel bs = cs.map some) : bs = cs.flatMap encodeChar := by
  induction fuel generalizing bs cs with
  | zero =>
    obtain rfl : bs = [] := List.eq_nil_of_length_eq_zero (Nat.le_zero.1 hfuel)
    obtain rfl : cs = [] := List.map_eq_nil_iff.1 h.symm
    rfl
  | succ fuel ih =>
    rw [scan] at h
    cases hnext : next bs with
    | none =>
      rw [hnext] at h
      obtain rfl : cs = [] := List.map_eq_nil_iff.1 h.symm
      exact eq_nil_of_next hnext
    | some taken =>
      obtain ⟨x, rest⟩ := taken
      rw [hnext] at h
      cases cs with
      | nil => cases h
      | cons c cs =>
        obtain ⟨rfl, hrest⟩ := List.cons.inj h
        have hbytes := eq_of_next hnext
        have hpos := length_encodeChar_pos c
        have hlength := congrArg List.length hbytes
        rw [List.length_append] at hlength
        rw [List.flatMap_cons, hbytes, ← ih (by omega) hrest]

/-- **Bytes are read as a text exactly if they are its own.** -/
theorem decode?_eq_some_iff {bs : List UInt8} {s : String} : decode? bs = some s ↔ bs = encode s := by
  constructor
  · intro h
    obtain ⟨cs, hcs, rfl⟩ := Option.map_eq_some_iff.1 h
    rw [encode, String.toList_ofList]
    exact eq_flatMap_of_scan (Nat.le_refl _) (mapM_id_eq_some_iff.1 hcs)
  · rintro rfl
    have hscan := scan_encode s.toList _ (Nat.le_refl _)
    rw [decode?, encode, hscan, mapM_id_eq_some_iff.2 rfl, Option.map_some, String.ofList_toList]

/-! ### Bytes as characters -/

theorem toNat_ofNat_toNat (b : UInt8) : (Char.ofNat b.toNat).toNat = b.toNat :=
  toNat_ofNat_of_isValid (Or.inl (by have := b.toNat_lt; omega))

theorem ofOctets_octets (bs : List UInt8) : ofOctets (octets bs) = bs := by
  have hbyte : ∀ b : UInt8, byteOf (Char.ofNat b.toNat) = b := fun b => ofNat_of_toNat (toNat_ofNat_toNat b).symm
  simp [ofOctets, octets, Function.comp_def, hbyte]

theorem encodeChar_ascii {c : Char} (h : c.toNat < 0x80) : encodeChar c = [byteOf c] := by simp [encodeChar, byteOf, h]

theorem encode_ascii {cs : List Char} (h : ∀ c ∈ cs, c.toNat < 0x80) : encode (String.ofList cs) = cs.map byteOf := by
  rw [encode, String.toList_ofList]
  induction cs with
  | nil => rfl
  | cons c cs ih =>
    obtain ⟨hc, hcs⟩ := List.forall_mem_cons.1 h
    rw [List.flatMap_cons, encodeChar_ascii hc, ih hcs]
    rfl

theorem octets_encodeChar_ascii {c : Char} (h : c.toNat < 0x80) : octets (encodeChar c) = [c] := by
  have hnumber : (UInt8.ofNat c.toNat).toNat = c.toNat := toNat_ofNat_of_lt (by omega)
  rw [encodeChar_ascii h]
  simp [octets, byteOf, hnumber, Char.ofNat_toNat]

theorem le_toNat_of_mem_encodeChar {c : Char} (h : 0x80 ≤ c.toNat) : ∀ b ∈ encodeChar c, 0x80 ≤ b.toNat := by
  have hbounds := toNat_bounds c
  have hlead : ∀ n, 0x80 ≤ n → n < 256 → 0x80 ≤ (UInt8.ofNat n).toNat := by
    intro n hlow hhigh
    rwa [toNat_ofNat_of_lt hhigh]
  have hcont : ∀ n, 0x80 ≤ (UInt8.ofNat (0x80 + n % 0x40)).toNat := by
    intro n
    rw [toNat_cont]
    omega
  have hone : ¬ c.toNat < 0x80 := by omega
  unfold encodeChar
  dsimp only
  rw [if_neg hone]
  split
  · exact List.forall_mem_cons.2 ⟨hlead _ (by omega) (by omega), List.forall_mem_singleton.2 (hcont _)⟩
  split
  · refine List.forall_mem_cons.2 ⟨hlead _ (by omega) (by omega), ?_⟩
    exact List.forall_mem_cons.2 ⟨hcont _, List.forall_mem_singleton.2 (hcont _)⟩
  · refine List.forall_mem_cons.2 ⟨hlead _ (by omega) (by omega), ?_⟩
    refine List.forall_mem_cons.2 ⟨hcont _, ?_⟩
    exact List.forall_mem_cons.2 ⟨hcont _, List.forall_mem_singleton.2 (hcont _)⟩

end Postern.Text.Utf8
