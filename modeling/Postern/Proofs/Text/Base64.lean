import Postern.Proofs.Text.Utf8
import Postern.Text.Encoding

/-!
Base64 read back.  A text is read as some bytes exactly if it is what these bytes are written as
(`decode?_eq_some_iff`): the writer goes through the six-bit values of the bytes (`sextets`), each value has one
character, and the reader wants left-over bits to be zero.  What is written holds letters, digits, hyphens and
underscores only.
-/

namespace Postern.Text.Base64

/-! ### Characters -/

theorem value?_digit : ∀ n < 64, value? (digit n) = some n := by decide

theorem eq_ofNat_of_between {c first last : Char} {offset n : Nat} (h : first ≤ c ∧ c ≤ last)
    (hn : c.toNat - first.toNat + offset = n) :
    offset ≤ n ∧ n ≤ last.toNat - first.toNat + offset ∧ c = Char.ofNat (first.toNat + (n - offset)) := by
  have hlow : first.toNat ≤ c.toNat := h.1
  have hhigh : c.toNat ≤ last.toNat := h.2
  have hcode : first.toNat + (n - offset) = c.toNat := by omega
  refine ⟨by omega, by omega, ?_⟩
  rw [hcode, Char.ofNat_toNat]

theorem digit_of_value? {c : Char} {n : Nat} (h : value? c = some n) : n < 64 ∧ c = digit n := by
  unfold value? at h
  split at h
  · rename_i hc
    have hn : c.toNat - 'A'.toNat + 0 = n := Option.some.inj h
    obtain ⟨-, hbound, hchar⟩ := eq_ofNat_of_between hc hn
    have hlt : n < 26 := Nat.lt_succ_of_le hbound
    refine ⟨by omega, ?_⟩
    rw [digit, if_pos hlt, hchar]
    rfl
  split at h
  · rename_i hc
    have hn : c.toNat - 'a'.toNat + 26 = n := Option.some.inj h
    obtain ⟨hoffset, hbound, hchar⟩ := eq_ofNat_of_between hc hn
    have hlt : n < 52 := Nat.lt_succ_of_le hbound
    refine ⟨by omega, ?_⟩
    rw [digit, if_neg (by omega), if_pos hlt, hchar]
    rfl
  split at h
  · rename_i hc
    have hn : c.toNat - '0'.toNat + 52 = n := Option.some.inj h
    obtain ⟨hoffset, hbound, hchar⟩ := eq_ofNat_of_between hc hn
    have hlt : n < 62 := Nat.lt_succ_of_le hbound
    refine ⟨by omega, ?_⟩
    rw [digit, if_neg (by omega), if_neg (by omega), if_pos hlt, hchar]
    rfl
  split at h
  · rename_i hc
    cases h
    exact ⟨by decide, hc⟩
  split at h
  · rename_i hc
    cases h
    exact ⟨by decide, hc⟩
  · cases h

theorem mapM_value?_digit {ns : List Nat} (h : ∀ n ∈ ns, n < 64) : (ns.map digit).mapM value? = some ns := by
  induction ns with
  | nil => rfl
  | cons n ns ih =>
    obtain ⟨hn, hns⟩ := List.forall_mem_cons.1 h
    simp [value?_digit n hn, ih hns]

theorem eq_map_digit_of_mapM_value? {cs : List Char} {ns : List Nat} (h : cs.mapM value? = some ns) :
    (∀ n ∈ ns, n < 64) ∧ cs = ns.map digit := by
  induction cs generalizing ns with
  | nil =>
    cases h
    simp
  | cons c cs ih =>
    rw [List.mapM_cons] at h
    obtain ⟨n, hn, h⟩ := Option.bind_eq_some_iff.1 h
    obtain ⟨ms, hms, h⟩ := Option.bind_eq_some_iff.1 h
    cases h
    obtain ⟨hbound, rfl⟩ := digit_of_value? hn
    obtain ⟨hall, rfl⟩ := ih hms
    exact ⟨List.forall_mem_cons.2 ⟨hbound, hall⟩, rfl⟩

/-! ### Six-bit values -/

/-- The six-bit values of bytes, three bytes to four values; what is left over is filled up with zeros. -/
def sextets : List UInt8 → List Nat
  | [] => []
  | [a] => [a.toNat / 4, a.toNat % 4 * 16]
  | [a, b] => [a.toNat / 4, a.toNat % 4 * 16 + b.toNat / 16, b.toNat % 16 * 4]
  | a :: b :: c :: rest =>
    a.toNat / 4 :: (a.toNat % 4 * 16 + b.toNat / 16) :: (b.toNat % 16 * 4 + c.toNat / 64) :: c.toNat % 64
      :: sextets rest

theorem encode_eq (bs : List UInt8) : encode bs = (sextets bs).map digit := by
  fun_induction encode bs with
  | case1 => rfl
  | case2 a => rfl
  | case3 a b => rfl
  | case4 a b c rest ih =>
    rw [ih]
    rfl

theorem lt_of_mem_sextets {bs : List UInt8} : ∀ n ∈ sextets bs, n < 64 := by
  fun_induction sextets bs with
  | case1 => simp
  | case2 a =>
    have ha := a.toNat_lt
    simp
    omega
  | case3 a b =>
    have ha := a.toNat_lt
    have hb := b.toNat_lt
    simp
    omega
  | case4 a b c rest ih =>
    have ha := a.toNat_lt
    have hb := b.toNat_lt
    have hc := c.toNat_lt
    simp only [List.forall_mem_cons]
    exact ⟨by omega, by omega, by omega, by omega, ih⟩

theorem bytes?_sextets (bs : List UInt8) : bytes? (sextets bs) = some bs := by
  fun_induction sextets bs with
  | case1 => rfl
  | case2 a =>
    have ha : UInt8.ofNat (a.toNat / 4 * 4 + a.toNat % 4 * 16 / 16) = a := Utf8.ofNat_of_toNat (by omega)
    have hzero : a.toNat % 4 * 16 % 16 = 0 := by omega
    simp only [bytes?, hzero, if_true, ha]
  | case3 a b =>
    have hb' := b.toNat_lt
    have ha : UInt8.ofNat (a.toNat / 4 * 4 + (a.toNat % 4 * 16 + b.toNat / 16) / 16) = a :=
      Utf8.ofNat_of_toNat (by omega)
    have hb : UInt8.ofNat ((a.toNat % 4 * 16 + b.toNat / 16) % 16 * 16 + b.toNat % 16 * 4 / 4) = b :=
      Utf8.ofNat_of_toNat (by omega)
    have hzero : b.toNat % 16 * 4 % 4 = 0 := by omega
    simp only [bytes?, hzero, if_true, ha, hb]
  | case4 a b c rest ih =>
    have hb' := b.toNat_lt
    have hc' := c.toNat_lt
    have ha : UInt8.ofNat (a.toNat / 4 * 4 + (a.toNat % 4 * 16 + b.toNat / 16) / 16) = a :=
      Utf8.ofNat_of_toNat (by omega)
    have hb : UInt8.ofNat
        ((a.toNat % 4 * 16 + b.toNat / 16) % 16 * 16 + (b.toNat % 16 * 4 + c.toNat / 64) / 4) = b :=
      Utf8.ofNat_of_toNat (by omega)
    have hc : UInt8.ofNat ((b.toNat % 16 * 4 + c.toNat / 64) % 4 * 64 + c.toNat % 64) = c :=
      Utf8.ofNat_of_toNat (by omega)
    simp only [bytes?, ih, Option.map_some, ha, hb, hc]

/-- Since left-over bits are zero, the values come back from the bytes. -/
theorem eq_sextets_of_bytes? {ns : List Nat} {bs : List UInt8} (hns : ∀ n ∈ ns, n < 64) (h : bytes? ns = some bs) :
    ns = sextets bs := by
  fun_induction bytes? ns generalizing bs with
  | case1 =>
    cases h
    rfl
  | case2 => cases h
  | case3 p q hzero =>
    cases h
    obtain ⟨hp, hq⟩ : p < 64 ∧ q < 64 := by simpa using hns
    have ha : (UInt8.ofNat (p * 4 + q / 16)).toNat = p * 4 + q / 16 := Utf8.toNat_ofNat_of_lt (by omega)
    have hp' : (p * 4 + q / 16) / 4 = p := by omega
    have hq' : (p * 4 + q / 16) % 4 * 16 = q := by omega
    rw [sextets, ha, hp', hq']
  | case4 => cases h
  | case5 p q r hzero =>
    cases h
    obtain ⟨hp, hq, hr⟩ : p < 64 ∧ q < 64 ∧ r < 64 := by simpa using hns
    have ha : (UInt8.ofNat (p * 4 + q / 16)).toNat = p * 4 + q / 16 := Utf8.toNat_ofNat_of_lt (by omega)
    have hb : (UInt8.ofNat (q % 16 * 16 + r / 4)).toNat = q % 16 * 16 + r / 4 := Utf8.toNat_ofNat_of_lt (by omega)
    have hp' : (p * 4 + q / 16) / 4 = p := by omega
    have hq' : (p * 4 + q / 16) % 4 * 16 + (q % 16 * 16 + r / 4) / 16 = q := by omega
    have hr' : (q % 16 * 16 + r / 4) % 16 * 4 = r := by omega
    rw [sextets, ha, hb, hp', hq', hr']
  | case6 => cases h
  | case7 p q r s rest ih =>
    obtain ⟨cs, hcs, rfl⟩ := Option.map_eq_some_iff.1 h
    simp only [List.forall_mem_cons] at hns
    obtain ⟨hp, hq, hr, hs, hrest⟩ := hns
    have ha : (UInt8.ofNat (p * 4 + q / 16)).toNat = p * 4 + q / 16 := Utf8.toNat_ofNat_of_lt (by omega)
    have hb : (UInt8.ofNat (q % 16 * 16 + r / 4)).toNat = q % 16 * 16 + r / 4 := Utf8.toNat_ofNat_of_lt (by omega)
    have hc : (UInt8.ofNat (r % 4 * 64 + s)).toNat = r % 4 * 64 + s := Utf8.toNat_ofNat_of_lt (by omega)
    have hp' : (p * 4 + q / 16) / 4 = p := by omega
    have hq' : (p * 4 + q / 16) % 4 * 16 + (q % 16 * 16 + r / 4) / 16 = q := by omega
    have hr' : (q % 16 * 16 + r / 4) % 16 * 4 + (r % 4 * 64 + s) / 64 = r := by omega
    have hs' : (r % 4 * 64 + s) % 64 = s := by omega
    rw [sextets, ha, hb, hc, hp', hq', hr', hs', ih hrest hcs]

/-- **A text is read as the bytes that it is written for.** -/
theorem decode?_eq_some_iff {cs : List Char} {bs : List UInt8} : decode? cs = some bs ↔ cs = encode bs := by
  constructor
  · intro h
    obtain ⟨ns, hns, hbs⟩ := Option.bind_eq_some_iff.1 h
    obtain ⟨hbound, rfl⟩ := eq_map_digit_of_mapM_value? hns
    rw [encode_eq, eq_sextets_of_bytes? hbound hbs]
  · rintro rfl
    rw [decode?, encode_eq, mapM_value?_digit lt_of_mem_sextets, Option.bind_some, bytes?_sextets]

theorem forall_mem_encode {P : Char → Prop} (h : ∀ n < 64, P (digit n)) (bs : List UInt8) : ∀ c ∈ encode bs, P c := by
  intro c hc
  rw [encode_eq] at hc
  obtain ⟨n, hn, rfl⟩ := List.mem_map.1 hc
  exact h n (lt_of_mem_sextets n hn)

end Postern.Text.Base64
