import Mathlib.Algebra.Group.Nat.Defs
import Postern.Text.Number

/-!
Numerals read back.  The digits of a number stand for that number (`numeral?_decimal`), and but for zero itself none of
them begins with a zero (`decimal_cases`).  A numeral may begin with zeros: any digits stand for what they are worth
(`numeral?_eq_some_iff`), with a plus sign before them where one is allowed (`unsigned?_eq_some_iff`).
-/

namespace Postern.Text

theorem isDigit_of_mem_decimal {n : Nat} {c : Char} (h : c ∈ decimal n) : isDigit c = true := by
  have hdigit : c.isDigit = true := Nat.isDigit_of_mem_toDigits (by decide) (by decide) h
  simp only [Char.isDigit, Bool.and_eq_true, decide_eq_true_eq] at hdigit
  obtain ⟨hlow, hhigh⟩ := hdigit
  have hzero : '0' ≤ c := hlow
  have hnine : c ≤ '9' := hhigh
  simp [isDigit, hzero, hnine]

theorem digitBelow?_digitChar : ∀ n < 10, digitBelow? 10 n.digitChar = some n := by decide

theorem digitChar_ne_zero : ∀ n < 10, 0 < n → n.digitChar ≠ '0' := by decide

/-- A number is a digit, or it has one digit more than its tenth. -/
theorem decimal_eq (n : Nat) :
    n < 10 ∧ decimal n = [n.digitChar] ∨ 0 < n / 10 ∧ decimal n = decimal (n / 10) ++ [(n % 10).digitChar] := by
  by_cases hn : n < 10
  · exact .inl ⟨hn, Nat.toDigits_of_lt_base hn⟩
  · have hpos : 0 < n / 10 := by omega
    exact .inr ⟨hpos, Nat.toDigits_of_base_le (by decide) (by omega)⟩

theorem numeralFrom?_append (base : Nat) (cs ds : List Char) (acc : Nat) :
    numeralFrom? base acc (cs ++ ds) = (numeralFrom? base acc cs).bind fun n => numeralFrom? base n ds := by
  induction cs generalizing acc with
  | nil => rfl
  | cons c cs ih =>
    rw [List.cons_append, numeralFrom?, numeralFrom?]
    cases digitBelow? base c with
    | none => rfl
    | some d => exact ih _

theorem numeralFrom?_decimal (n : Nat) : numeralFrom? 10 0 (decimal n) = some n := by
  induction n using Nat.strongRecOn with
  | ind n ih =>
    rcases decimal_eq n with ⟨hn, hd⟩ | ⟨hpos, hd⟩
    · rw [hd, numeralFrom?, digitBelow?_digitChar n hn]
      simp [numeralFrom?]
    · have htenth := ih (n / 10) (by omega)
      have hlast := digitBelow?_digitChar (n % 10) (by omega)
      have hvalue : n / 10 * 10 + n % 10 = n := by omega
      rw [hd, numeralFrom?_append, htenth, Option.bind_some, numeralFrom?, hlast]
      simp [numeralFrom?, hvalue]

/-- A number has digits, and only that of zero begins with one. -/
theorem decimal_cases (n : Nat) :
    n = 0 ∧ decimal n = ['0'] ∨ 0 < n ∧ ∃ c cs, decimal n = c :: cs ∧ c ≠ '0' := by
  induction n using Nat.strongRecOn with
  | ind n ih =>
    rcases decimal_eq n with ⟨hn, hd⟩ | ⟨hpos, hd⟩
    · rcases Nat.eq_zero_or_pos n with rfl | hpos
      · exact .inl ⟨rfl, hd⟩
      · exact .inr ⟨hpos, _, _, hd, digitChar_ne_zero n hn hpos⟩
    · rcases ih (n / 10) (by omega) with ⟨hzero, -⟩ | ⟨-, c, cs, hcs, hc⟩
      · omega
      · exact .inr ⟨by omega, c, cs ++ [(n % 10).digitChar], by rw [hd, hcs, List.cons_append], hc⟩

/-- **The digits of a number stand for it.** -/
theorem numeral?_decimal (n : Nat) : numeral? 10 (decimal n) = some n := by
  have hvalue := numeralFrom?_decimal n
  rcases decimal_cases n with ⟨-, hd⟩ | ⟨-, c, cs, hd, -⟩
  · rw [hd] at hvalue ⊢
    exact hvalue
  · rw [hd] at hvalue ⊢
    exact hvalue

/-! ### Any digits -/

theorem digitBelow?_eq (c : Char) : digitBelow? 10 c = if isDigit c then some (c.toNat - '0'.toNat) else none := by
  have hiff : isDigit c = true ↔ '0' ≤ c ∧ c ≤ '9' := by simp [isDigit]
  unfold digitBelow? digitValue?
  by_cases hdigit : '0' ≤ c ∧ c ≤ '9'
  · have hnine : c.toNat ≤ '9'.toNat := hdigit.2
    have hten : '9'.toNat = '0'.toNat + 9 := by decide
    have hsmall : c.toNat - '0'.toNat < 10 := by omega
    rw [if_pos hdigit, if_pos (hiff.2 hdigit), Option.filter_some, if_pos (decide_eq_true hsmall)]
  · -- letters are worth ten or more
    rw [if_neg hdigit, if_neg (mt hiff.1 hdigit)]
    split
    · simp
    · split <;> simp

theorem numeralFrom?_eq_some_iff {acc n : Nat} {cs : List Char} : numeralFrom? 10 acc cs = some n ↔
    (∀ c ∈ cs, isDigit c = true) ∧ Nat.ofDigitChars 10 cs acc = n := by
  induction cs generalizing acc with
  | nil => simp [numeralFrom?]
  | cons c cs ih =>
    rw [numeralFrom?, digitBelow?_eq, List.forall_mem_cons, Nat.ofDigitChars_cons]
    by_cases hdigit : isDigit c = true
    · simp only [hdigit, if_true, ih, true_and, Nat.mul_comm]
    · simp [hdigit]

theorem numeral?_eq_some_iff {n : Nat} {cs : List Char} : numeral? 10 cs = some n ↔
    cs ≠ [] ∧ (∀ c ∈ cs, isDigit c = true) ∧ Nat.ofDigitChars 10 cs 0 = n := by
  cases cs with
  | nil => simp [numeral?]
  | cons c cs =>
    rw [numeral?, numeralFrom?_eq_some_iff]
    simp

/-- A text writes a number: in digits, with a plus sign before them or without. -/
def Writes (text : String) (n : Nat) : Prop :=
  ∃ digits, (text.toList = digits ∨ text.toList = '+' :: digits) ∧ digits ≠ [] ∧
    (∀ c ∈ digits, isDigit c = true) ∧ Nat.ofDigitChars 10 digits 0 = n

/-- **What is read as a number within a bound.** -/
theorem unsigned?_eq_some_iff {bound n : Nat} {text : String} :
    unsigned? bound text = some n ↔ n ≤ bound ∧ Writes text n := by
  unfold unsigned? Writes
  rw [Option.filter_eq_some_iff, decide_eq_true_iff, and_comm, numeral?_eq_some_iff]
  refine and_congr_right fun _ => ?_
  constructor
  · intro h
    split at h
    · rename_i rest htext
      exact ⟨rest, .inr htext, h⟩
    · exact ⟨_, .inl rfl, h⟩
  · rintro ⟨digits, htext, hdigits⟩
    rcases htext with htext | htext
    · rw [htext]
      split
      · exact absurd (hdigits.2.1 '+' (by simp)) (by decide)
      · exact hdigits
    · rw [htext]
      exact hdigits

/-! ### Words -/

section
variable {bits n : Nat} {text : String}

theorem word?_eq_some_iff : unsigned? (maxWord bits) text = some n ↔ n < 2 ^ bits ∧ Writes text n := by
  have hcount : wordCount bits = 2 ^ bits := Nat.one_shiftLeft bits
  have hpos : 0 < 2 ^ bits := Nat.two_pow_pos bits
  rw [unsigned?_eq_some_iff, maxWord, hcount]
  exact and_congr_left fun _ => by omega

theorem word?_eq_none_iff : unsigned? (maxWord bits) text = none ↔ ¬ ∃ n < 2 ^ bits, Writes text n := by
  rw [Option.eq_none_iff_forall_ne_some, not_exists]
  exact forall_congr' fun n => not_congr word?_eq_some_iff

end
end Postern.Text
