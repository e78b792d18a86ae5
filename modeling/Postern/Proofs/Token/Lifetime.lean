import Mathlib.Algebra.Group.Nat.Defs
import Postern.Proofs.Token.Issued

/-!
How long tokens last.  Hours are counted in a signed word: below `2 ^ 63` a number of hours is taken as it is, from
there on `2 ^ 64` less (`signedHours_of_lt`, `signedHours_of_le`).  Claims exist exactly if their end is a date
(`exists_ofRole?_iff`), and what is issued for them is accepted at once exactly if they do not end before they begin
(`exists_verify_iff`).  So the lower half of all numbers gives the lifetime that was asked for, and the upper half gives
tokens that are over when they are made (`lifetime`).
-/

namespace Postern

namespace Token

section
variable {now : Int} {secret : String} {c c' : Claims}

/-- A token is accepted for no other claims than its own, and only until their time is over. -/
theorem live_of_verify_tokenOf (hexp : IsLong c.exp) (hiat : IsLong c.iat)
    (h : verify now secret (tokenOf secret c) = .ok c') : now - leeway ≤ c.exp := by
  obtain ⟨a, header, members, hfalls, -, hcarries, haccepted⟩ := exists_accepted_of_verify h
  obtain rfl : a = partsOf secret c := hfalls.unique fallsInto_tokenOf
  have hmembers := ((says_payload hexp hiat).carries_iff readJson_claimReaders).1 hcarries
  rw [plainPayload_payloadMembers.restrict_eq] at hmembers
  obtain rfl : members = payloadMembers c := Json.obj.inj hmembers
  have hends : c.exp = c'.exp := by simpa [Json.named, payloadMembers] using haccepted.claims.exp.1
  rw [hends]
  exact haccepted.exp.2

end
end Token

namespace Claims

/-! ### Hours as a signed word -/

section
variable {hours : Nat}

theorem wordCount_eq : Text.wordCount 64 = 2 ^ 64 := by decide

theorem signedHours_of_lt (h : hours < 2 ^ 63) : signedHours hours = hours := by
  rw [signedHours, wordCount_eq]
  exact Int.bmod_eq_of_le (by omega) (by omega)

theorem signedHours_of_le (hlow : 2 ^ 63 ≤ hours) (hhigh : hours < 2 ^ 64) : signedHours hours = hours - 2 ^ 64 := by
  have hsame : signedHours hours = Int.bmod (hours - 2 ^ 64) (2 ^ 64) := by
    rw [signedHours, wordCount_eq]
    exact (Int.sub_bmod_right ..).symm
  rw [hsame]
  exact Int.bmod_eq_of_le (by omega) (by omega)

end

/-! ### Claims of a role -/

/-- A second that a date can have. -/
def IsDate (t : Int) : Prop := firstSecond ≤ t ∧ t ≤ lastSecond

section
variable {now : Int} {role : RoleId} {hours : Nat} {c : Claims}

/-- Claims say when they were made and when they end; the end is a date. -/
theorem ofRole?_eq_some (h : ofRole? now role hours = some c) :
    c.iat = now ∧ c.exp = now + 3600 * signedHours hours ∧ IsDate c.exp := by
  unfold ofRole? at h
  dsimp only at h
  split at h
  · rename_i hrange
    obtain rfl := Option.some.inj h
    have hexp : now + signedHours hours * 3600 = now + 3600 * signedHours hours := by omega
    exact ⟨rfl, hexp, hrange.2.2⟩
  · cases h

/-- **There are claims exactly if their end is a date.** -/
theorem exists_ofRole?_iff (hnow : IsDate now) :
    (∃ c, ofRole? now role hours = some c) ↔ IsDate (now + 3600 * signedHours hours) := by
  constructor
  · rintro ⟨c, hc⟩
    obtain ⟨-, hexp, hdate⟩ := ofRole?_eq_some hc
    exact hexp ▸ hdate
  · intro hend
    -- two dates are never as far apart as the longest lifetime
    have hlongest : longestLifetime = 9223372036854775 := by decide
    have hrange : -longestLifetime ≤ signedHours hours * 3600 ∧ signedHours hours * 3600 ≤ longestLifetime ∧
        firstSecond ≤ now + signedHours hours * 3600 ∧ now + signedHours hours * 3600 ≤ lastSecond := by
      unfold IsDate firstSecond lastSecond at *
      omega
    refine ⟨⟨role.text, role.account, now + signedHours hours * 3600, now⟩, ?_⟩
    rw [ofRole?, if_pos hrange]

theorem IsDate.isLong {t : Int} (h : IsDate t) : Token.IsLong t := by
  unfold IsDate firstSecond lastSecond at h
  unfold Token.IsLong
  omega

/-- What is issued for claims is accepted at once exactly if they do not end before they begin. -/
theorem exists_verify_iff (hnow : IsDate now) (hpositive : 0 ≤ now) (h : ofRole? now role hours = some c)
    {secret token : String} (hissue : Token.issue secret c = .ok token) :
    (∃ c', Token.verify now secret token = .ok c') ↔ c.iat ≤ c.exp := by
  obtain ⟨hiat, hexp, hdate⟩ := ofRole?_eq_some h
  have hsecret : secret ≠ "" := by
    rintro rfl
    cases hissue
  obtain rfl : Token.tokenOf secret c = token := by
    rw [Token.issue_eq hsecret] at hissue
    exact Except.ok.inj hissue
  have hlong : Token.IsLong c.iat := hiat ▸ hnow.isLong
  constructor
  · rintro ⟨c', hverify⟩
    have hlive := Token.live_of_verify_tokenOf hdate.isLong hlong hverify
    unfold Token.leeway at hlive
    -- the lifetime is a whole number of hours, and the leeway is less than one
    omega
  · intro hle
    have hlive : now - Token.leeway ≤ c.exp := by
      unfold Token.leeway
      omega
    exact ⟨c, Token.verify_tokenOf hsecret hdate.isLong hlong (by omega) hlive⟩

end

/-! ### Lifetimes -/

/-- How long claims last that are made for a number of hours. -/
structure Lasting (now : Int) (hours : Nat) (c : Claims) : Prop where
  made : c.iat = now
  /-- The lifetime is the one that was asked for in the lower half of all words, and there only. -/
  asked : c.exp - c.iat = 3600 * hours ↔ hours < 2 ^ 63
  /-- In the upper half it is short of that by all words. -/
  wrapped : 2 ^ 63 ≤ hours → c.exp - c.iat = 3600 * (hours - 2 ^ 64)
  /-- In the lower half alone the end is not before the beginning. -/
  ordered : c.iat ≤ c.exp ↔ hours < 2 ^ 63
  /-- In the lower half alone a token is accepted when it is made. -/
  fresh : 0 ≤ now → ∀ secret token, Token.issue secret c = .ok token →
    ((∃ c', Token.verify now secret token = .ok c') ↔ hours < 2 ^ 63)

/-- **How long tokens last.**  Of all words of hours those give claims whose end is a date, counted from `now` on with
the upper half before it.  Their lifetime is the number of hours that was asked for, and they are not over when they
are made, exactly in the lower half. -/
theorem lifetime {now : Int} (hnow : IsDate now) (role : RoleId) {hours : Nat} (hword : hours < 2 ^ 64) :
    ((∃ c, ofRole? now role hours = some c) ↔
      hours < 2 ^ 63 ∧ IsDate (now + 3600 * hours) ∨ 2 ^ 63 ≤ hours ∧ IsDate (now + 3600 * (hours - 2 ^ 64))) ∧
    ∀ c, ofRole? now role hours = some c → Lasting now hours c := by
  rcases Nat.lt_or_ge hours (2 ^ 63) with hlow | hhigh
  · have hsigned : signedHours hours = hours := signedHours_of_lt hlow
    refine ⟨?_, fun c hc => ?_⟩
    · rw [exists_ofRole?_iff hnow, hsigned, or_iff_left (fun h => Nat.not_le.2 hlow h.1), and_iff_right hlow]
    · obtain ⟨hiat, hexp, -⟩ := ofRole?_eq_some hc
      have hordered : c.iat ≤ c.exp := by omega
      refine ⟨hiat, ?_, fun hhigh => absurd hhigh (Nat.not_le.2 hlow), iff_of_true hordered hlow, ?_⟩
      · exact iff_of_true (by omega) hlow
      · intro hpositive secret token hissue
        rw [exists_verify_iff hnow hpositive hc hissue]
        exact iff_of_true hordered hlow
  · have hsigned : signedHours hours = hours - 2 ^ 64 := signedHours_of_le hhigh hword
    refine ⟨?_, fun c hc => ?_⟩
    · rw [exists_ofRole?_iff hnow, hsigned, or_iff_right (fun h => Nat.not_lt.2 hhigh h.1), and_iff_right hhigh]
    · obtain ⟨hiat, hexp, -⟩ := ofRole?_eq_some hc
      have hover : ¬ c.iat ≤ c.exp := by omega
      refine ⟨hiat, ?_, fun _ => by omega, iff_of_false hover (Nat.not_lt.2 hhigh), ?_⟩
      · exact iff_of_false (by omega) (Nat.not_lt.2 hhigh)
      · intro hpositive secret token hissue
        rw [exists_verify_iff hnow hpositive hc hissue]
        exact iff_of_false hover (Nat.not_lt.2 hhigh)

/-- A day. -/
theorem lifetime_day :
    let now : Int := 1700000000
    let role : RoleId := ⟨"cucumber", "user", "alice"⟩
    IsDate now ∧ 24 < 2 ^ 64 ∧ ∃ c, ofRole? now role 24 = some c ∧ Lasting now 24 c ∧ c.exp = 1700086400 := by
  intro now role
  have hnow : IsDate now := ⟨by decide, by decide⟩
  have hword : 24 < 2 ^ 64 := by decide
  obtain ⟨hexists, hlasting⟩ := lifetime hnow role hword
  obtain ⟨c, hc⟩ := hexists.2 (.inl ⟨by decide, by decide, by decide⟩)
  have hlast := hlasting c hc
  have hend : c.exp - c.iat = 3600 * (24 : Nat) := hlast.asked.2 (by decide)
  have hmade : c.iat = now := hlast.made
  exact ⟨hnow, hword, c, hc, hlast, by omega⟩

/-- The largest number of hours gives claims that ended an hour before they were made. -/
theorem lifetime_wraps :
    let now : Int := 1700000000
    let hours : Nat := 2 ^ 64 - 1
    ∃ c, ofRole? now ⟨"cucumber", "user", "alice"⟩ hours = some c ∧ c.exp - c.iat = -3600 ∧
      c.exp - c.iat ≠ 3600 * hours ∧ c.exp < c.iat ∧
      ∃ token, Token.issue "s3cret" c = .ok token ∧ ∀ c', Token.verify now "s3cret" token ≠ .ok c' := by
  intro now hours
  have hnow : IsDate now := ⟨by decide, by decide⟩
  have hsigned : signedHours hours = hours - 2 ^ 64 := signedHours_of_le (by decide) (by decide)
  obtain ⟨c, hc⟩ : ∃ c, ofRole? now ⟨"cucumber", "user", "alice"⟩ hours = some c := by
    rw [exists_ofRole?_iff hnow, hsigned]
    exact ⟨by decide, by decide⟩
  obtain ⟨hiat, hexp, -⟩ := ofRole?_eq_some hc
  have hhours : (hours : Int) = 2 ^ 64 - 1 := by decide
  have hissue : Token.issue "s3cret" c = .ok (Token.tokenOf "s3cret" c) := Token.issue_eq (by decide)
  refine ⟨c, hc, by omega, by omega, by omega, _, hissue, fun c' hverify => ?_⟩
  have hordered := (exists_verify_iff hnow (by decide) hc hissue).1 ⟨c', hverify⟩
  omega

end Claims
end Postern
