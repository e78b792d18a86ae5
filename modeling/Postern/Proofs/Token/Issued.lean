import Postern.Http.Message
import Postern.Proofs.Json.Written
import Postern.Proofs.Token.Accepted
import Postern.Text.Unicode

/-!
Issued tokens are good.  What the parts of an issued token say is read back, so the token is accepted for its claims
(`verify_tokenOf`), and all its characters may stand in a header (`isTextValue_bearer`).
-/

namespace Postern

namespace Token

/-! ### The token for claims -/

/-- What the header of an issued token consists of. -/
def headerMembers : List (String × Json) := [("typ", .str "JWT"), ("alg", .str "HS256")]

def partsOf (secret : String) (c : Claims) : Parts :=
  signedParts secret (Text.Utf8.encode header.compact) (Text.Utf8.encode (payload c).compact)

/-- The token for claims. -/
def tokenOf (secret : String) (c : Claims) : String := (partsOf secret c).text

section
variable {now : Int} {secret : String} {c : Claims}

theorem issue_eq (hsecret : secret ≠ "") : issue secret c = .ok (tokenOf secret c) := by
  simp only [issue, if_neg hsecret, tokenOf, partsOf, Parts.text, signedParts, Parts.message, part]

theorem fallsInto_tokenOf : FallsInto (tokenOf secret c) (partsOf secret c) := fallsInto_signedParts ..

theorem says_compact {j : Json} (h : Json.Fits Json.maxDepth j) :
    Says (Text.Base64.encode (Text.Utf8.encode j.compact)) j :=
  ⟨j.compact, rfl, Json.read?_compact h⟩

theorem isWord_of_isLong {n : Int} (h : IsLong n) : Json.IsWord n := by
  have hlow : (Text.wordCount 63 : Int) = 2 ^ 63 := by decide
  have hhigh : (Text.maxWord 64 : Int) = 2 ^ 64 - 1 := by decide
  obtain ⟨hmin, hmax⟩ := h
  constructor
  · omega
  · omega

theorem says_header : Says (partsOf secret c).header (.obj headerMembers) := by
  have hfits : Json.Fits Json.maxDepth header := by simp [header, Json.Fits, Json.maxDepth]
  have hsaid := says_compact hfits
  have hmembers : Json.obj headerMembers = header := rfl
  simpa only [partsOf, signedParts, hmembers] using hsaid

theorem says_payload (hexp : IsLong c.exp) (hiat : IsLong c.iat) :
    Says (partsOf secret c).payload (.obj (payloadMembers c)) := by
  have hfits : Json.Fits Json.maxDepth (payload c) := by
    simp [payload, Json.Fits, Json.maxDepth, isWord_of_isLong hexp, isWord_of_isLong hiat]
  have hsaid := says_compact hfits
  have hmembers : Json.obj (payloadMembers c) = payload c := rfl
  simpa only [partsOf, signedParts, hmembers] using hsaid

theorem plainPayload_payloadMembers : PlainPayload (payloadMembers c) := by simp [PlainPayload, payloadMembers]

/-- What is wanted of a token holds of the token for claims, until its time is over. -/
theorem accepted_partsOf (hsecret : secret ≠ "") (hexp : IsLong c.exp) (hiat : IsLong c.iat) (hpositive : 0 ≤ c.exp)
    (hlive : now - leeway ≤ c.exp) :
    Accepted now secret c (partsOf secret c) (.obj headerMembers) (payloadMembers c) where
  secretSet := hsecret
  algorithm := ⟨_, .member rfl, .text⟩
  signature := by simp only [partsOf, signedParts, signature, Parts.message]
  claims := ⟨rfl, rfl, ⟨rfl, hexp⟩, ⟨rfl, hiat⟩⟩
  exp := ⟨hpositive, hlive⟩
  audience := fun _ hj => absurd hj List.not_mem_nil

/-- **The token for claims is accepted for them.** -/
theorem verify_tokenOf (hsecret : secret ≠ "") (hexp : IsLong c.exp) (hiat : IsLong c.iat) (hpositive : 0 ≤ c.exp)
    (hlive : now - leeway ≤ c.exp) : verify now secret (tokenOf secret c) = .ok c := by
  have hheader : PlainHeader headerMembers := by
    refine ⟨?_, .inr ⟨"JWT", rfl⟩⟩
    simp [headerMembers]
  exact verify_of_plain fallsInto_tokenOf says_header (says_payload hexp hiat)
    (accepted_partsOf hsecret hexp hiat hpositive hlive) hheader plainPayload_payloadMembers

/-! ### In a header -/

theorem visible_tokenOf : ∀ ch ∈ (tokenOf secret c).toList, 0x20 < ch.toNat ∧ ch.toNat < 0x7F := by
  have hpart : ∀ bs, ∀ ch ∈ Text.Base64.encode bs, 0x20 < ch.toNat ∧ ch.toNat < 0x7F :=
    Text.Base64.forall_mem_encode (by decide)
  intro ch hch
  rw [fallsInto_tokenOf.text] at hch
  simp only [Parts.message, partsOf, signedParts, List.mem_append, List.mem_cons] at hch
  rcases hch with (hch | rfl | hch) | rfl | hch
  · exact hpart _ ch hch
  · decide
  · exact hpart _ ch hch
  · decide
  · exact hpart _ ch hch

theorem isTextValue_bearer : HttpRequest.isTextValue ("Bearer " ++ tokenOf secret c) = true := by
  rw [HttpRequest.isTextValue, String.toList_append, List.all_append, Bool.and_eq_true]
  refine ⟨by decide, List.all_eq_true.2 fun ch hch => ?_⟩
  have hvisible := visible_tokenOf ch hch
  have hrange : 0x20 ≤ ch.toNat ∧ ch.toNat < 0x7F := by omega
  simp [hrange]

theorem isHeaderValue_of_isTextValue {value : String} (h : HttpRequest.isTextValue value = true) :
    HttpRequest.isHeaderValue value = true := by
  rw [HttpRequest.isTextValue, List.all_eq_true] at h
  refine List.all_eq_true.2 fun ch hch => ?_
  have hch := h ch hch
  simp only [Bool.or_eq_true, Bool.and_eq_true, decide_eq_true_eq] at hch ⊢
  rcases hch with htab | ⟨hlow, hhigh⟩
  · exact .inl htab
  · exact .inr ⟨hlow, by omega⟩

theorem isAllBlank_tokenOf : Text.isAllBlank (tokenOf secret c) = false := by
  have hdot : '.' ∈ (tokenOf secret c).toList := by
    rw [fallsInto_tokenOf.text]
    simp
  rw [Text.isAllBlank, List.all_eq_false]
  exact ⟨'.', hdot, by decide⟩

end
end Token

end Postern
