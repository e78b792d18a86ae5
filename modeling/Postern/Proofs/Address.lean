import Mathlib.Data.List.Basic
import Postern.Proofs.Id

/-!
Which texts are addresses.  A text is one exactly if it has two colons and none of the pieces around them is empty
(`IsAddress`).  Every text with two colons is three parts around them (`exists_tripleText`), and three parts make an
address only if there is no colon in them and none of them is empty (`isAddress_tripleText_iff`): a colon inside of a
part is one too many, wherever it is.  So the text of a malformed address is no address of anything
(`Invertible.unread`), and resources and roles are read from their own texts and from no other ones
(`addresses_invertible`).
-/

namespace Postern

/-- A text with exactly two colons, none of the pieces around them being empty. -/
structure IsAddress (raw : String) : Prop where
  colons : raw.toList.count ':' = 2
  pieces : ∀ piece ∈ raw.toList.splitOn ':', piece ≠ []

/-! ### Three parts -/

section
variable {account kind name : String}

theorem count_tripleText : (tripleText account kind name).toList.count ':' =
    account.toList.count ':' + kind.toList.count ':' + name.toList.count ':' + 2 := by
  have hcolon : (":" : String).toList.count ':' = 1 := by decide
  simp only [tripleText, String.toList_append, List.count_append]
  omega

theorem splitOn_tripleText (ha : ':' ∉ account.toList) (hk : ':' ∉ kind.toList) (hn : ':' ∉ name.toList) :
    (tripleText account kind name).toList.splitOn ':' = [account.toList, kind.toList, name.toList] := by
  rw [← Text.fields_eq_splitOn, fields_tripleText ha hk hn]

/-- Three parts make an address exactly if each of them is one. -/
theorem isAddress_tripleText_iff :
    IsAddress (tripleText account kind name) ↔ AreParts account kind name := by
  constructor
  · rintro ⟨hcolons, hpieces⟩
    -- two colons stand between the parts, so that none is left for the parts themselves
    rw [count_tripleText] at hcolons
    have ha : ':' ∉ account.toList := List.count_eq_zero.1 (by omega)
    have hk : ':' ∉ kind.toList := List.count_eq_zero.1 (by omega)
    have hn : ':' ∉ name.toList := List.count_eq_zero.1 (by omega)
    simp only [splitOn_tripleText ha hk hn, List.forall_mem_cons, ne_eq, String.toList_eq_nil_iff] at hpieces
    obtain ⟨ha', hk', hn', -⟩ := hpieces
    exact ⟨⟨ha', ha⟩, ⟨hk', hk⟩, hn', hn⟩
  · rintro ⟨⟨ha', ha⟩, ⟨hk', hk⟩, hn', hn⟩
    refine ⟨?_, ?_⟩
    · rw [count_tripleText, List.count_eq_zero.2 ha, List.count_eq_zero.2 hk, List.count_eq_zero.2 hn]
    · intro piece hpiece
      rw [splitOn_tripleText ha hk hn] at hpiece
      simp only [List.mem_cons, List.not_mem_nil, or_false] at hpiece
      rcases hpiece with rfl | rfl | rfl
      · exact toList_ne_nil ha'
      · exact toList_ne_nil hk'
      · exact toList_ne_nil hn'

end

/-- A text with two colons is three parts around them. -/
theorem exists_tripleText {raw : String} (h : raw.toList.count ':' = 2) :
    ∃ account kind name, raw = tripleText account kind name := by
  have hlength : (Text.fields ':' raw.toList).length = 3 := by rw [Text.length_fields, h]
  obtain ⟨a, k, n, hfields⟩ := List.length_eq_three.1 hlength
  have hjoined : Text.joined ':' [a, k, n] = raw.toList := by
    rw [← hfields]
    exact Text.joined_fields raw.toList
  refine ⟨String.ofList a, String.ofList k, String.ofList n, String.toList_injective ?_⟩
  rw [← hjoined]
  simp [tripleText, Text.joined]

theorem exists_readAs_iff {α : Type} {mk : String → String → String → α} {raw : String} :
    (∃ a, readAs mk raw = .ok a) ↔ IsAddress raw := by
  constructor
  · rintro ⟨a, ha⟩
    obtain ⟨account, kind, name, -, rfl, hparts⟩ := readAs_eq_ok_iff.1 ha
    exact isAddress_tripleText_iff.2 hparts
  · intro h
    obtain ⟨account, kind, name, rfl⟩ := exists_tripleText h.colons
    exact ⟨_, readAs_tripleText (isAddress_tripleText_iff.1 h)⟩

/-! ### Reading and writing -/

/-- Reading and writing are inverse for what `mk` makes of three parts. -/
structure Invertible {α : Type} (mk : String → String → String → α) (parse : String → Except MalformedId α)
    (text : α → String) : Prop where
  /-- The texts that are read are the addresses. -/
  accepts : ∀ raw, (∃ a, parse raw = .ok a) ↔ IsAddress raw
  /-- What is read has the text that it was read from. -/
  rewrites : ∀ raw a, parse raw = .ok a → text a = raw
  /-- A text that is not read is told as it is. -/
  blames : ∀ raw e, parse raw = .error e → e.raw = raw
  /-- What is made of parts is read from its own text. -/
  rereads : ∀ account kind name, AreParts account kind name →
    parse (text (mk account kind name)) = .ok (mk account kind name)
  /-- No two of these share a text. -/
  separates : ∀ account kind name account' kind' name', AreParts account kind name → AreParts account' kind' name' →
    text (mk account kind name) = text (mk account' kind' name') → account = account' ∧ kind = kind' ∧ name = name'
  /-- The text of what is made of anything else is not read at all. -/
  unread : ∀ account kind name, ¬ AreParts account kind name → ∀ a, parse (text (mk account kind name)) ≠ .ok a

/-- What is read in three parts and written in three parts is read from its text, and from no other one. -/
theorem invertible {α : Type} {mk : String → String → String → α} {text : α → String}
    (htext : ∀ account kind name, text (mk account kind name) = tripleText account kind name) :
    Invertible mk (readAs mk) text := by
  refine ⟨fun raw => exists_readAs_iff, ?_, fun raw e => raw_of_readAs, ?_, ?_, ?_⟩
  · intro raw a ha
    obtain ⟨account, kind, name, rfl, rfl, -⟩ := readAs_eq_ok_iff.1 ha
    exact htext account kind name
  · intro account kind name hparts
    rw [htext]
    exact readAs_tripleText hparts
  · intro account kind name account' kind' name' hparts hparts' h
    rw [htext, htext] at h
    have htriple := triple?_eq_some_iff.2 ⟨rfl, hparts⟩
    rw [h, triple?_eq_some_iff.2 ⟨rfl, hparts'⟩] at htriple
    cases htriple
    exact ⟨rfl, rfl, rfl⟩
  · intro account kind name hnot a ha
    rw [htext] at ha
    exact hnot (isAddress_tripleText_iff.1 (exists_readAs_iff.1 ⟨a, ha⟩))

/-- **Reading and writing addresses are inverse**, of resources as of roles. -/
theorem addresses_invertible :
    Invertible ResourceId.mk ResourceId.parse ResourceId.text ∧ Invertible RoleId.mk RoleId.parse RoleId.text := by
  have hresource : ResourceId.parse = readAs ResourceId.mk := rfl
  have hrole : RoleId.parse = readAs RoleId.mk := rfl
  rw [hresource, hrole]
  exact ⟨invertible fun _ _ _ => rfl, invertible fun _ _ _ => rfl⟩

end Postern
