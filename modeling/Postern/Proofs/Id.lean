import Postern.Id

/-!
Addresses that can be read back.  A text is read as three parts exactly when it is these parts joined by colons and
each of them is a part, that is not empty and without a colon (`triple?_eq_some_iff`).  Resources and roles are what is
made of these parts (`readAs_eq_ok_iff`).  So an address made of parts is what its own text reads as, and two such
addresses never share a text.
-/

namespace Postern

/-- What can stand between the colons of an address: a text that is not empty and holds no colon. -/
def IsPart (s : String) : Prop := s ≠ "" ∧ ':' ∉ s.toList

instance (s : String) : Decidable (IsPart s) := inferInstanceAs (Decidable (_ ∧ _))

theorem toList_ne_nil {s : String} (h : s ≠ "") : s.toList ≠ [] := by
  simpa [String.toList_eq_nil_iff] using h

theorem fields_tripleText {account kind name : String} (ha : ':' ∉ account.toList) (hk : ':' ∉ kind.toList)
    (hn : ':' ∉ name.toList) :
    Text.fields ':' (tripleText account kind name).toList = [account.toList, kind.toList, name.toList] := by
  have hchars : (tripleText account kind name).toList =
      account.toList ++ ':' :: (kind.toList ++ ':' :: name.toList) := by
    simp [tripleText]
  rw [hchars, Text.fields_append_sep ha, Text.fields_append_sep hk, Text.fields_of_not_mem hn]

/-- **Reading and writing addresses are inverse.** -/
theorem triple?_eq_some_iff {raw account kind name : String} :
    triple? raw = some (account, kind, name) ↔
      raw = tripleText account kind name ∧ IsPart account ∧ IsPart kind ∧ IsPart name := by
  constructor
  · intro h
    unfold triple? at h
    split at h
    · rename_i a k i hf
      split at h
      · rename_i hne
        simp only [Option.some.injEq, Prod.mk.injEq] at h
        obtain ⟨rfl, rfl, rfl⟩ := h
        have hj : Text.joined ':' (Text.fields ':' raw.toList) = raw.toList := Text.joined_fields raw.toList
        have hm : ∀ field ∈ Text.fields ':' raw.toList, ':' ∉ field := Text.not_mem_of_mem_fields raw.toList
        rw [hf] at hj hm
        refine ⟨String.toList_injective ?_, ?_, ?_, ?_⟩
        · rw [← hj]; simp [tripleText, Text.joined]
        all_goals simp [IsPart, hne, hm]
      · cases h
    · cases h
  · rintro ⟨rfl, ⟨ha, ha'⟩, ⟨hk, hk'⟩, hi, hi'⟩
    simp [triple?, fields_tripleText ha' hk' hi', toList_ne_nil ha, toList_ne_nil hk, toList_ne_nil hi]

/-- What can stand around the two colons of an address. -/
def AreParts (account kind name : String) : Prop := IsPart account ∧ IsPart kind ∧ IsPart name

/-- What is made of the three parts of a text. -/
def readAs {α : Type} (mk : String → String → String → α) (raw : String) : Except MalformedId α :=
  match triple? raw with
  | some (account, kind, name) => .ok (mk account kind name)
  | none => .error ⟨raw⟩

section
variable {α : Type} {mk : String → String → String → α} {raw account kind name : String}

theorem readAs_tripleText (h : AreParts account kind name) :
    readAs mk (tripleText account kind name) = .ok (mk account kind name) := by
  rw [readAs, triple?_eq_some_iff.2 ⟨rfl, h⟩]

theorem readAs_eq_ok_iff {a : α} : readAs mk raw = .ok a ↔
    ∃ account kind name, a = mk account kind name ∧ raw = tripleText account kind name ∧
      AreParts account kind name := by
  constructor
  · intro h
    unfold readAs at h
    split at h
    · rename_i account kind name htriple
      cases h
      exact ⟨account, kind, name, rfl, triple?_eq_some_iff.1 htriple⟩
    · cases h
  · rintro ⟨account, kind, name, rfl, rfl, h⟩
    exact readAs_tripleText h

theorem raw_of_readAs {e : MalformedId} (h : readAs mk raw = .error e) : e.raw = raw := by
  unfold readAs at h
  split at h
  · cases h
  · cases h
    rfl

end

/-! ### Resources -/

namespace ResourceId

/-- An address all of whose parts are parts. -/
structure WellFormed (r : ResourceId) : Prop where
  account : IsPart r.account
  kind : IsPart r.kind
  identifier : IsPart r.identifier

theorem parse_eq_ok_iff {raw : String} {r : ResourceId} :
    parse raw = .ok r ↔ raw = r.text ∧ r.WellFormed := by
  refine Iff.trans (show readAs ResourceId.mk raw = .ok r ↔ _ from readAs_eq_ok_iff) ⟨?_, ?_⟩
  · rintro ⟨account, kind, name, rfl, hraw, ha, hk, hn⟩
    exact ⟨hraw, ha, hk, hn⟩
  · rintro ⟨hraw, hr⟩
    exact ⟨r.account, r.kind, r.identifier, rfl, hraw, hr.account, hr.kind, hr.identifier⟩

theorem WellFormed.parse_text {r : ResourceId} (h : r.WellFormed) : parse r.text = .ok r :=
  parse_eq_ok_iff.2 ⟨rfl, h⟩

theorem WellFormed.eq_of_text {r r' : ResourceId} (h : r.WellFormed) (h' : r'.WellFormed)
    (he : r.text = r'.text) : r = r' := by
  have hp := h.parse_text
  rw [he, h'.parse_text] at hp
  exact (Except.ok.inj hp).symm

end ResourceId

/-! ### Roles -/

namespace RoleId

/-- An address all of whose parts are parts. -/
structure WellFormed (r : RoleId) : Prop where
  account : IsPart r.account
  kind : IsPart r.kind
  id : IsPart r.id

theorem parse_eq_ok_iff {raw : String} {r : RoleId} : parse raw = .ok r ↔ raw = r.text ∧ r.WellFormed := by
  refine Iff.trans (show readAs RoleId.mk raw = .ok r ↔ _ from readAs_eq_ok_iff) ⟨?_, ?_⟩
  · rintro ⟨account, kind, name, rfl, hraw, ha, hk, hn⟩
    exact ⟨hraw, ha, hk, hn⟩
  · rintro ⟨hraw, hr⟩
    exact ⟨r.account, r.kind, r.id, rfl, hraw, hr.account, hr.kind, hr.id⟩

theorem WellFormed.parse_text {r : RoleId} (h : r.WellFormed) : parse r.text = .ok r :=
  parse_eq_ok_iff.2 ⟨rfl, h⟩

theorem WellFormed.eq_of_text {r r' : RoleId} (h : r.WellFormed) (h' : r'.WellFormed)
    (he : r.text = r'.text) : r = r' := by
  have hp := h.parse_text
  rw [he, h'.parse_text] at hp
  exact (Except.ok.inj hp).symm

theorem wellFormed_adminOf {account : String} (h : IsPart account) : (adminOf account).WellFormed :=
  ⟨h, (by decide : IsPart "user"), (by decide : IsPart "admin")⟩

theorem text_adminOf (account : String) : (adminOf account).text = account ++ ":user:admin" := by
  simp only [text, adminOf, tripleText, String.append_assoc]
  rfl

end RoleId
end Postern
