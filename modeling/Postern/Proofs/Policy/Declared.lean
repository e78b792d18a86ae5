import Postern.Policy.Document
import Postern.Proofs.Id

/-!
The roles that a document declares.  Whatever the path of a policy hands down to the policies in it, and makes the
role of a record good, makes every declared role good (`collect_forall`).  So all roles that a document declares for a
resource lie in the resource's account, and their addresses can be read back (`declaredRoles_forall`).
-/

namespace Postern

theorem map_eq_ok_iff {ε α β : Type} {x : Except ε α} {f : α → β} {b : β} :
    x.map f = .ok b ↔ ∃ a, x = .ok a ∧ f a = b := by
  cases x <;> simp [Except.map]

theorem bind_eq_ok_iff {ε α β : Type} {x : Except ε α} {f : α → Except ε β} {b : β} :
    x >>= f = .ok b ↔ ∃ a, x = .ok a ∧ f a = .ok b := by
  cases x <;> simp [bind, Except.bind]

namespace Policy

theorem isValidId_iff {id : String} : isValidId id = true ↔ IsPart id := by
  simp [isValidId, IsPart]

theorem recordId_eq_ok {kind : RecordKind} {record : Yaml} {id : String} (h : recordId kind record = .ok id) :
    IsPart id := by
  unfold recordId at h
  split at h
  · split at h
    · rename_i hid
      cases h
      exact isValidId_iff.1 hid
    · cases h
  · cases h

/-! ### Statement by statement -/

section Items
variable {account path tag : String} {record statement : Yaml} {rest : List Yaml} {roles : List RoleId}

theorem collectItems_of_not_tagged (h : ∀ tag record, statement ≠ .tagged tag record) :
    collectItems account path (statement :: rest) = collectItems account path rest := by
  cases statement with
  | tagged tag record => exact absurd rfl (h tag record)
  | _ => simp only [collectItems]

theorem collectItems_of_other_tag (h : RecordKind.ofTag? tag = none) :
    collectItems account path (.tagged tag record :: rest) = collectItems account path rest := by
  simp only [collectItems, h]

/-- A record declares the role of its id, or what the body of its policy declares, before what follows it. -/
theorem collectItems_eq_ok {kind : RecordKind} (hkind : RecordKind.ofTag? tag = some kind)
    (h : collectItems account path (.tagged tag record :: rest) = .ok roles) :
    ∃ id declared others, recordId kind record = .ok id ∧ collectItems account path rest = .ok others ∧
      roles = declared ++ others ∧
      if kind = .policy then collectBody account (extend path id) record = .ok declared
      else declared = [roleOf account path kind id] := by
  simp only [collectItems, hkind] at h
  obtain ⟨id, hid, h⟩ := bind_eq_ok_iff.1 h
  split at h
  · rename_i hp
    obtain ⟨declared, hdeclared, h⟩ := bind_eq_ok_iff.1 h
    obtain ⟨others, hrest, h⟩ := bind_eq_ok_iff.1 h
    exact ⟨id, declared, others, hid, hrest, (Except.ok.inj h).symm, by rwa [if_pos hp]⟩
  · rename_i hp
    obtain ⟨declared, hdeclared, h⟩ := bind_eq_ok_iff.1 h
    obtain ⟨others, hrest, h⟩ := bind_eq_ok_iff.1 h
    exact ⟨id, declared, others, hid, hrest, (Except.ok.inj h).symm,
      by rw [if_neg hp]; exact (Except.ok.inj hdeclared).symm⟩

end Items

/-! ### All declared roles -/

/-- What holds of a path is handed down to the policies below it, and makes the roles below it good. -/
structure HandsDown (account : String) (G : String → Prop) (P : RoleId → Prop) : Prop where
  policy : ∀ path id, G path → IsPart id → G (extend path id)
  role : ∀ path kind id, G path → kind ≠ .policy → IsPart id → P (roleOf account path kind id)

section Collect
variable {account : String} {G : String → Prop} {P : RoleId → Prop}

mutual

/-- **What makes the role of each record good makes all declared roles good.** -/
theorem collect_forall (hand : HandsDown account G P) {path : String} (hpath : G path) :
    ∀ (v : Yaml) {roles : List RoleId}, collect account path v = .ok roles → ∀ role ∈ roles, P role
  | .seq statements, _, h => collectItems_forall hand hpath statements h
  | .null, _, h | .bool _, _, h | .int _, _, h | .real _, _, h | .str _, _, h | .map _, _, h
  | .tagged _ _, _, h => by
    cases h
    simp

theorem collectItems_forall (hand : HandsDown account G P) {path : String} (hpath : G path) :
    ∀ (statements : List Yaml) {roles : List RoleId}, collectItems account path statements = .ok roles →
      ∀ role ∈ roles, P role
  | [], _, h => by
    cases h
    simp
  | .tagged tag record :: rest, roles, h => by
    cases hkind : RecordKind.ofTag? tag with
    | none => exact collectItems_forall hand hpath rest (collectItems_of_other_tag hkind ▸ h)
    | some kind =>
      obtain ⟨id, declared, others, hid, hrest, rfl, hdeclared⟩ := collectItems_eq_ok hkind h
      have hpart := recordId_eq_ok hid
      have hfirst : ∀ role ∈ declared, P role := by
        split at hdeclared
        · exact collectBody_forall hand (hand.policy path id hpath hpart) record hdeclared
        · subst hdeclared
          simpa using hand.role path kind id hpath ‹_› hpart
      intro role hmem
      rcases List.mem_append.1 hmem with hmem | hmem
      · exact hfirst role hmem
      · exact collectItems_forall hand hpath rest hrest role hmem
  | .null :: rest, _, h | .bool _ :: rest, _, h | .int _ :: rest, _, h | .real _ :: rest, _, h
  | .str _ :: rest, _, h | .map _ :: rest, _, h | .seq _ :: rest, _, h => by
    rw [collectItems_of_not_tagged (by simp)] at h
    exact collectItems_forall hand hpath rest h

theorem collectBody_forall (hand : HandsDown account G P) {path : String} (hpath : G path) :
    ∀ (v : Yaml) {roles : List RoleId}, collectBody account path v = .ok roles → ∀ role ∈ roles, P role
  | .map entries, _, h => collectEntry_forall hand hpath entries h
  | .tagged _ record, _, h => collectBody_forall hand hpath record h
  | .null, _, h | .bool _, _, h | .int _, _, h | .real _, _, h | .str _, _, h | .seq _, _, h => by
    cases h
    simp

theorem collectEntry_forall (hand : HandsDown account G P) {path : String} (hpath : G path) :
    ∀ (entries : List (Yaml × Yaml)) {roles : List RoleId}, collectEntry account path entries = .ok roles →
      ∀ role ∈ roles, P role
  | [], _, h => by
    cases h
    simp
  | (key, value) :: rest, _, h => by
    unfold collectEntry at h
    split at h
    · split at h
      · exact collect_forall hand hpath value h
      · exact collectEntry_forall hand hpath rest h
    · exact collectEntry_forall hand hpath rest h

end

end Collect

/-! ### Paths -/

theorem not_mem_dashed {path : String} (h : ':' ∉ path.toList) : ':' ∉ (dashed path).toList := by
  simp only [dashed, String.toList_map, List.mem_map, not_exists, not_and]
  intro c hc he
  split at he
  · cases he
  · exact h (he ▸ hc)

theorem not_mem_extend {path id : String} (h : ':' ∉ path.toList) (hid : IsPart id) :
    ':' ∉ (extend path id).toList := by
  unfold extend
  split
  · exact hid.2
  · simp [h, hid.2]

theorem isPart_qualify {kind : RecordKind} {path id : String} (h : ':' ∉ path.toList) (hid : IsPart id) :
    IsPart (qualify kind path id) := by
  unfold qualify
  split
  · exact hid
  · rename_i hne
    cases kind <;> simp [IsPart, hne, hid.1, hid.2, h, not_mem_dashed h]

/-- **Every declared role lies in the account of the target and has an address that can be read back.** -/
theorem declaredRoles_forall {target : ResourceId} (htarget : target.WellFormed) {document : String}
    {roles : List RoleId} (h : declaredRoles target document = .ok roles) :
    ∀ role ∈ roles, role.account = target.account ∧ role.WellFormed := by
  obtain ⟨v, -, h⟩ := bind_eq_ok_iff.1 h
  have hpath : ':' ∉ (pathOf target).toList := by
    unfold pathOf
    split
    · simp
    · exact htarget.identifier.2
  have hand : HandsDown target.account (fun path => ':' ∉ path.toList)
      (fun role => role.account = target.account ∧ role.WellFormed) := by
    refine ⟨fun path id => not_mem_extend, fun path kind id hpath hkind hid => ?_⟩
    have hk : IsPart kind.text := by cases kind <;> decide
    exact ⟨rfl, htarget.account, hk, isPart_qualify hpath hid⟩
  exact collect_forall hand hpath v h

end Policy
end Postern
