import Postern.Proofs.Turns
import Postern.Service.App

/-!
The paths that need no token, as a set of patterns.  A text that is offered as a pattern is there already, or is read
and added, or is no pattern and changes nothing (`offer_cases`).  So after any registrations the list holds the texts
among those offered that are patterns, each once and in the order in which they came first (`patterns_registerAll`),
each with the pattern that it is read as (`sound_registerAll`).  A path is let in exactly if one of the texts matches it
(`isExempt_registerAll_iff`): neither order nor repetition counts, and more registrations let in no fewer paths
(`bypass_is_set`).  Nothing is used of patterns but that they are read and matched, so that they can be of any kind.
-/

namespace Postern.Authenticator

section
variable (ρ : Type) [Matcher ρ]

/-- A text that can be read as a pattern. -/
def IsPattern (text : String) : Prop := (Matcher.read? text : Option ρ).isSome = true

instance : DecidablePred (IsPattern ρ) := fun _ => inferInstanceAs (Decidable (_ = true))

/-- A text matches a path as the pattern that it is read as. -/
def Matches (text path : String) : Prop := ∃ p : ρ, Matcher.read? text = some p ∧ Matcher.isMatch p path = true

end

/-- What patterns are registered by: any text, or the gateway. -/
inductive Registration where
  | pattern (text : String)
  | gateway
  deriving DecidableEq, Repr

def Registration.text : Registration → String
  | .pattern text => text
  | .gateway => App.gatewayPattern

variable {ρ : Type} [Matcher ρ]

/-- What is answered when a text is offered as a pattern, and the authenticator after that.  Where there is no new one,
the one that was there goes on. -/
def offer (a : Authenticator ρ) (text : String) : Except BadPattern Bool × Authenticator ρ :=
  match a.exempt text with
  | .ok (added, a') => (.ok added, a')
  | .error e => (.error e, a)

/-- An authenticator after a registration. -/
def register (a : Authenticator ρ) : Registration → Authenticator ρ
  | .pattern text => (a.offer text).2
  | .gateway =>
    match App.registerGateway (some a) with
    | .ok a' => a'
    | .error _ => a

/-- A new authenticator after registrations. -/
def registerAll (ρ : Type) [Matcher ρ] (secret : String) (rs : List Registration) : Authenticator ρ :=
  rs.foldl register (new secret)

/-! ### One text -/

section
variable {a : Authenticator ρ} {text path : String}

theorem isPattern_iff : IsPattern ρ text ↔ ∃ p : ρ, Matcher.read? text = some p := Option.isSome_iff_exists

theorem not_isPattern_iff : ¬ IsPattern ρ text ↔ (Matcher.read? text : Option ρ) = none := by
  rw [IsPattern, Bool.not_eq_true, Option.isSome_eq_false_iff, Option.isNone_iff_eq_none]

theorem offer_cases (a : Authenticator ρ) (text : String) :
    text ∈ a.patterns ∧ a.offer text = (.ok false, a) ∨
    text ∉ a.patterns ∧ (∃ p, Matcher.read? text = some p ∧
      a.offer text = (.ok true, { a with bypass := a.bypass ++ [(text, p)] })) ∨
    text ∉ a.patterns ∧ (Matcher.read? text : Option ρ) = none ∧ a.offer text = (.error ⟨text⟩, a) := by
  by_cases hmem : text ∈ a.patterns
  · refine .inl ⟨hmem, ?_⟩
    rw [offer, exempt, if_pos (List.contains_iff_mem.2 hmem)]
  · have hnew : ¬ a.patterns.contains text = true := mt List.contains_iff_mem.1 hmem
    cases hread : (Matcher.read? text : Option ρ) with
    | some p =>
      refine .inr (.inl ⟨hmem, p, rfl, ?_⟩)
      rw [offer, exempt, if_neg hnew, hread]
    | none =>
      refine .inr (.inr ⟨hmem, rfl, ?_⟩)
      rw [offer, exempt, if_neg hnew, hread]

theorem patterns_offer (a : Authenticator ρ) (text : String) : (a.offer text).2.patterns =
    if text ∈ a.patterns then a.patterns else if IsPattern ρ text then a.patterns ++ [text] else a.patterns := by
  rcases offer_cases a text with ⟨hmem, hoffer⟩ | ⟨hnew, p, hread, hoffer⟩ | ⟨hnew, hread, hoffer⟩
  · rw [hoffer, if_pos hmem]
  · rw [hoffer, if_neg hnew, if_pos (isPattern_iff.2 ⟨p, hread⟩)]
    simp [patterns]
  · rw [hoffer, if_neg hnew, if_neg (not_isPattern_iff.2 hread)]

/-- What is answered to a text that is offered, and what it has done. -/
structure Answered (a : Authenticator ρ) (text : String) : Prop where
  /-- A text that is new and can be read is added, and that is what is answered. -/
  added : (a.offer text).1 = .ok true ↔ text ∉ a.patterns ∧ IsPattern ρ text
  longer : (a.offer text).1 = .ok true ↔ (a.offer text).2.patterns = a.patterns ++ [text]
  /-- Nothing is added for a text that is there. -/
  listed : (a.offer text).1 = .ok false ↔ text ∈ a.patterns
  /-- A text that is new and cannot be read is refused. -/
  refused : (∃ e, (a.offer text).1 = .error e) ↔ text ∉ a.patterns ∧ ¬ IsPattern ρ text
  unchanged : (a.offer text).1 ≠ .ok true → (a.offer text).2 = a

theorem answered (a : Authenticator ρ) (text : String) : Answered a text := by
  have hlist := patterns_offer a text
  rcases offer_cases a text with ⟨hmem, hoffer⟩ | ⟨hnew, p, hread, hoffer⟩ | ⟨hnew, hread, hoffer⟩
  · constructor <;> simp [hoffer, hmem]
  · have hpattern : IsPattern ρ text := isPattern_iff.2 ⟨p, hread⟩
    rw [if_neg hnew, if_pos hpattern] at hlist
    constructor <;> simp [hlist, hnew, hpattern, congrArg Prod.fst hoffer]
  · have hnone : ¬ IsPattern ρ text := not_isPattern_iff.2 hread
    constructor <;> simp [hoffer, hnew, hnone]

/-- Each text of the list has the pattern that it is read as. -/
def Sound (a : Authenticator ρ) : Prop := ∀ b ∈ a.bypass, Matcher.read? b.1 = some b.2

theorem Sound.offer (h : a.Sound) (text : String) : (a.offer text).2.Sound := by
  rcases offer_cases a text with ⟨-, hoffer⟩ | ⟨-, p, hread, hoffer⟩ | ⟨-, -, hoffer⟩
  · rwa [hoffer]
  · rw [hoffer]
    intro b hb
    rcases List.mem_append.1 hb with hb | hb
    · exact h b hb
    · obtain rfl := List.mem_singleton.1 hb
      exact hread
  · rwa [hoffer]

/-- **A path is let in exactly if one of the texts matches it.** -/
theorem Sound.isExempt_iff (h : a.Sound) : a.isExempt path = true ↔ ∃ text ∈ a.patterns, Matches ρ text path := by
  rw [isExempt, List.any_eq_true]
  constructor
  · rintro ⟨b, hb, hmatch⟩
    exact ⟨b.1, List.mem_map_of_mem hb, b.2, h b hb, hmatch⟩
  · rintro ⟨text, htext, p, hread, hmatch⟩
    obtain ⟨b, hb, rfl⟩ := List.mem_map.1 htext
    have hp : b.2 = p := Option.some.inj ((h b hb).symm.trans hread)
    exact ⟨b, hb, hp ▸ hmatch⟩

end

/-! ### All registrations -/

section
variable {secret : String} {rs : List Registration} {path : String}

theorem register_eq (a : Authenticator ρ) (r : Registration) : a.register r = (a.offer r.text).2 := by
  cases r with
  | pattern text => rfl
  | gateway =>
    unfold register App.registerGateway App.exempt offer Registration.text
    dsimp only
    cases a.exempt App.gatewayPattern <;> rfl

theorem registerAll_concat (ρ : Type) [Matcher ρ] (secret : String) (rs : List Registration) (r : Registration) :
    registerAll ρ secret (rs ++ [r]) = (registerAll ρ secret rs).register r := by
  rw [registerAll, List.foldl_append]
  rfl

theorem sound_registerAll (ρ : Type) [Matcher ρ] (secret : String) (rs : List Registration) :
    (registerAll ρ secret rs).Sound := by
  induction rs using List.reverseRecOn with
  | nil => nofun
  | append_singleton rs r ih =>
    rw [registerAll_concat, register_eq]
    exact ih.offer r.text

/-- **The list holds what was registered and can be read, each text where it came first.** -/
theorem patterns_registerAll (ρ : Type) [Matcher ρ] (secret : String) (rs : List Registration) :
    (registerAll ρ secret rs).patterns =
      ((rs.map (·.text)).filter fun text => decide (IsPattern ρ text)).eraseDups := by
  induction rs using List.reverseRecOn with
  | nil => rfl
  | append_singleton rs r ih =>
    rw [registerAll_concat, register_eq, patterns_offer, ih, List.map_append, List.map_singleton, List.filter_append]
    by_cases hpattern : IsPattern ρ r.text
    · have hlast : [r.text].filter (fun text => decide (IsPattern ρ text)) = [r.text] := by simp [hpattern]
      rw [hlast, eraseDups_concat, if_pos hpattern]
      simp only [List.mem_eraseDups]
    · have hlast : [r.text].filter (fun text => decide (IsPattern ρ text)) = [] := by simp [hpattern]
      rw [hlast, List.append_nil, if_neg hpattern, ite_self]

theorem isExempt_registerAll_iff :
    (registerAll ρ secret rs).isExempt path = true ↔ ∃ text ∈ rs.map (·.text), Matches ρ text path := by
  rw [(sound_registerAll ρ secret rs).isExempt_iff, patterns_registerAll]
  constructor
  · rintro ⟨text, htext, hmatch⟩
    rw [List.mem_eraseDups, List.mem_filter] at htext
    exact ⟨text, htext.1, hmatch⟩
  · rintro ⟨text, htext, p, hread, hmatch⟩
    refine ⟨text, ?_, p, hread, hmatch⟩
    rw [List.mem_eraseDups, List.mem_filter]
    exact ⟨htext, decide_eq_true (isPattern_iff.2 ⟨p, hread⟩)⟩

end

/-- **The list of patterns is a set.**  It holds the texts that were registered and can be read, each once; what is
answered to one more says whether it is added; and whether a path is let in depends on which texts were registered
alone, so that no registration takes a path out again. -/
theorem bypass_is_set (ρ : Type) [Matcher ρ] (secret : String) (rs : List Registration) :
    (registerAll ρ secret rs).patterns = ((rs.map (·.text)).filter fun text => decide (IsPattern ρ text)).eraseDups ∧
    (∀ text, Answered (registerAll ρ secret rs) text) ∧
    (∀ path, (registerAll ρ secret rs).isExempt path = true ↔
      ∃ text ∈ (registerAll ρ secret rs).patterns, Matches ρ text path) ∧
    (∀ secret' rs', (∀ text, text ∈ rs.map (·.text) ↔ text ∈ rs'.map (·.text)) →
      ∀ path, (registerAll ρ secret rs).isExempt path = (registerAll ρ secret' rs').isExempt path) ∧
    ∀ more path, (registerAll ρ secret rs).isExempt path = true →
      (registerAll ρ secret (rs ++ more)).isExempt path = true := by
  refine ⟨patterns_registerAll ρ secret rs, answered _, fun _ => (sound_registerAll ρ secret rs).isExempt_iff, ?_, ?_⟩
  · intro secret' rs' hsame path
    rw [Bool.eq_iff_iff, isExempt_registerAll_iff, isExempt_registerAll_iff]
    simp only [hsame]
  · intro more path h
    rw [isExempt_registerAll_iff] at h ⊢
    obtain ⟨text, htext, hmatch⟩ := h
    rw [List.map_append]
    exact ⟨text, List.mem_append_left _ htext, hmatch⟩

/-- A text that is no pattern, and the gateway's pattern twice. -/
theorem bypass_is_set_mixed :
    let rs : List Registration := [.pattern "^/dev(", .gateway, .pattern "^/health$", .pattern "^/dev"]
    (registerAll Pattern "s3cret" rs).patterns = ["^/dev", "^/health$"] ∧
      (∃ e, ((registerAll Pattern "s3cret" rs).offer "^/dev(").1 = .error e) ∧
      ∀ path, (registerAll Pattern "s3cret" rs).isExempt path =
        (registerAll Pattern "other" rs.reverse).isExempt path := by
  intro rs
  obtain ⟨hpatterns, hanswered, -, hsame, -⟩ := bypass_is_set Pattern "s3cret" rs
  have hlist : (registerAll Pattern "s3cret" rs).patterns = ["^/dev", "^/health$"] := hpatterns.trans (by decide)
  refine ⟨hlist, (hanswered "^/dev(").refused.2 ⟨?_, by decide⟩, hsame "other" rs.reverse ?_⟩
  · rw [hlist]
    decide
  · intro text
    rw [List.map_reverse, List.mem_reverse]

end Postern.Authenticator
