import Mathlib.Logic.Function.Basic
import Postern.Proofs.Text.Number
import Postern.Settings

/-!
Variables that cannot be used.  For each variable it is said here without the reader which texts are of no use
(`Variable.Unusable`); these are the texts that the readers do not take (`Deployment.ofName?_eq_none_iff` and the lemmas
after it).  A variable that holds such a text might as well not be there, but for one: the gateway's own port hides the
general one even where its text is of no use (`ofEnvironment_gatewayPort`), so that the default counts instead
(`unusable_is_unset_iff`).
-/

namespace Postern

/-! ### What can be used -/

theorem Deployment.ofName?_eq_none_iff {text : String} :
    Deployment.ofName? text = none ↔ text ∉ ["production", "prod", "staging", "stage"] := by
  simp only [Deployment.ofName?, List.mem_cons, List.not_mem_nil, or_false]
  by_cases hproduction : text = "production" ∨ text = "prod"
  · rw [if_pos hproduction]
    rcases hproduction with rfl | rfl <;> simp
  · by_cases hstaging : text = "staging" ∨ text = "stage"
    · rw [if_neg hproduction, if_pos hstaging]
      rcases hstaging with rfl | rfl <;> simp
    · rw [if_neg hproduction, if_neg hstaging]
      simp only [not_or] at hproduction hstaging
      simp [hproduction, hstaging]

theorem ErrorMode.ofName?_eq_none_iff {text : String} : ErrorMode.ofName? text = none ↔
    (Text.trim text).map Char.toLower ∉ ["strict", "legacy", "soft"] := by
  simp only [ErrorMode.ofName?, List.mem_cons, List.not_mem_nil, or_false]
  split
  · rename_i hstrict
    simp [hstrict]
  · rename_i hstrict
    split
    · rename_i hlegacy
      simp [hlegacy]
    · rename_i hlegacy
      simp [hstrict, hlegacy]

namespace Settings

section
variable {text : String}

theorem bool?_eq_none_iff : bool? text = none ↔ text ∉ ["true", "false"] := by
  simp only [bool?, List.mem_cons, List.not_mem_nil, or_false]
  split
  · rename_i htrue
    simp [htrue]
  · rename_i htrue
    split
    · rename_i hfalse
      simp [hfalse]
    · rename_i hfalse
      simp [htrue, hfalse]

theorem url?_eq_none_iff : url? text = none ↔ ∀ c ∈ text.toList, Text.isBlank c = true := by
  rw [url?, Text.isAllBlank, ← List.all_eq_true]
  split <;> simp [*]

end

/-! ### Variables -/

/-- The variables that settings are read from. -/
inductive Variable where
  | deployment
  | bindAddress
  | gatewayPort
  | generalPort
  | databaseUrl
  | maxConnections
  | enableCors
  | secret
  | enabled
  | errorMode
  | allowPurge
  deriving DecidableEq, Repr

namespace Variable

def name : Variable → String
  | deployment => "APP_ENV"
  | bindAddress => "BIND_ADDR"
  | gatewayPort => "DEV_GATEWAY_PORT"
  | generalPort => "PORT"
  | databaseUrl => "DATABASE_URL"
  | maxConnections => "DATABASE_MAX_CONNECTIONS"
  | enableCors => "SECURITY_ENABLE_CORS"
  | secret => "SECURITY_JWT_SECRET"
  | enabled => "DEV_GATEWAY_ENABLED"
  | errorMode => "DEV_GATEWAY_ERROR_MODE"
  | allowPurge => "DEV_GATEWAY_ALLOW_PURGE"

/-- The texts that are of no use in a variable.  An address to listen at and a secret are taken as they are. -/
def Unusable : Variable → String → Prop
  | deployment, text => text ∉ ["production", "prod", "staging", "stage"]
  | gatewayPort, text | generalPort, text => ¬ ∃ n < 2 ^ 16, Text.Writes text n
  | databaseUrl, text => ∀ c ∈ text.toList, Text.isBlank c = true
  | maxConnections, text => ¬ ∃ n < 2 ^ 32, Text.Writes text n
  | enableCors, text | enabled, text | allowPurge, text => text ∉ ["true", "false"]
  | errorMode, text => (Text.trim text).map Char.toLower ∉ ["strict", "legacy", "soft"]
  | bindAddress, _ | secret, _ => False

theorem name_injective {v w : Variable} (h : v.name = w.name) : v = w := by
  cases v <;> cases w <;> first | rfl | exact absurd h (by decide)

end Variable

/-- An environment without a variable. -/
abbrev without (env : Environment) (v : Variable) : Environment := Function.update env v.name none

section
variable {env : Environment} {v w : Variable} {text : String}

theorem without_self : without env v v.name = none := Function.update_self ..

theorem without_of_ne (h : w ≠ v) : without env v w.name = env w.name :=
  Function.update_of_ne (mt Variable.name_injective h) ..

/-- Where a reader takes no text that is of no use, a variable with such a text may be left out. -/
theorem override_without {α : Type} {read? : String → Option α} (hread : ∀ text, w.Unusable text → read? text = none)
    (hset : env v.name = some text) (h : v.Unusable text) (fallback : α) :
    override env w.name read? fallback = override (without env v) w.name read? fallback := by
  unfold override
  by_cases hw : w = v
  · subst hw
    rw [without_self, hset, Option.bind_none, Option.bind_some, hread text h]
  · rw [without_of_ne hw]

/-! ### Ports -/

theorem portText_without (hset : env v.name = some text) (h : v.Unusable text) (hv : v ≠ .gatewayPort) :
    (portText (without env v)).bind port? = (portText env).bind port? := by
  have hgateway : without env v "DEV_GATEWAY_PORT" = env "DEV_GATEWAY_PORT" := without_of_ne hv.symm
  unfold portText
  rw [hgateway]
  by_cases hgeneral : .generalPort = v
  · subst hgeneral
    have hself : without env .generalPort "PORT" = none := without_self
    have hset : env "PORT" = some text := hset
    rw [hself, hset]
    cases env "DEV_GATEWAY_PORT" with
    | some other => rfl
    | none => exact (Text.word?_eq_none_iff.2 h).symm
  · have hother : without env v "PORT" = env "PORT" := without_of_ne hgeneral
    rw [hother]

theorem port_ofEnvironment (env : Environment) :
    (ofEnvironment env).port = ((portText env).bind port?).getD 3000 := by
  have hdefault : ∀ d, (ofDeployment d).port = 3000 := by
    intro d
    cases d <;> rfl
  rw [← hdefault (override env "APP_ENV" Deployment.ofName? .development)]
  rfl

/-! ### Settings -/

/-- A text that is of no use counts for nothing but the port. -/
theorem ofEnvironment_without (hset : env v.name = some text) (h : v.Unusable text) :
    ofEnvironment env = { ofEnvironment (without env v) with port := (ofEnvironment env).port } := by
  have hdeployment : override env "APP_ENV" Deployment.ofName? .development =
      override (without env v) "APP_ENV" Deployment.ofName? .development :=
    override_without (w := .deployment) (fun _ => Deployment.ofName?_eq_none_iff.2) hset h _
  have haddress : ∀ d, override env "BIND_ADDR" some d = override (without env v) "BIND_ADDR" some d :=
    override_without (w := .bindAddress) (fun _ => False.elim) hset h
  have hurl : ∀ d, override env "DATABASE_URL" (fun text => (url? text).map some) d =
      override (without env v) "DATABASE_URL" (fun text => (url? text).map some) d := by
    refine override_without (w := .databaseUrl) (fun text htext => ?_) hset h
    rw [url?_eq_none_iff.2 htext, Option.map_none]
  have hcount : ∀ d, override env "DATABASE_MAX_CONNECTIONS" count? d =
      override (without env v) "DATABASE_MAX_CONNECTIONS" count? d :=
    override_without (w := .maxConnections) (fun _ => Text.word?_eq_none_iff.2) hset h
  have hcors : ∀ d, override env "SECURITY_ENABLE_CORS" bool? d =
      override (without env v) "SECURITY_ENABLE_CORS" bool? d :=
    override_without (w := .enableCors) (fun _ => bool?_eq_none_iff.2) hset h
  have hsecret : ∀ d, override env "SECURITY_JWT_SECRET" some d =
      override (without env v) "SECURITY_JWT_SECRET" some d :=
    override_without (w := .secret) (fun _ => False.elim) hset h
  have henabled : ∀ d, override env "DEV_GATEWAY_ENABLED" bool? d =
      override (without env v) "DEV_GATEWAY_ENABLED" bool? d :=
    override_without (w := .enabled) (fun _ => bool?_eq_none_iff.2) hset h
  have hmode : ∀ d, override env "DEV_GATEWAY_ERROR_MODE" ErrorMode.ofName? d =
      override (without env v) "DEV_GATEWAY_ERROR_MODE" ErrorMode.ofName? d :=
    override_without (w := .errorMode) (fun _ => ErrorMode.ofName?_eq_none_iff.2) hset h
  have hpurge : ∀ d, override env "DEV_GATEWAY_ALLOW_PURGE" bool? d =
      override (without env v) "DEV_GATEWAY_ALLOW_PURGE" bool? d :=
    override_without (w := .allowPurge) (fun _ => bool?_eq_none_iff.2) hset h
  simp only [ofEnvironment, hdeployment, haddress, hurl, hcount, hcors, hsecret, henabled, hmode, hpurge]

/-- The gateway's own port counts before the general one, whatever its text. -/
theorem port_of_gatewayPort (hset : env "DEV_GATEWAY_PORT" = some text) (h : Variable.gatewayPort.Unusable text) :
    (ofEnvironment env).port = 3000 := by
  have hread : port? text = none := Text.word?_eq_none_iff.2 h
  rw [port_ofEnvironment, portText, hset, Option.some_or, Option.bind_some, hread, Option.getD_none]

theorem port_without_gatewayPort (env : Environment) :
    (ofEnvironment (without env .gatewayPort)).port = ((env "PORT").bind port?).getD 3000 := by
  have hself : without env .gatewayPort "DEV_GATEWAY_PORT" = none := without_self
  have hother : without env .gatewayPort "PORT" = env "PORT" := without_of_ne (w := .generalPort) nofun
  rw [port_ofEnvironment, portText, hself, hother, Option.none_or]

/-- The general port is of use, and differs from the default. -/
def NamesPort (env : Environment) : Prop :=
  ∃ general n, env "PORT" = some general ∧ Text.Writes general n ∧ n < 2 ^ 16 ∧ n ≠ 3000

theorem getD_port_eq_iff : ((env "PORT").bind port?).getD 3000 = 3000 ↔ ¬ NamesPort env := by
  constructor
  · rintro h ⟨general, n, hgeneral, hwrites, hn, hne⟩
    have hread : port? general = some n := Text.word?_eq_some_iff.2 ⟨hn, hwrites⟩
    rw [hgeneral, Option.bind_some, hread, Option.getD_some] at h
    exact hne h
  · intro h
    cases hread : (env "PORT").bind port? with
    | none => rfl
    | some n =>
      obtain ⟨general, hgeneral, hn⟩ := Option.bind_eq_some_iff.1 hread
      obtain ⟨hn, hwrites⟩ := Text.word?_eq_some_iff.1 hn
      by_contra hne
      exact h ⟨general, n, hgeneral, hwrites, hn, hne⟩

end

/-- **A text that is of no use counts as none**, whatever else is set, but for the gateway's own port where the general
one is named: that is not read then, and the port is the default. -/
theorem unusable_is_unset_iff (env : Environment) (v : Variable) {text : String} (hset : env v.name = some text)
    (h : v.Unusable text) :
    (ofEnvironment env = ofEnvironment (without env v) ↔ ¬ (v = .gatewayPort ∧ NamesPort env)) ∧
    ofEnvironment env = { ofEnvironment (without env v) with port := (ofEnvironment env).port } ∧
    (v = .gatewayPort → (ofEnvironment env).port = 3000) := by
  have hfields := ofEnvironment_without hset h
  have hports : ofEnvironment env = ofEnvironment (without env v) ↔
      (ofEnvironment env).port = (ofEnvironment (without env v)).port := by
    refine ⟨congrArg _, fun hport => ?_⟩
    rw [hfields, hport]
  refine ⟨hports.trans ?_, hfields, ?_⟩
  · by_cases hv : v = .gatewayPort
    · subst hv
      rw [port_of_gatewayPort hset h, port_without_gatewayPort, eq_comm, getD_port_eq_iff]
      simp
    · rw [port_ofEnvironment, port_ofEnvironment, portText_without hset h hv]
      simp [hv]
  · rintro rfl
    exact port_of_gatewayPort hset h

/-- A switch that says neither yes nor no. -/
theorem unusable_is_unset_iff_switch :
    let env : Environment := fun name =>
      if name = "APP_ENV" then some "staging" else if name = "DEV_GATEWAY_ENABLED" then some "yes" else none
    env Variable.enabled.name = some "yes" ∧ Variable.enabled.Unusable "yes" ∧
      ofEnvironment env = ofEnvironment (without env .enabled) ∧ (ofEnvironment env).gateway.enabled = false := by
  intro env
  have hset : env Variable.enabled.name = some "yes" := rfl
  have hunusable : Variable.enabled.Unusable "yes" := (by decide : "yes" ∉ ["true", "false"])
  refine ⟨hset, hunusable, (unusable_is_unset_iff env .enabled hset hunusable).1.2 ?_, by decide⟩
  rintro ⟨⟨⟩, -⟩

/-- The general port is not read where the gateway's own port is no number. -/
theorem gatewayPort_hides :
    let env : Environment := fun name =>
      if name = "DEV_GATEWAY_PORT" then some "abc" else if name = "PORT" then some "9" else none
    env Variable.gatewayPort.name = some "abc" ∧ Variable.gatewayPort.Unusable "abc" ∧
      (ofEnvironment env).port = 3000 ∧ (ofEnvironment (without env .gatewayPort)).port = 9 ∧
      ofEnvironment env ≠ ofEnvironment (without env .gatewayPort) := by
  intro env
  have hunusable : Variable.gatewayPort.Unusable "abc" := Text.word?_eq_none_iff.1 (by decide : port? "abc" = none)
  have hport : (ofEnvironment env).port = 3000 := port_of_gatewayPort rfl hunusable
  have hother : (ofEnvironment (without env .gatewayPort)).port = 9 := by
    rw [port_without_gatewayPort]
    decide
  refine ⟨rfl, hunusable, hport, hother, fun he => ?_⟩
  rw [he, hother] at hport
  cases hport

end Settings
end Postern
