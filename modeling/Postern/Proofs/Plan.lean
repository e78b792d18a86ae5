import Postern.Store.Call

/-!
What plans ask of a store, and what they keep true there.  `Plan.Asks` bounds the calls that a plan can come to
make; what each of these calls keeps, the whole plan keeps (`run_keeps`).  A `Pool` holds the plans of several
requests over one store, and a schedule says which of them makes its next call; what each call keeps, every
schedule keeps (`run_invariant`).
-/

namespace Postern

namespace Plan
variable {α β γ σ : Type}

theorem map_map (f : α → β) (g : β → γ) (p : Plan α) : (p.map f).map g = p.map fun a => g (f a) := by
  induction p with
  | answer a => rfl
  | call c next ih => exact congrArg _ (funext ih)

theorem map_id (p : Plan α) : p.map (fun a => a) = p := by
  induction p with
  | answer a => rfl
  | call c next ih => exact congrArg _ (funext ih)

theorem map_eq_answer {f : α → β} {p : Plan α} {b : β} (h : p.map f = .answer b) : ∃ a, p = .answer a ∧ f a = b := by
  cases p with
  | answer a => exact ⟨a, rfl, by simpa [map] using h⟩
  | call c next => cases h

/-- Whatever the store answers, the plan makes only calls that satisfy `A`. -/
def Asks (A : Call → Prop) : Plan α → Prop
  | .answer _ => True
  | .call c next => A c ∧ ∀ r, (next r).Asks A

theorem Asks.mono {A B : Call → Prop} (hAB : ∀ c, A c → B c) {p : Plan α} (hp : p.Asks A) : p.Asks B := by
  induction p with
  | answer a => trivial
  | call c next ih => exact ⟨hAB c hp.1, fun r => ih r (hp.2 r)⟩

theorem Asks.map {A : Call → Prop} {f : α → β} {p : Plan α} (h : p.Asks A) : (p.map f).Asks A := by
  induction p with
  | answer a => trivial
  | call c next ih => exact ⟨h.1, fun r => ih r (h.2 r)⟩

theorem asks_true (p : Plan α) : p.Asks fun _ => True := by
  induction p with
  | answer a => trivial
  | call c next ih => exact ⟨trivial, ih⟩

/-- What the calls that a plan can make keep true of the store, the plan keeps true. -/
theorem run_keeps {A : Call → Prop} {P : σ → Prop} {b : Backend σ}
    (hstep : ∀ c s, A c → P s → P (b.perform c s).2) {p : Plan α} (hp : p.Asks A) {s : σ} (hs : P s) :
    P (p.run b s).2 := by
  induction p generalizing s with
  | answer a => exact hs
  | call c next ih =>
    obtain ⟨hc, hnext⟩ := hp
    exact ih _ (hnext _) (hstep c s hc hs)

/-- A plan goes the same way on two backends that agree on the calls that it can make. -/
theorem run_congr {A : Call → Prop} {b b' : Backend σ} (hagree : ∀ c s, A c → b.perform c s = b'.perform c s)
    {p : Plan α} (hp : p.Asks A) (s : σ) : p.run b s = p.run b' s := by
  induction p generalizing s with
  | answer a => rfl
  | call c next ih =>
    obtain ⟨hc, hnext⟩ := hp
    rw [run_call, run_call, hagree c s hc]
    exact ih _ (hnext _) _

/-- Whatever the store answers to its calls, the answer of the plan satisfies `P`. -/
def Answers (P : α → Prop) : Plan α → Prop
  | .answer a => P a
  | .call _ next => ∀ r, (next r).Answers P

theorem run_answers {P : α → Prop} (b : Backend σ) {p : Plan α} (hp : p.Answers P) (s : σ) : P (p.run b s).1 := by
  induction p generalizing s with
  | answer a => exact hp
  | call c next ih => exact ih _ (hp _) _

/-- The calls that a plan makes on a store, in order. -/
def made (b : Backend σ) : Plan α → σ → List Call
  | .answer _, _ => []
  | .call c next, s => c :: (next (b.perform c s).1).made b (b.perform c s).2

theorem made_map (b : Backend σ) (f : α → β) (p : Plan α) (s : σ) : (p.map f).made b s = p.made b s := by
  induction p generalizing s with
  | answer a => rfl
  | call c next ih => exact congrArg _ (ih _ _)

theorem Asks.of_mem_made {A : Call → Prop} {b : Backend σ} {p : Plan α} (hp : p.Asks A) {s : σ} {c : Call}
    (hc : c ∈ p.made b s) : A c := by
  induction p generalizing s with
  | answer a => cases hc
  | call c' next ih =>
    obtain ⟨hfirst, hnext⟩ := hp
    rcases List.mem_cons.1 hc with rfl | hc
    · exact hfirst
    · exact ih _ (hnext _) hc

/-- A call that has been made, and how it failed, if it did. -/
structure Attempt where
  call : Call
  failure : Option StoreError
  deriving DecidableEq, Repr

/-- A call with what became of it. -/
def Attempt.of (c : Call) : Except StoreError c.Result → Attempt
  | .ok _ => ⟨c, none⟩
  | .error e => ⟨c, some e⟩

/-- The calls that a plan makes on a store, in order, each with its failure. -/
def tried (b : Backend σ) : Plan α → σ → List Attempt
  | .answer _, _ => []
  | .call c next, s => .of c (b.perform c s).1 :: (next (b.perform c s).1).tried b (b.perform c s).2

theorem call_of (c : Call) (r : Except StoreError c.Result) : (Attempt.of c r).call = c := by
  cases r <;> rfl

theorem map_call_tried (b : Backend σ) (p : Plan α) (s : σ) : (p.tried b s).map Attempt.call = p.made b s := by
  induction p generalizing s with
  | answer a => rfl
  | call c next ih =>
    rw [tried, made, List.map_cons, call_of, ih]

theorem failure_of_mem_tried {b : Backend σ} {p : Plan α} {s : σ} {c : Call} {e : StoreError}
    (h : ⟨c, some e⟩ ∈ p.tried b s) : ∃ s, (b.perform c s).1 = .error e := by
  induction p generalizing s with
  | answer a => cases h
  | call c' next ih =>
    rcases List.mem_cons.1 h with h | h
    · cases hr : (b.perform c' s).1 with
      | ok r =>
        rw [hr] at h
        cases h
      | error e' =>
        rw [hr] at h
        cases h
        exact ⟨s, hr⟩
    · exact ih _ h

/-- What is left of a plan after its next call, and the store then. -/
def advance (b : Backend σ) : Plan α → σ → Plan α × σ
  | .answer a, s => (.answer a, s)
  | .call c next, s => (next (b.perform c s).1, (b.perform c s).2)

@[simp] theorem advance_answer (b : Backend σ) (a : α) (s : σ) : (answer a).advance b s = (answer a, s) := rfl

theorem run_advance (b : Backend σ) (p : Plan α) (s : σ) : (p.advance b s).1.run b (p.advance b s).2 = p.run b s := by
  cases p <;> rfl

/-- The answer, where no call is left to be made. -/
def answer? : Plan α → Option α
  | .answer a => some a
  | .call _ _ => none

theorem answer?_eq_some_iff {p : Plan α} {a : α} : p.answer? = some a ↔ p = .answer a := by
  cases p <;> simp [answer?]

end Plan

/-! ### Plans under way -/

/-- Plans that are carried out side by side over one store. -/
structure Pool (σ α : Type) where
  plans : List (Plan α)
  store : σ

namespace Pool
variable {α σ : Type}

/-- The plan with number `i` makes its next call.  Nothing happens where it has answered, or is not there. -/
def step (b : Backend σ) (pool : Pool σ α) (i : Nat) : Pool σ α :=
  match pool.plans[i]? with
  | some (.call c next) =>
    ⟨pool.plans.set i (next (b.perform c pool.store).1), (b.perform c pool.store).2⟩
  | _ => pool

/-- Plans take turns as a schedule says: an entry `i` is one call of the plan with number `i`. -/
def run (b : Backend σ) (pool : Pool σ α) (schedule : List Nat) : Pool σ α := schedule.foldl (step b) pool

/-- What the plan with a number has answered, if it has. -/
def answer? (pool : Pool σ α) (i : Nat) : Option α := (pool.plans[i]?).bind Plan.answer?

theorem answer?_eq_some_iff {pool : Pool σ α} {i : Nat} {a : α} :
    pool.answer? i = some a ↔ pool.plans[i]? = some (.answer a) := by
  simp [answer?, Option.bind_eq_some_iff, Plan.answer?_eq_some_iff]

section
variable (b : Backend σ) (pool : Pool σ α) (i j : Nat)

theorem run_cons (schedule : List Nat) : pool.run b (i :: schedule) = (pool.step b i).run b schedule := rfl

theorem run_concat (schedule : List Nat) : pool.run b (schedule ++ [i]) = (pool.run b schedule).step b i := by
  simp [run]

/-- A step advances one plan, which may have answered already. -/
theorem step_eq : pool.step b i =
    match pool.plans[i]? with
    | some p => ⟨pool.plans.set i (p.advance b pool.store).1, (p.advance b pool.store).2⟩
    | none => pool := by
  unfold step
  cases hp : pool.plans[i]? with
  | none => rfl
  | some p =>
    cases p with
    | call c next => rfl
    | answer a =>
      obtain ⟨hi, he⟩ := List.getElem?_eq_some_iff.1 hp
      have hset : pool.plans.set i (.answer a) = pool.plans := by
        rw [← he, List.set_getElem_self]
      simp only [Plan.advance_answer, hset]

theorem store_step : (pool.step b i).store =
    ((pool.plans[i]?).map fun p => (p.advance b pool.store).2).getD pool.store := by
  rw [step_eq]
  cases pool.plans[i]? <;> rfl

theorem plans_step : (pool.step b i).plans[j]? =
    if i = j then (pool.plans[j]?).map fun p => (p.advance b pool.store).1 else pool.plans[j]? := by
  rw [step_eq]
  by_cases hij : i = j
  · subst hij
    cases hp : pool.plans[i]? with
    | none => simp [hp]
    | some p =>
      obtain ⟨hi, -⟩ := List.getElem?_eq_some_iff.1 hp
      simp [hi]
  · cases pool.plans[i]? <;> simp [hij]

theorem plans_run_of_notMem {schedule : List Nat} (h : j ∉ schedule) :
    (pool.run b schedule).plans[j]? = pool.plans[j]? := by
  induction schedule generalizing pool with
  | nil => rfl
  | cons i schedule ih =>
    rw [List.mem_cons, not_or] at h
    rw [run_cons, ih _ h.2, plans_step, if_neg (Ne.symm h.1)]

end

/-- An invariant of the store, while the plans make only calls that satisfy `A`. -/
structure Keeps (A : Call → Prop) (P : σ → Prop) (pool : Pool σ α) : Prop where
  asks : ∀ p ∈ pool.plans, p.Asks A
  store : P pool.store

section
variable {A : Call → Prop} {P : σ → Prop} {b : Backend σ} (hstep : ∀ c s, A c → P s → P (b.perform c s).2)
include hstep

theorem step_keeps {pool : Pool σ α} (h : pool.Keeps A P) (i : Nat) : (pool.step b i).Keeps A P := by
  unfold step
  split
  · rename_i c next hi
    obtain ⟨hc, hnext⟩ := h.asks _ (List.mem_of_getElem? hi)
    refine ⟨fun p hp => ?_, hstep c pool.store hc h.store⟩
    rcases List.mem_or_eq_of_mem_set hp with hp | rfl
    · exact h.asks p hp
    · exact hnext _
  · exact h

/-- What the calls that the plans can make keep true of the store, holds after every schedule. -/
theorem run_invariant {pool : Pool σ α} (h : pool.Keeps A P) (schedule : List Nat) :
    (pool.run b schedule).Keeps A P := by
  induction schedule generalizing pool with
  | nil => exact h
  | cons i schedule ih => exact ih (step_keeps hstep h i)

end

end Pool
end Postern
