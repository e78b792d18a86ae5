import Mathlib.Data.List.Induction
import Mathlib.Data.List.Nodup
import Postern.Proofs.Plan

/-!
Plans one after another.  In `Pool.inTurn` each plan makes all its calls when it is its turn.  This is one way to make
the calls of a pool (`exists_run_eq_inTurn`); another schedule is compared with the turns in the order of its first
calls (`firstCalls`).  Further turns of a plan do nothing (`inTurn_firstCalls`).  What is at the end of a list counts
only if it has not come before (`eraseDups_concat`), so that lists which grow by what is new to them hold the first
occurrences of all that was offered.
-/

namespace Postern

/-! ### First occurrences -/

section
variable {α : Type} [BEq α] [LawfulBEq α]

theorem eraseDups_concat (as : List α) (a : α) :
    (as ++ [a]).eraseDups = if a ∈ as then as.eraseDups else as.eraseDups ++ [a] := by
  rw [List.eraseDups_append]
  by_cases h : a ∈ as
  · simp [h, List.removeAll]
  · simp [h, List.removeAll, List.eraseDups_cons]

theorem nodup_eraseDups (as : List α) : as.eraseDups.Nodup := by
  induction as using List.reverseRecOn with
  | nil => exact List.nodup_nil
  | append_singleton as a ih =>
    rw [eraseDups_concat]
    split
    · exact ih
    · rename_i h
      have hnew : a ∉ as.eraseDups := by simpa using h
      rw [List.nodup_append_comm]
      exact List.nodup_cons.2 ⟨hnew, ih⟩

end

end Postern

namespace Postern.Pool

/-! ### Turns -/

variable {σ α : Type}

/-- The plan with number `i` makes all the calls that it has left. -/
def finish (b : Backend σ) (pool : Pool σ α) (i : Nat) : Pool σ α :=
  match pool.plans[i]? with
  | some p => ⟨pool.plans.set i (.answer (p.run b pool.store).1), (p.run b pool.store).2⟩
  | none => pool

/-- Plans are carried out one after another. -/
def inTurn (b : Backend σ) (pool : Pool σ α) (turns : List Nat) : Pool σ α := turns.foldl (finish b) pool

section
variable (b : Backend σ) (pool : Pool σ α) (i j : Nat)

theorem inTurn_concat (turns : List Nat) : pool.inTurn b (turns ++ [i]) = (pool.inTurn b turns).finish b i := by
  simp [inTurn]

theorem store_finish : (pool.finish b i).store =
    ((pool.plans[i]?).map fun p => (p.run b pool.store).2).getD pool.store := by
  unfold finish
  cases pool.plans[i]? <;> rfl

theorem plans_finish : (pool.finish b i).plans[j]? =
    if i = j then (pool.plans[j]?).map fun p => .answer (p.run b pool.store).1 else pool.plans[j]? := by
  unfold finish
  by_cases hij : i = j
  · subst hij
    cases hp : pool.plans[i]? with
    | none => simp [hp]
    | some p =>
      obtain ⟨hi, -⟩ := List.getElem?_eq_some_iff.1 hp
      simp [hi]
  · cases pool.plans[i]? <;> simp [hij]

theorem finish_of_none (h : pool.plans[i]? = none) : pool.finish b i = pool := by
  simp [finish, h]

theorem finish_of_answer {a : α} (h : pool.plans[i]? = some (.answer a)) : pool.finish b i = pool := by
  obtain ⟨hi, he⟩ := List.getElem?_eq_some_iff.1 h
  have hset : pool.plans.set i (.answer a) = pool.plans := by
    rw [← he, List.set_getElem_self]
  simp [finish, h, hset]

theorem finish_step : (pool.step b i).finish b i = pool.finish b i := by
  rw [step_eq]
  cases hp : pool.plans[i]? with
  | none => rfl
  | some p =>
    obtain ⟨hi, rfl⟩ := List.getElem?_eq_some_iff.1 hp
    simp [finish, hi, Plan.run_advance]

/-- To finish a plan is to let it make one call after another. -/
theorem exists_run_eq_finish : ∃ schedule, pool.finish b i = pool.run b schedule := by
  cases hp : pool.plans[i]? with
  | none => exact ⟨[], finish_of_none b pool i hp⟩
  | some p =>
    induction p generalizing pool with
    | answer a => exact ⟨[], finish_of_answer b pool i hp⟩
    | call c next ih =>
      have hnext : (pool.step b i).plans[i]? = some (next (b.perform c pool.store).1) := by
        simp [plans_step, hp, Plan.advance]
      obtain ⟨schedule, hschedule⟩ := ih _ (pool.step b i) hnext
      rw [finish_step] at hschedule
      exact ⟨i :: schedule, hschedule⟩

/-- Plans that are carried out one after another follow a schedule. -/
theorem exists_run_eq_inTurn (turns : List Nat) : ∃ schedule, pool.inTurn b turns = pool.run b schedule := by
  induction turns using List.reverseRecOn with
  | nil => exact ⟨[], rfl⟩
  | append_singleton turns i ih =>
    obtain ⟨before, hbefore⟩ := ih
    obtain ⟨last, hlast⟩ := exists_run_eq_finish b (pool.inTurn b turns) i
    refine ⟨before ++ last, ?_⟩
    rw [inTurn_concat, hlast, hbefore, run, run, run, List.foldl_append]

theorem plans_inTurn_of_notMem {turns : List Nat} (h : j ∉ turns) :
    (pool.inTurn b turns).plans[j]? = pool.plans[j]? := by
  induction turns using List.reverseRecOn with
  | nil => rfl
  | append_singleton turns i ih =>
    simp only [List.mem_append, List.mem_singleton, not_or] at h
    rw [inTurn_concat, plans_finish, if_neg (Ne.symm h.2), ih h.1]

end

/-- The plans that make a call, in the order of their first calls in a schedule. -/
def firstCalls (pool : Pool σ α) (schedule : List Nat) : List Nat :=
  (schedule.filter fun i => (pool.plans[i]?).any fun p => p.answer?.isNone).eraseDups

section
variable (pool : Pool σ α)

theorem mem_firstCalls {schedule : List Nat} {i : Nat} :
    i ∈ pool.firstCalls schedule ↔ i ∈ schedule ∧ ∃ p, pool.plans[i]? = some p ∧ p.answer? = none := by
  simp [firstCalls, Option.any_eq_true]

theorem firstCalls_concat (schedule : List Nat) (i : Nat) :
    pool.firstCalls (schedule ++ [i]) =
      if (∃ p, pool.plans[i]? = some p ∧ p.answer? = none) ∧ i ∉ schedule then pool.firstCalls schedule ++ [i]
      else pool.firstCalls schedule := by
  have hcalls : (pool.plans[i]?).any (fun p => p.answer?.isNone) = true ↔
      ∃ p, pool.plans[i]? = some p ∧ p.answer? = none := by
    simp [Option.any_eq_true]
  unfold firstCalls
  by_cases hi : ∃ p, pool.plans[i]? = some p ∧ p.answer? = none
  · simp [List.filter_append, eraseDups_concat, hcalls.2 hi, hi]
  · simp [List.filter_append, mt hcalls.1 hi, hi]

theorem nodup_firstCalls (schedule : List Nat) : (pool.firstCalls schedule).Nodup :=
  nodup_eraseDups _

theorem answered_inTurn (b : Backend σ) {turns : List Nat} {i : Nat} (hi : i ∈ turns) {p : Plan α}
    (hp : (pool.inTurn b turns).plans[i]? = some p) : ∃ a, p = .answer a := by
  induction turns using List.reverseRecOn with
  | nil => cases hi
  | append_singleton turns j ih =>
    rw [inTurn_concat, plans_finish] at hp
    split at hp
    · obtain ⟨p', -, rfl⟩ := Option.map_eq_some_iff.1 hp
      exact ⟨_, rfl⟩
    · rename_i hji
      rcases List.mem_append.1 hi with hi | hi
      · exact ih hi hp
      · exact absurd (List.mem_singleton.1 hi).symm hji

/-- **Once a plan is carried out, further turns of it do nothing.** -/
theorem inTurn_firstCalls (b : Backend σ) (schedule : List Nat) :
    pool.inTurn b (pool.firstCalls schedule) = pool.inTurn b schedule := by
  induction schedule using List.reverseRecOn with
  | nil => rfl
  | append_singleton schedule i ih =>
    rw [firstCalls_concat, inTurn_concat]
    split
    · rw [inTurn_concat, ih]
    · rename_i hi
      rw [ih]
      -- the plan is not there, or it has answered: in an earlier turn, or from the start
      cases hp : (pool.inTurn b schedule).plans[i]? with
      | none => exact (finish_of_none b _ i hp).symm
      | some p =>
        by_cases hmem : i ∈ schedule
        · obtain ⟨a, rfl⟩ := answered_inTurn pool b hmem hp
          exact (finish_of_answer b _ i hp).symm
        · rw [plans_inTurn_of_notMem b pool i hmem] at hp
          cases p with
          | call c next => exact absurd ⟨⟨_, hp, rfl⟩, hmem⟩ hi
          | answer a =>
            rw [← plans_inTurn_of_notMem b pool i hmem] at hp
            exact (finish_of_answer b _ i hp).symm

end

end Postern.Pool
