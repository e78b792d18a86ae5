import Postern.Http.Router

/-!
Routers of literal paths.  A path without colons and asterisks stands for itself (`accepts_literal`), and no two such
paths are in conflict.  So a table of them always has a router, and what the router finds is what the table holds
(`router?_of_literal`).
-/

namespace Postern

/-- A path that begins with a slash and stands for itself. -/
def IsLiteral (path : String) : Prop := path.toList.head? = some '/' ∧ ∀ c ∈ path.toList, RoutePath.isWild c = false

instance : DecidablePred IsLiteral := fun path =>
  decidable_of_iff (path.toList.head? = some '/' ∧ (path.toList.all fun c => !RoutePath.isWild c) = true)
    (by simp [IsLiteral])

namespace RoutePath

/-- The route path of a literal text. -/
def literal (cs : List Char) : RoutePath := cs.map .char

section
variable {cs ds : List Char}

theorem readFrom?_literal (hcs : ∀ c ∈ cs, isWild c = false) {fuel : Nat} (hfuel : cs.length < fuel)
    (before : Option Char) : readFrom? fuel before cs = some (literal cs) := by
  induction cs generalizing fuel before with
  | nil =>
    obtain ⟨fuel, rfl⟩ := Nat.exists_eq_succ_of_ne_zero (Nat.ne_of_gt hfuel)
    rfl
  | cons c cs ih =>
    obtain ⟨fuel, rfl⟩ := Nat.exists_eq_succ_of_ne_zero (Nat.ne_of_gt (Nat.zero_lt_of_lt hfuel))
    obtain ⟨hc, hcs⟩ := List.forall_mem_cons.1 hcs
    have hrest := ih hcs (Nat.lt_of_succ_lt_succ hfuel) (some c)
    simp [readFrom?, hc, hrest, literal]

theorem read?_literal {path : String} (h : IsLiteral path) : read? path = some (literal path.toList) := by
  obtain ⟨hhead, hwild⟩ := h
  unfold read?
  cases hcs : path.toList with
  | nil => simp [hcs] at hhead
  | cons c cs =>
    rw [hcs] at hhead hwild
    obtain rfl : c = '/' := by simpa using hhead
    exact readFrom?_literal hwild (by simp) none

theorem conflicts_literal (cs ds : List Char) : conflicts (literal cs) (literal ds) = false := by
  induction cs generalizing ds with
  | nil => rfl
  | cons c cs ih =>
    cases ds with
    | nil => rfl
    | cons d ds =>
      by_cases h : c = d
      · subst h
        simpa [literal, conflicts] using ih ds
      · simp [literal, conflicts, h]

theorem accepts_literal : (literal cs).accepts ds = true ↔ cs = ds := by
  induction cs generalizing ds with
  | nil => simp [literal, accepts, eq_comm]
  | cons c cs ih =>
    cases ds with
    | nil => simp [literal, accepts]
    | cons d ds =>
      have hrest : accepts (List.map PathPiece.char cs) ds = true ↔ cs = ds := ih
      simp [literal, accepts, hrest]

theorem isMoreLiteral_self (p : RoutePath) : isMoreLiteral p p = false := by
  induction p with
  | nil => rfl
  | cons piece p ih => simpa [isMoreLiteral] using ih

end
end RoutePath

/-! ### Routers -/

namespace Router
variable {α : Type}

/-- The router of literal paths, one route for each of them. -/
def ofLiterals (entries : List (String × α)) : Router α :=
  ⟨entries.map fun e => (RoutePath.literal e.1.toList, e.2)⟩

theorem add?_literal (entries : List (String × α)) {path : String} (h : IsLiteral path) (a : α) :
    (ofLiterals entries).add? path a = some (ofLiterals (entries ++ [(path, a)])) := by
  have hfree : ((ofLiterals entries).routes.any fun e => (RoutePath.literal path.toList).conflicts e.1) = false := by
    simp [ofLiterals, RoutePath.conflicts_literal]
  simp only [add?, RoutePath.read?_literal h, hfree]
  simp [ofLiterals]

theorem ofEntries?_literal {entries : List (String × α)} (h : ∀ e ∈ entries, IsLiteral e.1)
    (before : List (String × α)) : ofEntries? (ofLiterals before) entries = some (ofLiterals (before ++ entries)) := by
  induction entries generalizing before with
  | nil => simp [ofEntries?]
  | cons e entries ih =>
    obtain ⟨he, hentries⟩ := List.forall_mem_cons.1 h
    obtain ⟨path, a⟩ := e
    simp only [ofEntries?, add?_literal before he]
    rw [ih hentries, List.append_assoc]
    rfl

theorem foldl_better (p : RoutePath) (a : α) (es : List (RoutePath × α)) (h : ∀ e ∈ es, e.1 = p) :
    es.foldl better (some (p, a)) = some (p, a) := by
  induction es with
  | nil => rfl
  | cons e es ih =>
    obtain ⟨he, hes⟩ := List.forall_mem_cons.1 h
    have hstep : better (some (p, a)) e = some (p, a) := by
      simp [better, he, RoutePath.isMoreLiteral_self]
    rw [List.foldl_cons, hstep]
    exact ih hes

theorem path_of_accepts {entries : List (String × α)} {text : String} {e : RoutePath × α}
    (h : e ∈ (ofLiterals entries).routes.filter fun e => e.1.accepts text.toList) :
    e.1 = RoutePath.literal text.toList := by
  obtain ⟨he, haccepts⟩ := List.mem_filter.1 h
  obtain ⟨entry, -, rfl⟩ := List.mem_map.1 he
  rw [RoutePath.accepts_literal.1 haccepts]

theorem find?_ofLiterals (entries : List (String × α)) (text : String) :
    (ofLiterals entries).find? text = (entries.find? (·.1 = text)).map (·.2) := by
  induction entries with
  | nil => rfl
  | cons e entries ih =>
    by_cases he : e.1 = text
    · subst he
      have hfirst : (ofLiterals (e :: entries)).routes.filter (fun r => r.1.accepts e.1.toList) =
          (RoutePath.literal e.1.toList, e.2) ::
            (ofLiterals entries).routes.filter fun r => r.1.accepts e.1.toList :=
        List.filter_cons_of_pos (RoutePath.accepts_literal.2 rfl)
      rw [find?, hfirst, List.foldl_cons, better, foldl_better _ _ _ fun r => path_of_accepts]
      simp
    · have hrest : (ofLiterals (e :: entries)).routes.filter (fun r => r.1.accepts text.toList) =
          (ofLiterals entries).routes.filter fun r => r.1.accepts text.toList :=
        List.filter_cons_of_neg (mt RoutePath.accepts_literal.1 (mt String.toList_injective he))
      rw [find?, hrest, List.find?_cons_of_neg (by simpa using he)]
      exact ih

end Router

/-- **A table of literal paths has a router, which finds what the table holds.** -/
theorem RouteTable.router?_of_literal {α : Type} {t : RouteTable α} (h : ∀ path ∈ t.paths, IsLiteral path) :
    ∃ r, t.router? = some r ∧ ∀ path, r.find? path = t.find? path := by
  have hentries : ∀ e ∈ t.entries, IsLiteral e.1 := fun e he => h e.1 (List.mem_map_of_mem he)
  exact ⟨_, Router.ofEntries?_literal hentries [], fun path => Router.find?_ofLiterals t.entries path⟩

end Postern
