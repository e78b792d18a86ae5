import Postern.Proofs.Http.Literal
import Postern.Proofs.Turns
import Postern.Service.App

/-!
Tables of routes as they are drawn.  One more registration adds a path that is new and changes nothing otherwise
(`paths_route`, `find?_route`).  So after any registrations a table holds the paths that were registered, each once and
in the order in which they came first (`paths_routes`), and for each path what came with it then (`find?_routes`,
`mem_entries_iff`).  The gateway's path is registered before all others, so that no other registration of it counts, and
the router answers with what is in the table (`first_registration_wins`).
-/

namespace Postern

/-! ### Registrations -/

namespace RouteTable

section
variable {α : Type} {t : RouteTable α} {path : String} {a : α} {rs : List (String × α)}

theorem contains_iff : t.contains path = true ↔ path ∈ t.paths := by
  rw [contains, List.contains_iff_mem]

theorem routes_cons (t : RouteTable α) (r : String × α) (rs : List (String × α)) :
    t.routes (r :: rs) = (t.route r.1 r.2).routes rs := rfl

theorem routes_concat (t : RouteTable α) (rs : List (String × α)) (r : String × α) :
    t.routes (rs ++ [r]) = (t.routes rs).route r.1 r.2 := by
  rw [routes, List.foldl_append]
  rfl

theorem prefix_route (t : RouteTable α) (path : String) (a : α) : t.entries <+: (t.route path a).entries := by
  unfold route
  split
  · exact List.prefix_refl _
  · exact List.prefix_append _ _

theorem prefix_routes (t : RouteTable α) (rs : List (String × α)) : t.entries <+: (t.routes rs).entries := by
  induction rs generalizing t with
  | nil => exact List.prefix_refl _
  | cons r rs ih =>
    rw [routes_cons]
    exact (prefix_route t r.1 r.2).trans (ih _)

/-- **The paths of a table are those that were registered, each where it came first.** -/
theorem paths_routes (rs : List (String × α)) : (empty.routes rs).paths = (rs.map (·.1)).eraseDups := by
  induction rs using List.reverseRecOn with
  | nil => rfl
  | append_singleton rs r ih =>
    rw [routes_concat, paths_route, ih, List.map_append, List.map_singleton, eraseDups_concat]
    simp only [List.mem_eraseDups]

/-- **What is found for a path is what was there, or what was registered for it first.** -/
theorem find?_routes (t : RouteTable α) (rs : List (String × α)) (path : String) :
    (t.routes rs).find? path = (t.find? path).or ((rs.find? (·.1 = path)).map (·.2)) := by
  induction rs generalizing t with
  | nil => exact Option.or_none.symm
  | cons r rs ih =>
    rw [routes_cons, ih, find?_route, Option.or_assoc, List.find?_cons]
    by_cases h : r.1 = path <;> simp [h]

theorem mem_entries_iff (hnodup : t.paths.Nodup) : (path, a) ∈ t.entries ↔ t.find? path = some a := by
  constructor
  · intro hmem
    obtain ⟨before, after, hentries⟩ := List.append_of_mem hmem
    have hbefore : before.find? (·.1 = path) = none := by
      rw [List.find?_eq_none]
      intro e he hpath
      rw [paths, hentries, List.map_append, List.nodup_append] at hnodup
      exact hnodup.2.2 e.1 (List.mem_map_of_mem he) path (by simp) (by simpa using hpath)
    rw [find?, hentries, List.find?_append, hbefore]
    simp
  · intro hfind
    obtain ⟨e, he, rfl⟩ := Option.map_eq_some_iff.1 hfind
    obtain rfl : e.1 = path := by simpa using List.find?_some he
    exact List.mem_of_find?_eq_some he

end
end RouteTable

/-! ### Drawing -/

namespace Service

/-- What is registered when routes are drawn: the gateway first where it is enabled, then the application's routes. -/
def registered (s : GatewaySettings) (application : List (String × Handler)) : List (String × Handler) :=
  (if s.enabled then [(gatewayPath, gateway s)] else []) ++ application

/-- The first handler that was registered for a path. -/
def first? (registrations : List (String × Handler)) (path : String) : Option Handler :=
  (registrations.find? (·.1 = path)).map (·.2)

/-- A table holds the first registration of each path. -/
structure HoldsFirst (registrations : List (String × Handler)) (table : RouteTable Handler) : Prop where
  paths : table.paths = (registrations.map (·.1)).eraseDups
  contains : ∀ path, table.contains path = true ↔ path ∈ table.paths
  bound : ∀ path handler, (path, handler) ∈ table.entries ↔ first? registrations path = some handler

/-- A router answers with the first handler that was registered for a path, in whatever layers it stands. -/
structure AnswersFirst (registrations : List (String × Handler)) (router : Router Handler) : Prop where
  first : ∀ layers v handler, v.request.method = "GET" → first? registrations v.request.path = some handler →
    answer layers router v = layers handler v
  unknown : ∀ layers v, v.request.method = "GET" → v.request.path ∉ registrations.map (·.1) →
    answer layers router v = layers (fun _ => .answer (.empty 404)) v

section
variable {s : GatewaySettings} {application : List (String × Handler)}

theorem draw_eq (s : GatewaySettings) (application : List (String × Handler)) :
    draw s application = RouteTable.empty.routes (registered s application) := by
  unfold draw registered
  split <;> rfl

theorem find?_draw (path : String) : (draw s application).find? path = first? (registered s application) path := by
  rw [draw_eq, RouteTable.find?_routes]
  rfl

theorem holdsFirst_draw : HoldsFirst (registered s application) (draw s application) := by
  have hpaths : (draw s application).paths = ((registered s application).map (·.1)).eraseDups := by
    rw [draw_eq, RouteTable.paths_routes]
  refine ⟨hpaths, fun _ => RouteTable.contains_iff, fun path handler => ?_⟩
  rw [RouteTable.mem_entries_iff (hpaths ▸ nodup_eraseDups _), find?_draw]

/-- The gateway is the first of all routes, and its path is in the table once. -/
theorem gateway_draw (h : s.enabled = true) :
    (draw s application).entries.head? = some (gatewayPath, gateway s) ∧
      (draw s application).paths.count gatewayPath = 1 := by
  have hhead : (draw s application).entries.head? = some (gatewayPath, gateway s) := by
    have hprefix := RouteTable.prefix_routes (RouteTable.empty.route gatewayPath (gateway s)) application
    obtain ⟨rest, hrest⟩ := hprefix
    rw [draw, if_pos h, ← hrest]
    rfl
  refine ⟨hhead, ?_⟩
  have hmem : gatewayPath ∈ (draw s application).paths := List.mem_map_of_mem (List.mem_of_head? hhead)
  rw [holdsFirst_draw.paths] at hmem ⊢
  exact List.count_eq_one_of_mem (nodup_eraseDups _) hmem

theorem notMem_of_first? {registrations : List (String × Handler)} {path : String}
    (h : path ∉ registrations.map (·.1)) : first? registrations path = none := by
  rw [first?, Option.map_eq_none_iff, List.find?_eq_none]
  intro r hr hpath
  have hpath : r.1 = path := by simpa using hpath
  exact h (hpath ▸ List.mem_map_of_mem hr)

/-- Tables of literal paths become routers that answer with what was registered first. -/
theorem answersFirst_draw (h : ∀ r ∈ application, IsLiteral r.1) :
    ∃ router, (draw s application).router? = some router ∧ AnswersFirst (registered s application) router := by
  have hgateway : IsLiteral gatewayPath := by decide
  have hliteral : ∀ path ∈ (draw s application).paths, IsLiteral path := by
    intro path hpath
    rw [holdsFirst_draw.paths, List.mem_eraseDups] at hpath
    obtain ⟨r, hr, rfl⟩ := List.mem_map.1 hpath
    rcases List.mem_append.1 hr with hr | hr
    · split at hr
      · obtain rfl := List.mem_singleton.1 hr
        exact hgateway
      · cases hr
    · exact h r hr
  obtain ⟨router, hrouter, hfind⟩ := RouteTable.router?_of_literal hliteral
  refine ⟨router, hrouter, ?_, ?_⟩
  · intro layers v handler hmethod hfirst
    rw [answer, hfind, find?_draw, hfirst]
    exact if_pos hmethod
  · intro layers v _ hunknown
    rw [answer, hfind, find?_draw, notMem_of_first? hunknown]
    rfl

end

/-- **The first registration of a path wins**, in the table and, where all paths are literal, in the answers of its
router.  So the gateway, where it is enabled, comes first and keeps its path. -/
theorem first_registration_wins (s : GatewaySettings) (application : List (String × Handler)) :
    HoldsFirst (registered s application) (draw s application) ∧
    (s.enabled = true → (draw s application).entries.head? = some (gatewayPath, gateway s) ∧
      (draw s application).paths.count gatewayPath = 1) ∧
    ((∀ r ∈ application, IsLiteral r.1) →
      ∃ router, (draw s application).router? = some router ∧ AnswersFirst (registered s application) router) :=
  ⟨holdsFirst_draw, gateway_draw, answersFirst_draw⟩

/-- Registered again, neither the gateway's path nor any other gets a new handler. -/
theorem first_registration_wins_again :
    let s : GatewaySettings := ⟨true, .strict, true⟩
    let application : List (String × Handler) := [("/health", health), ("/dev", about), ("/health", about)]
    (∀ r ∈ application, IsLiteral r.1) ∧ (draw s application).paths = ["/dev", "/health"] ∧
      ∃ router, (draw s application).router? = some router ∧
        ∀ v, v.request.method = "GET" →
          (v.request.path = "/dev" → answer id router v = gateway s v) ∧
          (v.request.path = "/health" → answer id router v = health v) ∧
          (v.request.path = "/" → answer id router v = .answer (.empty 404)) := by
  intro s application
  have hliteral : ∀ r ∈ application, IsLiteral r.1 := by decide
  obtain ⟨hholds, -, hrouter⟩ := first_registration_wins s application
  obtain ⟨router, hrouter, hanswers⟩ := hrouter hliteral
  refine ⟨hliteral, hholds.paths.trans (by decide), router, hrouter, fun v hmethod => ⟨?_, ?_, ?_⟩⟩
  · intro hpath
    exact hanswers.first id v (gateway s) hmethod (by rw [hpath]; rfl)
  · intro hpath
    exact hanswers.first id v health hmethod (by rw [hpath]; rfl)
  · intro hpath
    refine hanswers.unknown id v hmethod ?_
    rw [hpath]
    decide

end Service
end Postern
