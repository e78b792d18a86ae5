import Postern.Proofs.Client.Agreement

/-!
Secrets that come back.  A client that stores a value in an account and then asks for it gets it back as it was, unless
it begins with a mark of byte order, which is lost (`secret_returns`).  Nothing else is taken for anything but text,
error bodies of the gateway included.
-/

namespace Postern

namespace Gateway

section
variable (keys : KeySource) (allowPurge : Bool) {m : Memory} {raw : String} {resource : ResourceId}
  (hparse : ResourceId.parse raw = .ok resource)
include hparse

theorem serve_createSecret_call (haccount : m.hasAccount resource.account = true) {value : String}
    (hvalue : value ≠ "") :
    serve (Memory.backend keys) allowPurge (Client.Call.createSecret raw value).query m =
      (.ok (.empty 201), m.addVersion resource value) := by
  have hnamed : Request.resourceOf (Client.Call.createSecret raw value).query = .ok (some resource) := by
    refine resourceOf_eq_ok_some_iff.2 ⟨raw, ?_, hparse⟩
    simp [Client.Call.query, Store.Table.ofList]
  have hgiven : Query.given? (Client.Call.createSecret raw value).query "value" = some value := by
    refine Query.given?_eq_some_iff.2 ⟨?_, hvalue⟩
    simp [Client.Call.query, Store.Table.ofList]
  have ho : order allowPurge (Client.Call.createSecret raw value).query = .ok (.createSecret resource value) :=
    order_eq_ok_iff.2 ⟨Client.Call.find?_action _, by simp [Order.action], _, hnamed, rfl, hgiven⟩
  rw [serve_memory, ho]
  simp [Order.effect, haccount]

/-- The query by which a client reads it finds the last version. -/
theorem serve_getSecret_call {value : String} (hlast : ((m.versions resource).getD []).getLast? = some value) :
    (serve (Memory.backend keys) allowPurge (Client.Call.getSecret raw none).query m).1 = .ok (.text 200 value) := by
  have hreads : Reads (Client.Call.getSecret raw none).query raw := by
    constructor <;> simp [Client.Call.query, Store.Table.ofList]
  have hversion : Query.given? (Client.Call.getSecret raw none).query "version" = none := by
    simp [Query.given?, Client.Call.query, Store.Table.ofList]
  have hfinds := (serve_getSecret keys allowPurge m hreads hparse).1 hversion
  rw [hlast] at hfinds
  exact hfinds

end
end Gateway

namespace Client.Reaches
variable {c : Client} {s : Settings} {app : App} (hreaches : c.Reaches s app) (keys : KeySource) {m : Memory}
  {raw : String} {resource : ResourceId} (hparse : ResourceId.parse raw = .ok resource) (now : Instant)
  (headers : List (String × String))
include hreaches hparse

theorem run_createSecret (haccount : m.hasAccount resource.account = true) {value : String} (hvalue : value ≠ "") :
    (c.perform (app.transport now headers (Memory.backend keys)) (.createSecret raw value)).run m =
      (.ok (), m.addVersion resource value) := by
  have hserved := Gateway.serve_createSecret_call keys s.gateway.allowPurge hparse haccount hvalue
  have hresult : (Call.createSecret raw value).result (Reply.ofResponse (.empty 201)) = .ok () :=
    Call.result_response trivial
  rw [hreaches, hserved]
  exact Prod.ext hresult rfl

theorem run_getSecret {value : String} (hlast : ((m.versions resource).getD []).getLast? = some value) :
    ((c.perform (app.transport now headers (Memory.backend keys)) (.getSecret raw none)).run m).1 =
      .ok (Reply.withoutMark value) := by
  have hserved := Gateway.serve_getSecret_call keys s.gateway.allowPurge hparse hlast
  have hresult : (Call.getSecret raw none).result (Reply.ofResponse (.text 200 value)) =
      .ok (Reply.withoutMark value) := Call.result_response trivial
  rw [hreaches, hserved]
  exact hresult

end Client.Reaches

/-- **What a client stores it gets back,** but for a mark of byte order at the beginning. -/
theorem secret_returns {s : Settings} {app : App} (hbuild : App.build s = .ok app)
    (henabled : s.gateway.enabled = true) {address : String} {root : Url} (hread : Url.read address = .ok root)
    (hroot : root.path = .segments [""]) (keys : KeySource) {m : Memory} {raw : String} {resource : ResourceId}
    (hparse : ResourceId.parse raw = .ok resource) (haccount : m.hasAccount resource.account = true) {value : String}
    (hvalue : value ≠ "") (now now' : Instant) (headers headers' : List (String × String)) :
    ∃ c, Client.ofServer address = .ok c ∧
      let stored := (c.perform (app.transport now headers (Memory.backend keys)) (.createSecret raw value)).run m
      let read := (c.perform (app.transport now' headers' (Memory.backend keys)) (.getSecret raw none)).run stored.2
      stored.1 = .ok () ∧ read.1 = .ok (Reply.withoutMark value) ∧
        (read.1 = .ok value ↔ value.toList.head? ≠ some '\uFEFF') := by
  obtain ⟨c, hc, hreaches⟩ := Client.exists_reaches hbuild henabled hread hroot
  refine ⟨c, hc, ?_⟩
  intro stored read
  have hstored : stored = (.ok (), m.addVersion resource value) :=
    hreaches.run_createSecret keys hparse now headers haccount hvalue
  have hlast : ((stored.2.versions resource).getD []).getLast? = some value := by simp [hstored]
  have hread : read.1 = .ok (Reply.withoutMark value) := hreaches.run_getSecret keys hparse now' headers' hlast
  refine ⟨congrArg Prod.fst hstored, hread, ?_⟩
  rw [hread, ← Reply.withoutMark_eq_self_iff, Except.ok.injEq]

/-- A value that looks like a failure. -/
theorem secret_returns_errorBody :
    let s := Settings.ofDeployment .development
    let keys := ApiKey.source []
    let m := Memory.addAccount keys "c" .empty
    let value := "\x7b\x22error\x22:\x22boom\x22\x7d"
    ∃ app c, App.build s = .ok app ∧ Client.ofServer "http://localhost:3000/" = .ok c ∧
      let transport := app.transport default [] (Memory.backend keys)
      let stored := (c.perform transport (.createSecret "c:variable:x" value)).run m
      stored.1 = .ok () ∧ ((c.perform transport (.getSecret "c:variable:x" none)).run stored.2).1 = .ok value := by
  intro s keys m value
  obtain ⟨app, hbuild⟩ : ∃ app, App.build s = .ok app := App.exists_build (by decide) (by decide)
  obtain ⟨root, hread, hroot⟩ := Client.read_localhost
  have hparse : ResourceId.parse "c:variable:x" = .ok ⟨"c", "variable", "x"⟩ := rfl
  have haccount : m.hasAccount "c" = true := by decide
  have hvalue : value ≠ "" := by decide
  obtain ⟨c, hc, hstored, -, hiff⟩ :=
    secret_returns hbuild rfl hread hroot keys hparse haccount hvalue default default [] []
  exact ⟨_, c, hbuild, hc, hstored, hiff.2 (by decide)⟩

/-- A value that comes back without its first character. -/
theorem marked_secret_changes :
    let s := Settings.ofDeployment .development
    let keys := ApiKey.source []
    let m := Memory.addAccount keys "c" .empty
    let value := "\uFEFFv"
    m.Reachable keys ∧ value ≠ "" ∧
      ∃ app c, App.build s = .ok app ∧ Client.ofServer "http://localhost:3000/" = .ok c ∧
        let transport := app.transport default [] (Memory.backend keys)
        let stored := (c.perform transport (.createSecret "c:variable:x" value)).run m
        let read := (c.perform transport (.getSecret "c:variable:x" none)).run stored.2
        stored.1 = .ok () ∧ read.1 = .ok "v" ∧ read.1 ≠ .ok value := by
  intro s keys m value
  obtain ⟨app, hbuild⟩ : ∃ app, App.build s = .ok app := App.exists_build (by decide) (by decide)
  obtain ⟨root, hread, hroot⟩ := Client.read_localhost
  have hparse : ResourceId.parse "c:variable:x" = .ok ⟨"c", "variable", "x"⟩ := rfl
  have haccount : m.hasAccount "c" = true := by decide
  have hreachable : m.Reachable keys := .perform (.createAccount .root "c") .empty
  refine ⟨hreachable, by decide, ?_⟩
  obtain ⟨c, hc, hreaches⟩ := Client.exists_reaches hbuild rfl hread hroot
  refine ⟨_, c, hbuild, hc, ?_⟩
  intro transport stored read
  have hstored : stored = (.ok (), m.addVersion ⟨"c", "variable", "x"⟩ value) :=
    hreaches.run_createSecret keys hparse default [] haccount (by decide)
  have hlast : ((stored.2.versions ⟨"c", "variable", "x"⟩).getD []).getLast? = some value := by simp [hstored]
  have hmark : Reply.withoutMark value = "v" := by decide
  have hread : read.1 = .ok "v" := hmark ▸ hreaches.run_getSecret keys hparse default [] hlast
  refine ⟨congrArg Prod.fst hstored, hread, ?_⟩
  rw [hread]
  intro hsame
  exact absurd (Except.ok.inj hsame) (by decide)

end Postern
