import Postern.Http.Message
import Postern.Proofs.Policy.Declared
import Postern.Proofs.Text.Form
import Postern.Url.Reader

/-!
Paths that can be asked for.  A segment that is read keeps visible characters that mean nothing else in an address,
and escapes the others (`isPathChar_of_mem_escaped`); carrying out dots, looking for drives and taking siblings make no
new characters.  So whatever address is read, and of whatever scheme, its path may stand in the target of a request
(`readsSendable_read`, `HasSendablePath.sibling`).
-/

namespace Postern.Url

/-! ### Segments -/

theorem isPathChar_of_isSegmentChar {c : Char} (h : Path.isSegmentChar c = true) :
    HttpRequest.isPathChar c = true := by
  have hall : ∀ n < 0x80, Path.isSegmentChar (Char.ofNat n) = true →
      HttpRequest.isPathChar (Char.ofNat n) = true := by decide +kernel
  have hvisible : c.toNat < 0x7F := by
    simp only [Path.isSegmentChar, Bool.and_eq_true, decide_eq_true_eq] at h
    exact h.1.2
  exact Text.forall_ascii (P := fun c => Path.isSegmentChar c = true → HttpRequest.isPathChar c = true) hall
    (by omega) h

theorem isPathChar_hexDigit : ∀ n < 16, HttpRequest.isPathChar (Text.Percent.hexDigit n) = true := by decide

theorem isPathChar_of_mem_escaped {cs : List Char} {c : Char} (h : c ∈ (Path.escaped cs).toList) :
    HttpRequest.isPathChar c = true := by
  rw [Path.escaped, String.toList_ofList] at h
  rcases Text.Percent.mem_encode h with hkeep | rfl | ⟨n, hn, rfl⟩
  · exact isPathChar_of_isSegmentChar hkeep
  · decide
  · exact isPathChar_hexDigit n hn

/-- Segments that may stand in the target of a request. -/
def Sendable (names : List String) : Prop := ∀ name ∈ names, ∀ c ∈ name.toList, HttpRequest.isPathChar c = true

section
variable {names : List String}

theorem sendable_nil : Sendable [] := fun _ h => nomatch h

theorem sendable_empty : Sendable [""] := by
  intro name hname
  obtain rfl := List.mem_singleton.1 hname
  exact fun _ h => nomatch h

theorem sendable_escaped (css : List (List Char)) : Sendable (css.map Path.escaped) := by
  intro name hname
  obtain ⟨cs, -, rfl⟩ := List.mem_map.1 hname
  exact fun _ => isPathChar_of_mem_escaped

theorem Sendable.append {others : List String} (h : Sendable names) (hothers : Sendable others) :
    Sendable (names ++ others) := by
  intro name hname
  rcases List.mem_append.1 hname with hname | hname
  · exact h name hname
  · exact hothers name hname

theorem Sendable.subset {others : List String} (h : Sendable names) (hsub : others ⊆ names) : Sendable others :=
  fun name hname => h name (hsub hname)

theorem Sendable.isPathChar (h : Sendable names) {c : Char} (hc : c ∈ Path.segmentsText names) :
    HttpRequest.isPathChar c = true := by
  obtain ⟨name, hname, hc⟩ := List.mem_flatMap.1 hc
  rcases List.mem_cons.1 hc with rfl | hc
  · decide
  · exact h name hname c hc

theorem Sendable.up (h : Sendable names) : Sendable (Path.up names) := by
  unfold Path.up
  split
  · split
    · exact h
    · exact h.subset names.dropLast_subset
  · exact sendable_nil

theorem Sendable.step (h : Sendable names) {name : String} (hname : Sendable [name]) (final : Bool) :
    Sendable (Path.step names name final) := by
  have hlast : Sendable (if final then [""] else []) := by
    cases final
    · exact sendable_nil
    · exact sendable_empty
  unfold Path.step
  split
  · exact h.up.append hlast
  · split
    · exact h.append hlast
    · exact h.append hname

theorem Sendable.walk (h : Sendable names) {rest : List String} (hrest : Sendable rest) :
    Sendable (Path.walk names rest) := by
  have hone : ∀ name ∈ rest, Sendable [name] := fun name hname => hrest.subset (by simpa using hname)
  fun_induction Path.walk names rest with
  | case1 => exact h
  | case2 names name => exact h.step (hone name (by simp)) true
  | case3 names name rest _ ih =>
    have htail : rest ⊆ name :: rest := List.subset_cons_self ..
    exact ih (h.step (hone name (by simp)) false) (hrest.subset htail) fun n hn => hone n (htail hn)

theorem sendable_pathRead (isSlash : Char → Bool) (cs : List Char) : Sendable (Path.read isSlash cs) :=
  sendable_nil.walk (sendable_escaped _)

theorem Sendable.trimmed (h : Sendable names) : Sendable (Path.trimmed names) := by
  unfold Path.trimmed
  split
  · exact sendable_empty
  · exact h.subset (List.dropWhile_sublist _).subset

/-- The letter of a drive may stand in a target whatever is written behind it. -/
theorem sendable_asDrive {name : String} (h : Sendable [name]) : Sendable [Path.asDrive name] := by
  unfold Path.asDrive
  split
  · rename_i letter hname
    intro name' hname' c hc
    obtain rfl := List.mem_singleton.1 hname'
    simp only [String.toList_ofList, List.mem_cons, List.not_mem_nil, or_false] at hc
    rcases hc with rfl | rfl
    · exact h name (by simp) c (by simp [hname])
    · decide
  · exact h

theorem sendable_readFile (isSlash : Char → Bool) (cs : List Char) : Sendable (Path.readFile isSlash cs).1 := by
  unfold Path.readFile
  split
  · exact sendable_empty
  · rename_i first rest _
    have hfirst : Sendable [Path.escaped first] := sendable_escaped [first]
    have hdrive : Sendable [if Path.isDrive (Path.escaped first) then Path.asDrive (Path.escaped first)
        else Path.escaped first] := by
      split
      · exact sendable_asDrive hfirst
      · exact hfirst
    exact (sendable_nil.walk (hdrive.append (sendable_escaped rest))).trimmed

end

/-! ### Addresses -/

/-- The segments of an address may stand in the target of a request. -/
def HasSendablePath (u : Url) : Prop := ∀ names, u.path = .segments names → Sendable names

/-- What is read, if anything, has a path that may be asked for. -/
def ReadsSendable (x : Except Fault Url) : Prop := ∀ u, x = .ok u → u.HasSendablePath

section
variable {x : Except Fault Url}

theorem readsSendable_ok {u : Url} (h : u.HasSendablePath) : ReadsSendable (.ok u) := by
  rintro _ ⟨⟩
  exact h

theorem readsSendable_error (fault : Fault) : ReadsSendable (.error fault) := nofun

theorem readsSendable_bind {α : Type} (y : Except Fault α) {next : α → Except Fault Url}
    (h : ∀ a, ReadsSendable (next a)) : ReadsSendable (y >>= next) := by
  cases y with
  | ok a => exact h a
  | error fault => exact readsSendable_error fault

theorem readsSendable_unless {p : Prop} [Decidable p] {fault : Fault} (h : ReadsSendable x) :
    ReadsSendable (if p then (throw fault : Except Fault PUnit) >>= fun _ => x else x) := by
  split
  · exact readsSendable_bind _ fun _ => h
  · exact h

end

theorem sendable_pathAfter (kind : Kind) (cs : List Char) : Sendable (pathAfter kind cs) := by
  unfold pathAfter
  split
  · split
    · exact sendable_nil
    · exact sendable_empty
  · exact sendable_pathRead _ _

theorem hasSendablePath_localFile (p : Pieces) (cs : List Char) : (localFile p cs).HasSendablePath := by
  rintro names ⟨⟩
  exact sendable_readFile _ _

theorem readsSendable_ofAuthority (scheme : String) (kind : Kind) (p : Pieces) (cs : List Char) :
    ReadsSendable (ofAuthority scheme kind p cs) := by
  have hpath : ∀ user password host port tail, HasSendablePath
      ⟨scheme, user, password, some host, port, .segments (pathAfter kind tail), p.query, p.fragment⟩ := by
    rintro _ _ _ _ _ _ ⟨⟩
    exact sendable_pathAfter _ _
  unfold ofAuthority
  dsimp only
  refine readsSendable_unless (readsSendable_bind _ fun host => readsSendable_bind _ fun port => ?_)
  exact readsSendable_unless (readsSendable_ok (hpath _ _ _ _ _))

theorem readsSendable_ofFileHost (p : Pieces) (cs : List Char) : ReadsSendable (ofFileHost p cs) := by
  unfold ofFileHost
  dsimp only
  split
  · exact readsSendable_ok (hasSendablePath_localFile p cs)
  · refine readsSendable_bind _ fun host => readsSendable_ok ?_
    rintro names ⟨⟩
    exact sendable_readFile _ _

theorem readsSendable_ofFile (p : Pieces) : ReadsSendable (ofFile p) := by
  have hlocal : ∀ cs, ReadsSendable (.ok (localFile p cs)) :=
    fun cs => readsSendable_ok (hasSendablePath_localFile p cs)
  unfold ofFile
  split
  · split
    · split
      · exact readsSendable_ofFileHost p _
      · exact hlocal _
    · exact hlocal _
  · exact hlocal _
  · exact hlocal _

theorem readsSendable_ofOther (scheme : String) (p : Pieces) : ReadsSendable (ofOther scheme p) := by
  unfold ofOther
  split
  · exact readsSendable_ofAuthority scheme .other p _
  · refine readsSendable_ok ?_
    rintro names ⟨⟩
    exact sendable_pathRead _ _
  · refine readsSendable_ok ?_
    rintro names ⟨⟩

/-- **Whatever address is read, its path may be asked for.** -/
theorem readsSendable_read (text : String) : ReadsSendable (read text) := by
  unfold read
  split
  · exact readsSendable_error .relative
  · dsimp only
    split
    · exact readsSendable_ofAuthority _ _ _ _
    · exact readsSendable_ofFile _
    · exact readsSendable_ofOther _ _

/-- Below such an address, whatever may be asked for stays so. -/
theorem HasSendablePath.sibling {u v : Url} (h : u.HasSendablePath) {name : String} (hname : Sendable [name])
    (hv : u.asDirectory.sibling name = .ok v) :
    ∃ names, v.path = .segments (names ++ [name]) ∧ Sendable (names ++ [name]) ∧ v.fragment = none := by
  have hdirectory : u.asDirectory.HasSendablePath := by
    unfold asDirectory
    split
    · rename_i names hpath
      split
      · exact h
      · rintro _ ⟨⟩
        exact (h names hpath).append sendable_empty
    · exact h
  unfold Url.sibling at hv
  split at hv
  · rename_i names hpath
    obtain rfl := Except.ok.inj hv
    exact ⟨_, rfl, ((hdirectory names hpath).subset names.dropLast_subset).append hname, rfl⟩
  · cases hv

end Postern.Url
