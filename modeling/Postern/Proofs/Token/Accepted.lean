import Mathlib.Algebra.Group.Int.Defs
import Postern.Proofs.Json.Record
import Postern.Proofs.Text.Base64
import Postern.Token.Signed

/-!
Which tokens are accepted.  A token falls into three parts at its last two dots (`parts?_eq_some_iff`), and a part is
the base64 of a record (`record?_eq_ok_iff`).  The header has to name the algorithm (`isAlgorithm_of_algorithm?`) and
the payload has to give each claim once (`gives_of_claims?`).  None of the checks can be passed over (`accepted`), but
members that do not count are not looked at, and there is more than one way to name the algorithm
(`accepted_otherwise`).
-/

namespace Postern

namespace Token

open Json (named text?_eq_some_iff mapM_text?_eq_some_iff)

/-! ### Parts -/

/-- The parts of a token. -/
structure Parts where
  header : List Char
  payload : List Char
  signature : List Char

/-- What is signed. -/
def Parts.message (a : Parts) : List Char := a.header ++ '.' :: a.payload

/-- A token falls into these parts at its last two dots. -/
structure FallsInto (token : String) (a : Parts) : Prop where
  text : token.toList = a.message ++ '.' :: a.signature
  payload : '.' ∉ a.payload
  signature : '.' ∉ a.signature

theorem parts?_eq_some_iff {token : String} {a : Parts} :
    parts? token.toList = some (a.header, a.payload, a.signature) ↔ FallsInto token a := by
  constructor
  · intro h
    unfold parts? at h
    split at h
    · cases h
    · rename_i message sig hlast
      obtain ⟨htoken, hsig⟩ := Text.append_of_splitLast? hlast
      obtain ⟨⟨header, payload⟩, hsplit, heq⟩ := Option.map_eq_some_iff.1 h
      obtain ⟨hmessage, hpayload⟩ := Text.append_of_splitLast? hsplit
      simp only [Prod.mk.injEq] at heq
      obtain ⟨rfl, rfl, rfl⟩ := heq
      refine ⟨?_, hpayload, hsig⟩
      rw [htoken, hmessage, Parts.message]
  · rintro ⟨htoken, hpayload, hsig⟩
    rw [parts?, htoken, Text.splitLast?_append_sep hsig]
    simp only [Parts.message, Text.splitLast?_append_sep hpayload, Option.map_some]

theorem FallsInto.unique {token : String} {a b : Parts} (ha : FallsInto token a) (hb : FallsInto token b) : a = b := by
  have hparts := (parts?_eq_some_iff.2 ha).symm.trans (parts?_eq_some_iff.2 hb)
  cases a
  cases b
  simpa using hparts

def Parts.text (a : Parts) : String := String.ofList (a.message ++ '.' :: a.signature)

/-- The parts of a token that a secret signs for a header and a payload. -/
def signedParts (secret : String) (header payload : List UInt8) : Parts :=
  let header := Text.Base64.encode header
  let payload := Text.Base64.encode payload
  ⟨header, payload, signature secret (header ++ '.' :: payload)⟩

theorem fallsInto_signedParts (secret : String) (header payload : List UInt8) :
    FallsInto (signedParts secret header payload).text (signedParts secret header payload) := by
  have hdots : ∀ bs, '.' ∉ Text.Base64.encode bs := by
    intro bs hdot
    exact Text.Base64.forall_mem_encode (P := (· ≠ '.')) (by decide) bs '.' hdot rfl
  exact ⟨String.toList_ofList, hdots payload, hdots _⟩

/-- A part of a token is the base64 of a JSON text for some value. -/
def Says (part : List Char) (j : Json) : Prop :=
  ∃ text, part = Text.Base64.encode (Text.Utf8.encode text) ∧ Json.read? text = some j

/-- A part of a token is the base64 of a record, of which these are the members that count. -/
def Carries (readers : List (String × Json.ValueReader)) (part : List Char) (j : Json) : Prop :=
  ∃ bytes, part = Text.Base64.encode bytes ∧ Json.record? readers bytes = some j

section
variable {readers : List (String × Json.ValueReader)} {part : List Char} {j k : Json}

theorem record?_eq_ok_iff : record? readers part = .ok j ↔ Carries readers part j := by
  constructor
  · intro h
    unfold record? at h
    split at h
    · cases h
    · rename_i bytes hbytes
      split at h
      · rename_i j' hread
        obtain rfl := Except.ok.inj h
        exact ⟨bytes, Text.Base64.decode?_eq_some_iff.1 hbytes, hread⟩
      · cases h
  · rintro ⟨bytes, rfl, hread⟩
    have hbytes : Text.Base64.decode? (Text.Base64.encode bytes) = some bytes :=
      Text.Base64.decode?_eq_some_iff.2 rfl
    simp only [record?, hbytes, hread]

theorem Carries.unique (hj : Carries readers part j) (hk : Carries readers part k) : j = k :=
  Except.ok.inj ((record?_eq_ok_iff.2 hj).symm.trans (record?_eq_ok_iff.2 hk))

/-- **Of JSON text those members count that are read.** -/
theorem Says.carries_iff (h : Says part j) (hreaders : Json.ReadJson readers) :
    Carries readers part k ↔ k = Json.restrict readers j := by
  obtain ⟨text, rfl, hread⟩ := h
  have hcarries : Carries readers _ (Json.restrict readers j) := ⟨_, rfl, Json.record?_of_readBytes? hreaders hread⟩
  constructor
  · intro hk
    exact hk.unique hcarries
  · rintro rfl
    exact hcarries

theorem readJson_headerReaders : Json.ReadJson headerReaders := Json.readJson_within? headerNames

theorem readJson_claimReaders : Json.ReadJson claimReaders := by
  have hor : ∀ depth, Json.Follows id Json.within? (Json.orNull depth) := by
    intro depth cs j rest hread
    rw [Json.orNull, hread]
    rfl
  refine List.forall_mem_append.2 ⟨Json.readJson_within? _, ?_⟩
  exact List.forall_mem_cons.2 ⟨hor _, List.forall_mem_cons.2 ⟨hor _, List.forall_mem_singleton.2 (hor _)⟩⟩

end

/-! ### Headers -/

/-- The two ways to name a choice. -/
inductive Names (name : String) : Json → Prop
  | text : Names name (.str name)
  | choice : Names name (.obj [(name, .null)])

theorem choice?_eq_some_iff {j : Json} {name : String} : choice? j = some name ↔ Names name j := by
  constructor
  · intro h
    unfold choice? at h
    split at h
    · obtain rfl := Option.some.inj h
      exact .text
    · obtain rfl := Option.some.inj h
      exact .choice
    · cases h
  · rintro (_ | _) <;> rfl

/-- The algorithm of a header: its only member of that name, or, of the ten items of a list, the second. -/
inductive IsAlgorithm : Json → Json → Prop
  | member {members : List (String × Json)} {alg : Json} (h : named "alg" members = [alg]) :
    IsAlgorithm (.obj members) alg
  | item {typ alg : Json} {rest : List Json} (h : rest.length = 8) : IsAlgorithm (.arr (typ :: alg :: rest)) alg

theorem isAlgorithm_of_algorithm? {j : Json} {name : String} (h : algorithm? j = some name) :
    ∃ alg, IsAlgorithm j alg ∧ Names name alg := by
  unfold algorithm? at h
  split at h
  case h_2 => cases h
  rename_i typ alg cty jku jwk kid x5u x5c x5t x5tS256 hfields
  split at h
  case isFalse => cases h
  have hname : Names name alg := choice?_eq_some_iff.1 (Option.filter_eq_some_iff.1 h).1
  cases j with
  | obj members =>
    obtain ⟨honce, hmembers⟩ := Json.fields?_obj_eq_some_iff.1 hfields
    have halg : (named "alg" members).head? = some alg := by
      simp only [headerNames, List.map_cons, List.cons.injEq] at hmembers
      exact hmembers.2.1
    exact ⟨alg, .member (Json.named_eq_singleton (honce "alg" (by decide)) halg), hname⟩
  | arr items =>
    obtain ⟨hlength, hitems⟩ := Json.fields?_arr_eq_some_iff.1 hfields
    obtain ⟨first, items, rfl, -, hitems⟩ := List.map_eq_cons_iff.1 hitems
    obtain ⟨second, rest, rfl, hsecond, -⟩ := List.map_eq_cons_iff.1 hitems
    obtain rfl := Option.some.inj hsecond
    exact ⟨second, .item (by simpa [headerNames] using hlength), hname⟩
  | _ => cases hfields

/-- A header with an algorithm and at most a type. -/
structure PlainHeader (members : List (String × Json)) : Prop where
  only : ∀ m ∈ members, m.1 = "typ" ∨ m.1 = "alg"
  typ : named "typ" members = [] ∨ ∃ s, named "typ" members = [.str s]

theorem PlainHeader.restrict_eq {members : List (String × Json)} (h : PlainHeader members) :
    Json.restrict headerReaders (.obj members) = .obj members := by
  have hcounts : Json.counts headerReaders "typ" = true ∧ Json.counts headerReaders "alg" = true := by decide
  refine Json.restrict_eq_self fun m hm => ?_
  rcases h.only m hm with hname | hname <;> rw [hname]
  · exact hcounts.1
  · exact hcounts.2

theorem algorithm?_of_plain {members : List (String × Json)} (h : PlainHeader members) {alg : Json}
    (halg : named "alg" members = [alg]) {name : String} (hname : Names name alg) (hknown : name ∈ algorithms) :
    algorithm? (.obj members) = some name := by
  have hother : ∀ n, n ≠ "typ" → n ≠ "alg" → named n members = [] := by
    intro n htyp halg
    refine Json.named_eq_nil fun m hm => ?_
    rcases h.only m hm with hm | hm
    · rw [hm]
      exact htyp.symm
    · rw [hm]
      exact halg.symm
  have honce : ∀ n ∈ headerNames, (named n members).length ≤ 1 := by
    intro n _
    by_cases htyp : n = "typ"
    · rcases h.typ with hnone | ⟨s, hone⟩
      · simp [htyp, hnone]
      · simp [htyp, hone]
    · by_cases halg' : n = "alg"
      · simp [halg', halg]
      · simp [hother n htyp halg']
  have hfields : (Json.obj members).fields? headerNames =
      some [(named "typ" members).head?, some alg, none, none, none, none, none, none, none, none] := by
    refine Json.fields?_obj_eq_some_iff.2 ⟨honce, ?_⟩
    simp [headerNames, halg, hother]
  have htyp : isOptional isText (named "typ" members).head? = true := by
    rcases h.typ with hnone | ⟨s, hone⟩
    · rw [hnone]
      rfl
    · rw [hone]
      rfl
  have hchoice : choice? alg = some name := choice?_eq_some_iff.2 hname
  have hnone : ∀ p, isOptional p none = true := fun _ => rfl
  simp [algorithm?, hfields, htyp, hnone, hchoice, hknown]

/-! ### Payloads -/

/-- A number of 64 bits with a sign. -/
def IsLong (n : Int) : Prop := -2 ^ 63 ≤ n ∧ n < 2 ^ 63

theorem int64?_eq_some_iff {j : Json} {n : Int} : int64? j = some n ↔ j = .int n ∧ IsLong n := by
  have hlow : (-Text.wordCount 63 : Int) = -2 ^ 63 := by decide
  have hhigh : (Text.maxWord 63 : Int) = 2 ^ 63 - 1 := by decide
  rw [int64?, Json.intBetween?_eq_some_iff, hlow, hhigh, Int.le_sub_one_iff, IsLong]

/-- The members of a payload give claims: each once, and of its type. -/
structure Gives (members : List (String × Json)) (c : Claims) : Prop where
  sub : named "sub" members = [.str c.sub]
  account : named "account" members = [.str c.account]
  exp : named "exp" members = [.int c.exp] ∧ IsLong c.exp
  iat : named "iat" members = [.int c.iat] ∧ IsLong c.iat

/-- What else is wanted of the members of a payload. -/
structure Regular (members : List (String × Json)) : Prop where
  once : ∀ name ∈ ["nbf", "iss", "aud"], (named name members).length ≤ 1
  nbf : (named "nbf" members).head?.any holdsValues = false

section
variable {members : List (String × Json)} {c : Claims} {aud : Option Json}

theorem gives_of_claims? {j : Json} (h : claims? j = some (c, aud)) :
    ∃ members, j = .obj members ∧ Gives members c ∧ Regular members ∧ (named "aud" members).head? = aud := by
  unfold claims? at h
  split at h
  case h_2 => cases h
  rename_i members
  split at h
  case h_2 => cases h
  rename_i sub account exp iat nbf iss aud' hfields
  obtain ⟨honce, hmembers⟩ := Json.fields?_obj_eq_some_iff.1 hfields
  simp only [List.map_cons, List.map_nil, List.cons.injEq, and_true] at hmembers
  obtain ⟨hsub, haccount, hexp, hiat, hnbf, -, haud⟩ := hmembers
  -- a name that counts occurs at most once, so its first member is its only one
  have hone : ∀ {name value}, name ∈ ["sub", "account", "exp", "iat", "nbf", "iss", "aud"] →
      (named name members).head? = some value → named name members = [value] :=
    fun hname => Json.named_eq_singleton (honce _ hname)
  simp only [Option.bind_eq_bind, Option.pure_def] at h
  split at h
  · cases h
  rename_i hvalues
  simp only [Option.bind_eq_some_iff, text?_eq_some_iff, int64?_eq_some_iff] at h
  obtain ⟨role, rfl, owner, rfl, last, ⟨rfl, hlast⟩, first, ⟨rfl, hfirst⟩, h⟩ := h
  obtain ⟨rfl, rfl⟩ := Prod.mk.inj (Option.some.inj h)
  have hgives : Gives members ⟨role, owner, last, first⟩ :=
    ⟨hone (by decide) hsub, hone (by decide) haccount, ⟨hone (by decide) hexp, hlast⟩,
      ⟨hone (by decide) hiat, hfirst⟩⟩
  have hregular : Regular members := by
    constructor
    · intro name hname
      exact honce name (List.mem_append_right ["sub", "account", "exp", "iat"] hname)
    · rw [hnbf]
      exact Bool.eq_false_iff.2 hvalues
  exact ⟨members, rfl, hgives, hregular, haud⟩

theorem claims?_of_gives (hgives : Gives members c) (hregular : Regular members) :
    claims? (.obj members) = some (c, (named "aud" members).head?) := by
  have honce : ∀ name ∈ ["sub", "account", "exp", "iat", "nbf", "iss", "aud"], (named name members).length ≤ 1 := by
    intro name hname
    have hrest := hregular.once name
    simp only [List.mem_cons, List.not_mem_nil, or_false] at hname hrest
    rcases hname with rfl | rfl | rfl | rfl | hname
    · simp [hgives.sub]
    · simp [hgives.account]
    · simp [hgives.exp.1]
    · simp [hgives.iat.1]
    · exact hrest hname
  have hfields : (Json.obj members).fields? ["sub", "account", "exp", "iat", "nbf", "iss", "aud"] =
      some [some (.str c.sub), some (.str c.account), some (.int c.exp), some (.int c.iat),
        (named "nbf" members).head?, (named "iss" members).head?, (named "aud" members).head?] := by
    refine Json.fields?_obj_eq_some_iff.2 ⟨honce, ?_⟩
    simp [hgives.sub, hgives.account, hgives.exp.1, hgives.iat.1]
  have hexp : int64? (.int c.exp) = some c.exp := int64?_eq_some_iff.2 ⟨rfl, hgives.exp.2⟩
  have hiat : int64? (.int c.iat) = some c.iat := int64?_eq_some_iff.2 ⟨rfl, hgives.iat.2⟩
  simp [claims?, hfields, hregular.nbf, hexp, hiat, Json.text?]

end

/-- A payload with the four claims alone. -/
def PlainPayload (members : List (String × Json)) : Prop :=
  ∀ m ∈ members, m.1 = "sub" ∨ m.1 = "account" ∨ m.1 = "exp" ∨ m.1 = "iat"

theorem PlainPayload.restrict_eq {members : List (String × Json)} (h : PlainPayload members) :
    Json.restrict claimReaders (.obj members) = .obj members := by
  have hcounts : ∀ name ∈ ["sub", "account", "exp", "iat"], Json.counts claimReaders name = true := by decide
  refine Json.restrict_eq_self fun m hm => hcounts m.1 ?_
  simpa using h m hm

theorem PlainPayload.regular {members : List (String × Json)} (h : PlainPayload members) : Regular members := by
  have hnone : ∀ name ∈ ["nbf", "iss", "aud"], named name members = [] := by
    intro name hname
    refine Json.named_eq_nil ?_
    rintro m hm rfl
    rcases h m hm with hm | hm | hm | hm
    all_goals
      rw [hm] at hname
      exact absurd hname (by decide)
  constructor
  · intro name hname
    rw [hnone name hname]
    exact Nat.zero_le 1
  · rw [hnone "nbf" (by decide)]
    rfl

/-- An audience: a string, or a list of strings. -/
inductive IsAudience : Json → Prop
  | text (s : String) : IsAudience (.str s)
  | texts (ss : List String) : IsAudience (.arr (ss.map .str))

theorem isAudience_iff {j : Json} : (isText j || isTexts j) = true ↔ IsAudience j := by
  constructor
  · intro h
    rw [Bool.or_eq_true] at h
    rcases h with h | h
    · obtain ⟨s, hs⟩ := Option.isSome_iff_exists.1 h
      rw [text?_eq_some_iff.1 hs]
      exact .text s
    · obtain ⟨ss, hss⟩ := Option.isSome_iff_exists.1 h
      cases j with
      | arr items =>
        rw [mapM_text?_eq_some_iff.1 hss]
        exact .texts ss
      | _ => cases hss
  · rintro (s | ss)
    · rfl
    · have hread : (ss.map Json.str).mapM Json.text? = some ss := mapM_text?_eq_some_iff.2 rfl
      simp [isText, isTexts, Json.text?, Json.list?, hread]

theorem validate_eq_ok_iff {now : Int} {c c' : Claims} {aud : Option Json} : validate now c aud = .ok c' ↔
    c = c' ∧ 0 ≤ c.exp ∧ now - leeway ≤ c.exp ∧ ∀ j ∈ aud, ¬ IsAudience j := by
  have haud : namesAudience aud = false ↔ ∀ j ∈ aud, ¬ IsAudience j := by
    cases aud with
    | none => simp [namesAudience]
    | some j => simp [namesAudience, ← isAudience_iff]
  unfold validate
  split
  · simp
    omega
  · split
    · simp
      omega
    · split
      · rename_i hnamed
        constructor
        · rintro ⟨⟩
        · rintro ⟨-, -, -, hnone⟩
          rw [← haud, hnamed] at hnone
          cases hnone
      · rename_i hnamed
        have hnone := haud.1 (Bool.eq_false_iff.2 hnamed)
        rw [Except.ok.injEq, and_iff_left]
        exact ⟨by omega, by omega, hnone⟩

/-! ### Tokens -/

def payloadMembers (c : Claims) : List (String × Json) :=
  [("sub", .str c.sub), ("account", .str c.account), ("exp", .int c.exp), ("iat", .int c.iat)]

/-- What is wanted of the parts of a token, of its header and of the members of its payload. -/
structure Accepted (now : Int) (secret : String) (c : Claims) (a : Parts) (header : Json)
    (members : List (String × Json)) : Prop where
  secretSet : secret ≠ ""
  algorithm : ∃ alg, IsAlgorithm header alg ∧ Names "HS256" alg
  signature : a.signature = Text.Base64.encode
    (Digest.hmacSha256 (Text.Utf8.encode secret) (Text.Utf8.encode (String.ofList a.message)))
  claims : Gives members c
  exp : 0 ≤ c.exp ∧ now - 60 ≤ c.exp
  audience : ∀ j ∈ named "aud" members, ¬ IsAudience j

section
variable {now : Int} {secret token : String} {c : Claims}

theorem accepted_of_check (hsecret : secret ≠ "") (h : check now secret token = .ok c) : ∃ a header members,
    FallsInto token a ∧ Carries headerReaders a.header header ∧ Carries claimReaders a.payload (.obj members) ∧
      Accepted now secret c a header members := by
  -- parts, header, algorithm, its name, signature, payload, claims, in the order in which they are looked at
  unfold check at h
  split at h
  · cases h
  rename_i headerPart payloadPart sig hparts
  split at h
  · cases h
  rename_i header hheader
  split at h
  · cases h
  rename_i name halgorithm
  split at h
  · cases h
  rename_i hname
  split at h
  · cases h
  rename_i hsig
  split at h
  · cases h
  rename_i payload hpayload
  split at h
  · cases h
  rename_i aud hclaims
  obtain rfl : name = "HS256" := Decidable.not_not.1 hname
  obtain ⟨rfl, hpositive, hlive, haud⟩ := validate_eq_ok_iff.1 h
  obtain ⟨members, rfl, hgives, hregular, rfl⟩ := gives_of_claims? hclaims
  refine ⟨⟨headerPart, payloadPart, sig⟩, header, members, parts?_eq_some_iff.1 hparts,
    record?_eq_ok_iff.1 hheader, record?_eq_ok_iff.1 hpayload, ?_⟩
  have haudience : ∀ j ∈ named "aud" members, ¬ IsAudience j := by
    intro j hj
    have hlength := hregular.once "aud" (by decide)
    obtain ⟨k, hk⟩ := List.length_eq_one_iff.1 (Nat.le_antisymm hlength (List.length_pos_of_mem hj))
    rw [hk] at hj haud
    rw [List.mem_singleton.1 hj]
    exact haud k rfl
  exact ⟨hsecret, isAlgorithm_of_algorithm? halgorithm, Decidable.not_not.1 hsig, hgives, ⟨hpositive, hlive⟩,
    haudience⟩

/-- Where nothing else stands in the way, these facts suffice. -/
theorem check_of_accepted {a : Parts} {header : Json} {members : List (String × Json)} (hfalls : FallsInto token a)
    (hheader : Carries headerReaders a.header header) (hpayload : Carries claimReaders a.payload (.obj members))
    (h : Accepted now secret c a header members) (halgorithm : algorithm? header = some "HS256")
    (hregular : Regular members) : check now secret token = .ok c := by
  have hparts := parts?_eq_some_iff.2 hfalls
  rw [← record?_eq_ok_iff] at hheader hpayload
  have hsig : a.signature = signature secret (a.header ++ '.' :: a.payload) := h.signature
  have hclaims := claims?_of_gives h.claims hregular
  have hvalid : validate now c (named "aud" members).head? = .ok c :=
    validate_eq_ok_iff.2 ⟨rfl, h.exp.1, h.exp.2, fun j hj => h.audience j (List.mem_of_mem_head? hj)⟩
  simp only [check, hparts, hheader, halgorithm, hpayload, hclaims, hvalid]
  simp [hsig]

theorem verify_eq_ok_iff : verify now secret token = .ok c ↔ secret ≠ "" ∧ check now secret token = .ok c := by
  unfold verify
  split
  · rename_i hsecret
    simp [hsecret]
  · rename_i hsecret
    rw [and_iff_right hsecret]
    split
    · rename_i hcheck
      rw [hcheck, Except.ok.injEq, Except.ok.injEq]
    · rename_i hcheck
      rw [hcheck]
      constructor <;> rintro ⟨⟩

theorem exists_accepted_of_verify (h : verify now secret token = .ok c) : ∃ a header members,
    FallsInto token a ∧ Carries headerReaders a.header header ∧ Carries claimReaders a.payload (.obj members) ∧
      Accepted now secret c a header members := by
  obtain ⟨hsecret, hcheck⟩ := verify_eq_ok_iff.1 h
  exact accepted_of_check hsecret hcheck

theorem verify_of_plain {a : Parts} {header members : List (String × Json)} (hfalls : FallsInto token a)
    (hheader : Says a.header (.obj header)) (hpayload : Says a.payload (.obj members))
    (h : Accepted now secret c a (.obj header) members) (hplain : PlainHeader header)
    (hmembers : PlainPayload members) : verify now secret token = .ok c := by
  obtain ⟨alg, hmember, hname⟩ := h.algorithm
  have halg : named "alg" header = [alg] := by
    cases hmember with
    | member halg => exact halg
  have halgorithm : algorithm? (.obj header) = some "HS256" := algorithm?_of_plain hplain halg hname (by decide)
  have hheader : Carries headerReaders a.header (.obj header) :=
    (hheader.carries_iff readJson_headerReaders).2 hplain.restrict_eq.symm
  have hpayload : Carries claimReaders a.payload (.obj members) :=
    (hpayload.carries_iff readJson_claimReaders).2 hmembers.restrict_eq.symm
  exact verify_eq_ok_iff.2
    ⟨h.secretSet, check_of_accepted hfalls hheader hpayload h halgorithm hmembers.regular⟩

/-- A token that is accepted at some time. -/
def IsAccepted (secret token : String) : Prop := ∃ now c, verify now secret token = .ok c

theorem IsAccepted.signature {a : Parts} (h : IsAccepted secret token) (hfalls : FallsInto token a) :
    a.signature = Token.signature secret a.message := by
  obtain ⟨now, c, hverify⟩ := h
  obtain ⟨b, header, members, hfalls', -, -, haccepted⟩ := exists_accepted_of_verify hverify
  obtain rfl := hfalls.unique hfalls'
  exact haccepted.signature

end

/-- **What is accepted.**  Every accepted token has been checked in full, and every token that passes these checks and
has nothing else in it is accepted.  Of the parts of a token that are JSON text the members that count are those of
the text.  What is signed determines an accepted token, and its signature stays good only for what has that
signature. -/
theorem accepted (secret : String) :
    (∀ now token c, verify now secret token = .ok c → ∃ a header members,
      FallsInto token a ∧ Carries headerReaders a.header header ∧ Carries claimReaders a.payload (.obj members) ∧
        Accepted now secret c a header members) ∧
    (∀ part j, Says part j → ∀ k, (Carries headerReaders part k ↔ k = Json.restrict headerReaders j) ∧
      (Carries claimReaders part k ↔ k = Json.restrict claimReaders j)) ∧
    (∀ now token c a header members, FallsInto token a → Says a.header (.obj header) → Says a.payload (.obj members) →
      Accepted now secret c a (.obj header) members → PlainHeader header → PlainPayload members →
        verify now secret token = .ok c) ∧
    (∀ token token' a a', IsAccepted secret token → IsAccepted secret token' → FallsInto token a →
      FallsInto token' a' → (a.message = a'.message → token = token') ∧
        (a.signature = a'.signature → signature secret a.message = signature secret a'.message)) := by
  refine ⟨fun _ _ _ => exists_accepted_of_verify, ?_, fun _ _ _ _ _ _ => verify_of_plain, ?_⟩
  · intro part j hsaid k
    exact ⟨hsaid.carries_iff readJson_headerReaders, hsaid.carries_iff readJson_claimReaders⟩
  · intro token token' a a' h h' hfalls hfalls'
    have hsignature := h.signature hfalls
    have hsignature' := h'.signature hfalls'
    constructor
    · intro hmessage
      have hsame : a.signature = a'.signature := by rw [hsignature, hsignature', hmessage]
      rw [← String.toList_inj, hfalls.text, hfalls'.text, hmessage, hsame]
    · intro hsame
      rw [← hsignature, ← hsignature', hsame]

/-- A token is accepted for the claims that are read off its payload, whatever else there is in its parts. -/
theorem verify_signedParts {now : Int} {secret : String} {header payload : List UInt8} {h p : Json} {c : Claims}
    (aud : Option Json) (hsecret : secret ≠ "") (hheader : Json.record? headerReaders header = some h)
    (halgorithm : algorithm? h = some "HS256") (hpayload : Json.record? claimReaders payload = some p)
    (hclaims : claims? p = some (c, aud)) (hvalid : validate now c aud = .ok c) :
    verify now secret (signedParts secret header payload).text = .ok c := by
  have hparts := parts?_eq_some_iff.2 (fallsInto_signedParts secret header payload)
  have hheader := record?_eq_ok_iff.2 ⟨header, rfl, hheader⟩
  have hpayload := record?_eq_ok_iff.2 ⟨payload, rfl, hpayload⟩
  refine verify_eq_ok_iff.2 ⟨hsecret, ?_⟩
  rw [check, hparts]
  simp only [signedParts, hheader, halgorithm, hpayload, hclaims, hvalid]
  simp

theorem not_says_of_decode? {bytes : List UInt8} (h : Text.Utf8.decode? bytes = none) (j : Json) :
    ¬ Says (Text.Base64.encode bytes) j := by
  rintro ⟨text, hpart, -⟩
  have hbytes : Text.Base64.decode? (Text.Base64.encode bytes) = some (Text.Utf8.encode text) :=
    Text.Base64.decode?_eq_some_iff.2 hpart
  rw [Text.Base64.decode?_eq_some_iff.2 rfl, Option.some.injEq] at hbytes
  rw [hbytes, Text.Utf8.decode?_eq_some_iff.2 rfl] at h
  cases h

/-- A token whose header names the algorithm as a choice, one whose header is a list, one with a text in its payload
that is not UTF-8 and that nothing asks for, and one whose audience is such a text. -/
theorem accepted_otherwise :
    let c : Claims := ⟨"alice", "cucumber", 0, 0⟩
    let plain := Text.Utf8.encode "\x7b\"alg\":\"HS256\"\x7d"
    let choice := Text.Utf8.encode "\x7b\"alg\":\x7b\"HS256\":null\x7d\x7d"
    let listed := Text.Utf8.encode "[\"JWT\",\"HS256\",null,null,null,null,null,null,null,null]"
    let payload (more : List UInt8) : List UInt8 :=
      Text.Utf8.encode "\x7b\"sub\":\"alice\",\"account\":\"cucumber\",\"exp\":0,\"iat\":0" ++ more ++
        Text.Utf8.encode "\x7d"
    let ends := payload []
    let extra := payload (Text.Utf8.encode ",\"x\":\"" ++ 0xFF :: Text.Utf8.encode "\"")
    let audience := payload (Text.Utf8.encode ",\"aud\":\"" ++ 0xFF :: Text.Utf8.encode "\"")
    (verify 0 "secret" (signedParts "secret" choice ends).text = .ok c ∧
      ∀ members, Says (signedParts "secret" choice ends).header (.obj members) →
        named "alg" members ≠ [.str "HS256"]) ∧
    (verify 0 "secret" (signedParts "secret" listed ends).text = .ok c ∧
      ∀ members, ¬ Says (signedParts "secret" listed ends).header (.obj members)) ∧
    (verify 0 "secret" (signedParts "secret" plain extra).text = .ok c ∧
      ∀ j, ¬ Says (signedParts "secret" plain extra).payload j) ∧
    (verify 0 "secret" (signedParts "secret" plain audience).text = .ok c ∧
      ∀ j, ¬ Says (signedParts "secret" plain audience).payload j) := by
  intro c plain choice listed payload ends extra audience
  have hsecret : "secret" ≠ "" := by decide
  have hplain : Json.record? headerReaders plain = some (.obj [("alg", .str "HS256")]) := rfl
  have hchoice : Json.record? headerReaders choice = some (.obj [("alg", .obj [("HS256", .null)])]) := rfl
  have hlisted : Json.record? headerReaders listed =
      some (.arr (.str "JWT" :: .str "HS256" :: List.replicate 8 .null)) := rfl
  have hends : Json.record? claimReaders ends = some (.obj (payloadMembers c)) := rfl
  have hextra : Json.record? claimReaders extra = some (.obj (payloadMembers c)) := rfl
  have haudience : Json.record? claimReaders audience = some (.obj (payloadMembers c ++ [("aud", .null)])) := rfl
  refine ⟨⟨?_, ?_⟩, ⟨?_, ?_⟩, ⟨?_, not_says_of_decode? rfl⟩, ⟨?_, not_says_of_decode? rfl⟩⟩
  · exact verify_signedParts none hsecret hchoice rfl hends rfl rfl
  · intro members hsaid halg
    have hsame := (hsaid.carries_iff readJson_headerReaders).1 ⟨choice, rfl, hchoice⟩
    have hfilter := Json.obj.inj hsame
    have hcounts : Json.counts headerReaders "alg" = true := by decide
    rw [← Json.named_filter hcounts, ← hfilter] at halg
    cases halg
  · exact verify_signedParts none hsecret hlisted rfl hends rfl rfl
  · intro members hsaid
    have hsame := (hsaid.carries_iff readJson_headerReaders).1 ⟨listed, rfl, hlisted⟩
    cases hsame
  · exact verify_signedParts none hsecret hplain rfl hextra rfl rfl
  · exact verify_signedParts (some .null) hsecret hplain rfl haudience rfl rfl

end Token
end Postern
