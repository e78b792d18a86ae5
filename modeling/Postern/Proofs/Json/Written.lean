import Postern.Proofs.Json.Quoted
import Postern.Proofs.Text.Number

/-!
JSON text read back, from its bytes.  `Takes` says what a reader makes of a text whatever ends it.  Scalars are taken
for themselves, and a container is taken for its items if each of them is (`items?_followers`).  The two ways to write
a value differ only in where they put blanks, and blanks are passed over (`Layout.Writes.takes`).  So the text of a
value is read as that value, on one line (`read?_compact`) or over several (`read?_pretty_line`), as long as its
integers and its nesting are such that they are read at all (`Fits`).
-/

namespace Postern.Json

/-! ### Behind a value -/

/-- What stands behind a value: nothing, a blank, or a mark of the container around it. -/
def Ends (rest : List Char) : Prop := ∀ c ∈ rest.head?, isSpace c = true ∨ c = ',' ∨ c = ']' ∨ c = '\x7d'

theorem ends_nil : Ends [] := fun _ h => nomatch h

theorem ends_comma (rest : List Char) : Ends (',' :: rest) := by
  rintro c ⟨⟩
  exact .inr (.inl rfl)

/-- Blanks and the mark behind them end a value. -/
theorem ends_blanks {blanks rest : List Char} {close : Char} (hblanks : ∀ c ∈ blanks, isSpace c = true)
    (hclose : close = ']' ∨ close = '\x7d') : Ends (blanks ++ close :: rest) := by
  intro c hc
  cases blanks with
  | nil =>
    obtain rfl : close = c := Option.some.inj hc
    exact .inr (.inr hclose)
  | cons b bs =>
    obtain rfl : b = c := Option.some.inj hc
    exact .inl (hblanks _ List.mem_cons_self)

theorem Ends.head {c : Char} {rest : List Char} (h : Ends (c :: rest)) :
    Text.isDigit c = false ∧ c ≠ '.' ∧ c ≠ 'e' ∧ c ≠ 'E' := by
  rcases h c rfl with hspace | rfl | rfl | rfl
  · simp only [isSpace, Bool.or_eq_true, decide_eq_true_eq] at hspace
    rcases hspace with ((rfl | rfl) | rfl) | rfl <;> decide
  all_goals decide

theorem toNat_lt_of_isSpace {c : Char} (h : isSpace c = true) : c.toNat < 0x80 := by
  simp only [isSpace, Bool.or_eq_true, decide_eq_true_eq] at h
  rcases h with ((rfl | rfl) | rfl) | rfl <;> decide

/-- A reader takes a text for `x`, whatever ends it. -/
def Takes {α : Type} (reader : List Char → Option (α × List Char)) (text : List Char) (x : α) : Prop :=
  ∀ rest, Ends rest → reader (text ++ rest) = some (x, rest)

/-! ### Numbers -/

section Number
variable {rest : List Char} (h : Ends rest)
include h

theorem digits_decimal (n : Nat) : digits (Text.decimal n ++ rest) = (Text.decimal n, rest) := by
  have hall : ∀ c ∈ Text.decimal n, Text.isDigit c = true := fun c => Text.isDigit_of_mem_decimal
  rw [digits, List.takeWhile_append_of_pos hall, List.dropWhile_append_of_pos hall]
  cases rest with
  | nil => simp
  | cons c rest => simp [h.head.1]

theorem whole?_decimal (n : Nat) : whole? (Text.decimal n ++ rest) = some (Text.decimal n, rest) := by
  rw [whole?, digits_decimal h]
  rcases Text.decimal_cases n with ⟨-, hd⟩ | ⟨-, c, cs, hd, hc⟩
  · rw [hd]
    rfl
  · rw [hd]
    simp [hc]

theorem fraction?_of_ends : fraction? rest = some ([], rest) := by
  cases rest with
  | nil => rfl
  | cons c rest =>
    obtain ⟨-, hpoint, -⟩ := h.head
    simp [fraction?, hpoint]

theorem exponent?_of_ends : exponent? rest = some ([], rest) := by
  cases rest with
  | nil => rfl
  | cons c rest =>
    obtain ⟨-, -, he, hE⟩ := h.head
    simp [exponent?, he, hE]

end Number

/-- An integer that is read as one. -/
def IsWord (n : Int) : Prop := -(Text.wordCount 63 : Int) ≤ n ∧ n ≤ (Text.maxWord 64 : Int)

theorem head_decimal (n : Nat) : ∃ c cs, Text.decimal n = c :: cs ∧ Text.isDigit c = true := by
  rcases Text.decimal_cases n with ⟨-, hd⟩ | ⟨-, c, cs, hd, -⟩
  · exact ⟨'0', [], hd, by decide⟩
  · exact ⟨c, cs, hd, Text.isDigit_of_mem_decimal (hd ▸ List.mem_cons_self)⟩

theorem toNat_lt_of_mem_signedDecimal {n : Int} {c : Char} (h : c ∈ Text.signedDecimal n) : c.toNat < 0x80 := by
  have hdigits : ∀ {m}, c ∈ Text.decimal m → c.toNat < 0x80 := by
    intro m hc
    have hdigit := Text.isDigit_of_mem_decimal hc
    simp only [Text.isDigit, Bool.and_eq_true, decide_eq_true_eq] at hdigit
    have hle : c.toNat ≤ 0x39 := hdigit.2
    omega
  cases n with
  | ofNat n => exact hdigits h
  | negSucc n =>
    rcases List.mem_cons.1 h with rfl | h
    · decide
    · exact hdigits h

theorem number?_decimal {n : Nat} (hn : n ≤ Text.maxWord 64) : Takes number? (Text.decimal n) (.int n) := by
  intro rest h
  obtain ⟨c, cs, hd, hc⟩ := head_decimal n
  have hwhole := whole?_decimal h n
  have hsign : c ≠ '-' := by
    rintro rfl
    exact absurd hc (by decide)
  have hvalue : Numeral.value? ⟨false, c :: cs, [], []⟩ = some (.int n) := by
    rw [← hd, Numeral.value?, List.append_nil, Text.numeral?_decimal]
    simp [hn]
  rw [hd, List.cons_append] at hwhole
  rw [hd, List.cons_append]
  simp [number?, numeral?, hsign, hwhole, fraction?_of_ends h, exponent?_of_ends h, hvalue]

theorem number?_negative {n : Nat} (hpos : 0 < n) (hn : n ≤ Text.wordCount 63) :
    Takes number? ('-' :: Text.decimal n) (.int (-n)) := by
  intro rest h
  have hvalue : Numeral.value? ⟨true, Text.decimal n, [], []⟩ = some (.int (-n)) := by
    rw [Numeral.value?, List.append_nil, Text.numeral?_decimal]
    simp [hpos, hn]
  rw [List.cons_append]
  simp [number?, numeral?, whole?_decimal h, fraction?_of_ends h, exponent?_of_ends h, hvalue]

/-- **An integer is taken for itself.** -/
theorem number?_signedDecimal {n : Int} (hn : IsWord n) : Takes number? (Text.signedDecimal n) (.int n) := by
  obtain ⟨hlow, hhigh⟩ := hn
  cases n with
  | ofNat n => exact number?_decimal (Int.ofNat_le.1 hhigh)
  | negSucc n => exact number?_negative n.succ_pos (by omega)

/-! ### Containers -/

section Items
variable {α : Type} {item : List Char → Option (α × List Char)} {close : Char}

theorem skip_blanks {blanks : List Char} (h : ∀ c ∈ blanks, isSpace c = true) (cs : List Char) :
    skip (blanks ++ cs) = skip cs :=
  List.dropWhile_append_of_pos h

theorem skip_of_not_space {c : Char} (h : isSpace c = false) (cs : List Char) : skip (c :: cs) = c :: cs := by
  simp [skip, h]

theorem skip_skip (cs : List Char) : skip (skip cs) = skip cs := by
  induction cs with
  | nil => rfl
  | cons c cs ih =>
    cases hc : isSpace c with
    | true =>
      have hskip : skip (c :: cs) = skip cs := by simp [skip, hc]
      rw [hskip, ih]
    | false => rw [skip_of_not_space hc, skip_of_not_space hc]

theorem skip_close (h : close = ']' ∨ close = '\x7d') (cs : List Char) : skip (close :: cs) = close :: cs := by
  rcases h with rfl | rfl <;> rfl

/-- A reader of items that skips blanks, and does not take the end of a container for an item. -/
structure IsItem (item : List Char → Option (α × List Char)) (close : Char) : Prop where
  bracket : close = ']' ∨ close = '\x7d'
  skip : ∀ cs, item (skip cs) = item cs
  nil : item [] = none
  closed : ∀ cs, item (close :: cs) = none

/-- Items with a comma before each of them. -/
def followers (ps : List (List Char × α)) : List Char := ps.flatMap fun p => ',' :: p.1

variable (hitem : IsItem item close) {blanks : List Char} (hblanks : ∀ c ∈ blanks, isSpace c = true)
include hitem hblanks

theorem ends_followers (ps : List (List Char × α)) (rest : List Char) :
    Ends (followers ps ++ (blanks ++ close :: rest)) := by
  cases ps with
  | nil => exact ends_blanks hblanks hitem.bracket
  | cons p ps => exact ends_comma _

theorem moreItems?_followers (rest : List Char) {ps : List (List Char × α)} (hps : ∀ p ∈ ps, Takes item p.1 p.2)
    {fuel : Nat} (hfuel : ps.length < fuel) :
    moreItems? item close fuel (followers ps ++ (blanks ++ close :: rest)) = some (ps.map (·.2), rest) := by
  obtain ⟨fuel, rfl⟩ : ∃ k, fuel = k + 1 := ⟨fuel - 1, by omega⟩
  induction ps generalizing fuel with
  | nil =>
    have hskip : skip (blanks ++ close :: rest) = close :: rest := by
      rw [skip_blanks hblanks, skip_close hitem.bracket]
    simp [followers, moreItems?, hskip]
  | cons p ps ih =>
    obtain ⟨hp, hps⟩ := List.forall_mem_cons.1 hps
    rw [List.length_cons] at hfuel
    obtain ⟨fuel, rfl⟩ : ∃ k, fuel = k + 1 := ⟨fuel - 1, by omega⟩
    have hrest := ih hps fuel (by omega)
    have hfirst := hp _ (ends_followers hitem hblanks ps rest)
    have hcomma : ',' ≠ close := by
      rcases hitem.bracket with rfl | rfl <;> decide
    have htext : followers (p :: ps) ++ (blanks ++ close :: rest) =
        ',' :: (p.1 ++ (followers ps ++ (blanks ++ close :: rest))) := by
      simp [followers]
    rw [htext, moreItems?, skip_of_not_space (by decide)]
    simp [hcomma, hfirst, hrest]

omit hitem hblanks in
theorem length_lt_followers (ps : List (List Char × α)) (rest : List Char) :
    ps.length < (followers ps ++ (blanks ++ close :: rest)).length := by
  have hle : ps.length ≤ (followers ps).length := by
    induction ps with
    | nil => exact Nat.le_refl _
    | cons p ps ih =>
      rw [followers, List.flatMap_cons, List.length_append, List.length_cons, List.length_cons]
      have : (ps.flatMap fun p => ',' :: p.1).length = (followers ps).length := rfl
      omega
  simp only [List.length_append, List.length_cons]
  omega

/-- **A container is taken for its items.** -/
theorem items?_followers (rest : List Char) {p : List Char × α} {ps : List (List Char × α)}
    (hps : ∀ q ∈ p :: ps, Takes item q.1 q.2) :
    items? item close (p.1 ++ (followers ps ++ (blanks ++ close :: rest))) = some (p.2 :: ps.map (·.2), rest) := by
  obtain ⟨hp, hps⟩ := List.forall_mem_cons.1 hps
  have hfirst := hp _ (ends_followers hitem hblanks ps rest)
  have hfuel : ps.length < (followers ps ++ (blanks ++ close :: rest)).length + 1 :=
    Nat.lt_succ_of_lt (length_lt_followers ps rest)
  have hmore := moreItems?_followers hitem hblanks rest hps hfuel
  rw [← hitem.skip] at hfirst
  unfold items?
  cases hs : skip (p.1 ++ (followers ps ++ (blanks ++ close :: rest))) with
  | nil =>
    rw [hs, hitem.nil] at hfirst
    cases hfirst
  | cons c cs =>
    have hc : c ≠ close := by
      rintro rfl
      rw [hs, hitem.closed] at hfirst
      cases hfirst
    rw [hs] at hfirst
    simp only [hc, if_false, hfirst]
    rw [hmore]
    rfl

end Items

/-! ### Values -/

abbrev memberAt? (depth : Nat) : List Char → Option ((String × Json) × List Char) :=
  memberOf? string? fun _ => value? depth

theorem value?_skip (depth : Nat) (cs : List Char) : value? depth (skip cs) = value? depth cs := by
  cases depth <;> simp only [value?, skip_skip]

/-- Whatever begins as a number is read as one. -/
theorem value?_of_digit (depth : Nat) {c : Char} (hc : Text.isDigit c = true ∨ c = '-') (cs : List Char) :
    value? depth (c :: cs) = number? (c :: cs) := by
  have hne : ∀ a, Text.isDigit a = false ∧ a ≠ '-' → c ≠ a := by
    rintro a ⟨hdigit, hsign⟩ rfl
    rcases hc with hc | hc
    · rw [hdigit] at hc
      cases hc
    · exact hsign hc
  have hn := hne 'n' (by decide)
  have ht := hne 't' (by decide)
  have hf := hne 'f' (by decide)
  have hquote := hne '\x22' (by decide)
  have harr := hne '[' (by decide)
  have hobj := hne '\x7b' (by decide)
  have hspace : isSpace c = false := by
    have hblank := hne ' ' (by decide)
    have htab := hne '\t' (by decide)
    have hline := hne '\n' (by decide)
    have hreturn := hne '\r' (by decide)
    simp [isSpace, hblank, htab, hline, hreturn]
  have hlead : lead (c :: cs) = (.other, c :: cs) := by simp [lead, hn, ht, hf, hquote, harr, hobj]
  cases depth <;> simp only [value?, skip_of_not_space hspace, hlead]

theorem isItem_value (depth : Nat) {close : Char} (hclose : close = ']' ∨ close = '\x7d') :
    IsItem (value? depth) close := by
  refine ⟨hclose, value?_skip depth, ?_, fun cs => ?_⟩
  · cases depth <;> rfl
  · rcases hclose with rfl | rfl <;> cases depth <;> rfl

theorem isItem_member {ν α : Type} (name : List Char → Option (ν × List Char))
    (value : ν → List Char → Option (α × List Char)) : IsItem (memberOf? name value) '\x7d' :=
  ⟨.inr rfl, fun cs => by simp only [memberOf?, skip_skip], rfl, fun _ => rfl⟩

section Values
variable {depth : Nat} {text : List Char} {j : Json} {blanks : List Char}

theorem value?_quoted (depth : Nat) (s : String) : Takes (value? depth) (wire (quoted s)) (.str s) := by
  intro rest _
  have hread := string?_quoted s rest
  rw [wire_quoted_append]
  cases depth <;> simp [value?, skip_of_not_space, isSpace, lead, hread]

theorem value?_signedDecimal (depth : Nat) {n : Int} (hn : IsWord n) :
    Takes (value? depth) (Text.signedDecimal n) (.int n) := by
  intro rest h
  have hread := number?_signedDecimal hn rest h
  obtain ⟨c, cs, htext, hc⟩ : ∃ c cs, Text.signedDecimal n = c :: cs ∧ (Text.isDigit c = true ∨ c = '-') := by
    cases n with
    | ofNat n =>
      obtain ⟨c, cs, hd, hc⟩ := head_decimal n
      exact ⟨c, cs, hd, .inl hc⟩
    | negSucc n => exact ⟨'-', _, rfl, .inr rfl⟩
  rw [htext, List.cons_append] at hread ⊢
  rw [value?_of_digit depth hc, hread]

theorem memberOf?_quoted (hblanks : ∀ c ∈ blanks, isSpace c = true) (name : String)
    (h : Takes (value? depth) text j) :
    Takes (memberAt? depth) (blanks ++ (wire (quoted name) ++ ':' :: text)) (name, j) := by
  intro rest hrest
  have hname := string?_quoted name (':' :: (text ++ rest))
  have hvalue := h rest hrest
  have htext : blanks ++ (wire (quoted name) ++ ':' :: text) ++ rest =
      blanks ++ '\x22' :: (wire (name.toList.flatMap escape) ++ '\x22' :: ':' :: (text ++ rest)) := by
    rw [← wire_quoted_append]
    simp
  rw [htext, memberAt?, memberOf?, skip_blanks hblanks, skip_of_not_space (by decide)]
  simp only [hname]
  rw [skip_of_not_space (by decide)]
  simp [hvalue]

theorem value?_arr (hblanks : ∀ c ∈ blanks, isSpace c = true) {p : List Char × Json} {ps : List (List Char × Json)}
    (hps : ∀ q ∈ p :: ps, Takes (value? depth) q.1 q.2) :
    Takes (value? (depth + 1)) ('[' :: (p.1 ++ (followers ps ++ (blanks ++ [']'])))) (.arr (p.2 :: ps.map (·.2))) := by
  intro rest _
  have hitems := items?_followers (isItem_value depth (.inl rfl)) hblanks rest hps
  have htext : '[' :: (p.1 ++ (followers ps ++ (blanks ++ [']']))) ++ rest =
      '[' :: (p.1 ++ (followers ps ++ (blanks ++ ']' :: rest))) := by simp
  rw [htext, value?, skip_of_not_space (by decide)]
  simp [lead, hitems]

theorem value?_obj (hblanks : ∀ c ∈ blanks, isSpace c = true) {p : List Char × (String × Json)}
    {ps : List (List Char × (String × Json))} (hps : ∀ q ∈ p :: ps, Takes (memberAt? depth) q.1 q.2) :
    Takes (value? (depth + 1)) ('\x7b' :: (p.1 ++ (followers ps ++ (blanks ++ ['\x7d']))))
      (.obj (p.2 :: ps.map (·.2))) := by
  intro rest _
  have hitems := items?_followers (isItem_member string? fun _ => value? depth) hblanks rest hps
  have htext : '\x7b' :: (p.1 ++ (followers ps ++ (blanks ++ ['\x7d']))) ++ rest =
      '\x7b' :: (p.1 ++ (followers ps ++ (blanks ++ '\x7d' :: rest))) := by simp
  rw [htext, value?, skip_of_not_space (by decide)]
  simp [lead, hitems]

theorem value?_blanks (hblanks : ∀ c ∈ blanks, isSpace c = true) (h : Takes (value? depth) text j) :
    Takes (value? depth) (blanks ++ text) j := by
  intro rest hrest
  rw [List.append_assoc, ← value?_skip, skip_blanks hblanks, value?_skip]
  exact h rest hrest

end Values

/-! ### Layouts -/

/-- A value that is read back: no deeper than `depth`, with integers that are read as such and without other numbers. -/
def Fits : Nat → Json → Prop
  | _, .null | _, .bool _ | _, .str _ => True
  | _, .int n => IsWord n
  | _, .real _ => False
  | 0, .arr _ | 0, .obj _ => False
  | depth + 1, .arr items => ∀ j ∈ items, Fits depth j
  | depth + 1, .obj members => ∀ m ∈ members, Fits depth m.2

/-- A value that holds no other. -/
def IsScalar : Json → Prop
  | .arr (_ :: _) | .obj (_ :: _) => False
  | _ => True

theorem value?_scalar :
    ∀ (depth : Nat) (j : Json), Fits depth j → IsScalar j → Takes (value? depth) (wire (scalar j)) j
  | depth, .null, _, _ => fun rest _ => by cases depth <;> rfl
  | depth, .bool true, _, _ => fun rest _ => by cases depth <;> rfl
  | depth, .bool false, _, _ => fun rest _ => by cases depth <;> rfl
  | depth, .int n, h, _ => by
    have hn : IsWord n := by cases depth <;> exact h
    rw [scalar, wire_ascii (fun c => toNat_lt_of_mem_signedDecimal)]
    exact value?_signedDecimal depth hn
  | depth, .real _, h, _ => by cases depth <;> exact h.elim
  | depth, .str s, _, _ => value?_quoted depth s
  | _ + 1, .arr [], _, _ => fun _ _ => rfl
  | _ + 1, .obj [], _, _ => fun _ _ => rfl

/-- The blanks in a container at each depth: before an item, behind the colon of a member, and before the bracket that
ends it. -/
structure Layout where
  item : Nat → List Char
  colon : List Char
  close : Nat → List Char

namespace Layout
variable (l : Layout) (chars : Nat → Json → List Char)

/-- An item of a container at depth `n`. -/
def itemText (n : Nat) (j : Json) : List Char := l.item n ++ chars (n + 1) j

/-- A member of a container at depth `n`. -/
def memberText (n : Nat) (m : String × Json) : List Char :=
  l.item n ++ (wire (quoted m.1) ++ ':' :: (l.colon ++ chars (n + 1) m.2))

/-- Values are written in a layout, here as they are read. -/
structure Writes : Prop where
  item : ∀ n, ∀ c ∈ l.item n, isSpace c = true
  colon : ∀ c ∈ l.colon, isSpace c = true
  close : ∀ n, ∀ c ∈ l.close n, isSpace c = true
  scalar : ∀ n j, IsScalar j → chars n j = wire (Json.scalar j)
  arr : ∀ n j js, chars n (.arr (j :: js)) =
    '[' :: (l.itemText chars n j ++ (followers (js.map fun j => (l.itemText chars n j, j)) ++ (l.close n ++ [']'])))
  obj : ∀ n m ms, chars n (.obj (m :: ms)) =
    '\x7b' :: (l.memberText chars n m ++
      (followers (ms.map fun m => (l.memberText chars n m, m)) ++ (l.close n ++ ['\x7d'])))

variable {l chars}

theorem Writes.takes_scalar (h : l.Writes chars) {depth n : Nat} {j : Json} (hfits : Fits depth j)
    (hscalar : IsScalar j) : Takes (value? depth) (chars n j) j := by
  rw [h.scalar n j hscalar]
  exact value?_scalar depth j hfits hscalar

/-- **What is written in a layout is taken for the value that was written.** -/
theorem Writes.takes (h : l.Writes chars) :
    ∀ (depth n : Nat) (j : Json), Fits depth j → Takes (value? depth) (chars n j) j
  | _, _, .null, hfits | _, _, .bool _, hfits | _, _, .int _, hfits | _, _, .real _, hfits | _, _, .str _, hfits
  | _, _, .arr [], hfits | _, _, .obj [], hfits => h.takes_scalar hfits trivial
  | depth + 1, n, .arr (j :: js), hfits => by
    have hitems : ∀ q ∈ (j :: js).map fun j => (l.itemText chars n j, j), Takes (value? depth) q.1 q.2 := by
      intro q hq
      obtain ⟨j', hj', rfl⟩ := List.mem_map.1 hq
      exact value?_blanks (h.item n) (Writes.takes h depth (n + 1) j' (hfits j' hj'))
    have harr := value?_arr (h.close n) hitems
    rw [h.arr]
    simpa [Function.comp_def] using harr
  | depth + 1, n, .obj (m :: ms), hfits => by
    have hmembers : ∀ q ∈ (m :: ms).map fun m => (l.memberText chars n m, m),
        Takes (memberAt? depth) q.1 q.2 := by
      intro q hq
      obtain ⟨m', hm', rfl⟩ := List.mem_map.1 hq
      have hvalue := value?_blanks h.colon (Writes.takes h depth (n + 1) m'.2 (hfits m' hm'))
      exact memberOf?_quoted (h.item n) m'.1 hvalue
    have hobj := value?_obj (h.close n) hmembers
    rw [h.obj]
    simpa [Function.comp_def] using hobj

end Layout

/-- A text that is taken for a value is read as that value, with blanks behind it or without. -/
theorem readWithin?_of_takes {depth : Nat} {s : String} {blanks : List Char} {j : Json}
    (h : Takes (value? depth) (wire s.toList) j) (hblanks : ∀ c ∈ blanks, isSpace c = true) :
    readWithin? depth (s ++ String.ofList blanks) = some j := by
  have hends : Ends blanks := fun c hc => .inl (hblanks c (List.mem_of_mem_head? hc))
  have hskip : skip blanks = [] := by
    have hnil := skip_blanks hblanks []
    rwa [List.append_nil] at hnil
  have hwire : Text.Utf8.octets (Text.Utf8.encode (s ++ String.ofList blanks)) = wire s.toList ++ blanks := by
    have hascii : wire blanks = blanks := wire_ascii fun c hc => toNat_lt_of_isSpace (hblanks c hc)
    rw [Text.Utf8.encode, String.toList_append, String.toList_ofList]
    exact (wire_append _ _).trans (by rw [hascii])
  rw [readWithin?, readBytes?, hwire, h blanks hends]
  exact if_pos hskip

/-! ### Text without blanks -/

/-- No blanks at all. -/
def compactLayout : Layout := ⟨fun _ => [], [], fun _ => []⟩

theorem wire_compactItems (js : List Json) :
    wire (compactItems js) = followers (js.map fun j => (wire (compactChars j), j)) ++ [']'] := by
  induction js with
  | nil => exact wire_ascii (List.forall_mem_singleton.2 (by decide))
  | cons j js ih =>
    rw [compactItems, wire_cons (by decide), wire_append, ih]
    simp [followers]

theorem wire_compactMembers (ms : List (String × Json)) : wire (compactMembers ms) =
    followers (ms.map fun m => (wire (quoted m.1) ++ ':' :: wire (compactChars m.2), m)) ++ ['\x7d'] := by
  induction ms with
  | nil => exact wire_ascii (List.forall_mem_singleton.2 (by decide))
  | cons m ms ih =>
    obtain ⟨n, j⟩ := m
    rw [compactMembers, wire_cons (by decide), wire_append, wire_cons (by decide), wire_append, ih]
    simp [followers]

theorem writes_compactChars : compactLayout.Writes fun _ j => wire (compactChars j) where
  item _ _ h := absurd h List.not_mem_nil
  colon _ h := absurd h List.not_mem_nil
  close _ _ h := absurd h List.not_mem_nil
  scalar _ j h := by
    unfold compactChars
    split
    · exact h.elim
    · exact h.elim
    · rfl
  arr _ j js := by
    rw [compactChars, wire_cons (by decide), wire_append, wire_compactItems]
    rfl
  obj _ m ms := by
    rw [compactChars, wire_cons (by decide), wire_append, wire_cons (by decide), wire_append, wire_compactMembers]
    simp [Layout.memberText, compactLayout]

/-- **The text of a value is taken for that value.** -/
theorem value?_compactChars (depth : Nat) (j : Json) (h : Fits depth j) :
    Takes (value? depth) (wire (compactChars j)) j :=
  writes_compactChars.takes depth 0 j h

theorem readWithin?_compact {depth : Nat} {j : Json} (h : Fits depth j) : readWithin? depth j.compact = some j := by
  have htakes : Takes (value? depth) (wire j.compact.toList) j := by
    rw [compact, String.toList_ofList]
    exact value?_compactChars depth j h
  have hread := readWithin?_of_takes htakes (fun c (hc : c ∈ []) => absurd hc List.not_mem_nil)
  rwa [String.ofList_nil, String.append_empty] at hread

/-- **The text of a value is read as that value.** -/
theorem read?_compact {j : Json} (h : Fits maxDepth j) : read? j.compact = some j := readWithin?_compact h

/-! ### Text over several lines -/

/-- Items on lines of their own. -/
def prettyLayout : Layout := ⟨fun n => newLine (n + 1), [' '], newLine⟩

theorem isSpace_of_mem_newLine {n : Nat} {c : Char} (h : c ∈ newLine n) : isSpace c = true := by
  rcases List.mem_cons.1 h with rfl | h
  · rfl
  · rw [List.eq_of_mem_replicate h]
    rfl

theorem wire_newLine (n : Nat) : wire (newLine n) = newLine n :=
  wire_ascii fun _ hc => toNat_lt_of_isSpace (isSpace_of_mem_newLine hc)

/-- Values over several lines, as they are read. -/
def prettyWire (n : Nat) (j : Json) : List Char := wire (prettyChars n j)

theorem wire_prettyItems (n : Nat) (js : List Json) : wire (prettyItems n js) =
    followers (js.map fun j => (prettyLayout.itemText prettyWire n j, j)) ++ (newLine n ++ [']']) := by
  induction js with
  | nil => rw [prettyItems, wire_append, wire_newLine, wire_ascii (List.forall_mem_singleton.2 (by decide))]; rfl
  | cons j js ih =>
    rw [prettyItems, wire_cons (by decide), wire_append, wire_append, wire_newLine, ih]
    simp [followers, Layout.itemText, prettyLayout, prettyWire]

theorem wire_prettyMembers (n : Nat) (ms : List (String × Json)) : wire (prettyMembers n ms) =
    followers (ms.map fun m => (prettyLayout.memberText prettyWire n m, m)) ++ (newLine n ++ ['\x7d']) := by
  induction ms with
  | nil => rw [prettyMembers, wire_append, wire_newLine, wire_ascii (List.forall_mem_singleton.2 (by decide))]; rfl
  | cons m ms ih =>
    obtain ⟨name, j⟩ := m
    rw [prettyMembers, wire_cons (by decide), wire_append, wire_append, wire_newLine, wire_cons (by decide),
      wire_cons (by decide), wire_append, ih]
    simp [followers, Layout.memberText, prettyLayout, prettyWire]

theorem writes_prettyWire : prettyLayout.Writes prettyWire where
  item _ _ h := isSpace_of_mem_newLine h
  colon c h := by
    rw [List.mem_singleton.1 h]
    rfl
  close _ _ h := isSpace_of_mem_newLine h
  scalar n j h := by
    unfold prettyWire prettyChars
    split
    · exact h.elim
    · exact h.elim
    · rfl
  arr n j js := by
    rw [prettyWire, prettyChars, wire_cons (by decide), wire_append, wire_append, wire_newLine, wire_prettyItems]
    simp [Layout.itemText, prettyLayout, prettyWire]
  obj n m ms := by
    rw [prettyWire, prettyChars, wire_cons (by decide), wire_append, wire_append, wire_newLine,
      wire_cons (by decide), wire_cons (by decide), wire_append, wire_prettyMembers]
    simp [Layout.memberText, prettyLayout, prettyWire]

/-- **A document on lines of its own is read as the value that it shows.** -/
theorem read?_pretty_line {j : Json} (h : Fits maxDepth j) : read? (j.pretty ++ "\n") = some j := by
  have htakes : Takes (value? maxDepth) (wire j.pretty.toList) j := by
    rw [pretty, String.toList_ofList]
    exact writes_prettyWire.takes maxDepth 0 j h
  have hline : ∀ c ∈ ['\n'], isSpace c = true := List.forall_mem_singleton.2 rfl
  exact readWithin?_of_takes htakes hline

end Postern.Json
