/-!
Finite maps as lists of entries.  Every operation is described by what `find?` gives afterwards.
-/

namespace Postern.Store

/-- A finite map; of entries with one key the first counts. -/
structure Table (κ ν : Type) where
  entries : List (κ × ν)
  deriving Repr

namespace Table
variable {κ ν : Type}

/-- The map without entries. -/
def empty : Table κ ν := ⟨[]⟩

instance : Inhabited (Table κ ν) := ⟨empty⟩

def filterKeys (keep : κ → Bool) (t : Table κ ν) : Table κ ν := ⟨t.entries.filter fun e => keep e.1⟩

variable [DecidableEq κ]

/-- The value of the first entry with key `k`. -/
def findIn (k : κ) : List (κ × ν) → Option ν
  | [] => none
  | (k', v) :: es => if k' = k then some v else findIn k es

def find? (t : Table κ ν) (k : κ) : Option ν := findIn k t.entries

/-- Entries with the value of `k` replaced, or with a new entry at the end. -/
def insertIn (k : κ) (v : ν) : List (κ × ν) → List (κ × ν)
  | [] => [(k, v)]
  | (k', v') :: es => if k' = k then (k, v) :: es else (k', v') :: insertIn k v es

/-- Gives a key a value. -/
def insert (t : Table κ ν) (k : κ) (v : ν) : Table κ ν := ⟨insertIn k v t.entries⟩

/-- The map that pairs give when they are inserted one after another. -/
def ofList (ps : List (κ × ν)) : Table κ ν := ps.foldl (fun t p => t.insert p.1 p.2) empty

@[simp] theorem find?_empty (k : κ) : (empty : Table κ ν).find? k = none := rfl

theorem findIn_insertIn (k k' : κ) (v : ν) (es : List (κ × ν)) :
    findIn k' (insertIn k v es) = if k = k' then some v else findIn k' es := by
  induction es with
  | nil => simp [insertIn, findIn]
  | cons e es ih =>
    obtain ⟨k₀, v₀⟩ := e
    by_cases h : k₀ = k
    · subst h
      by_cases h' : k₀ = k' <;> simp [insertIn, findIn, h']
    · by_cases h' : k₀ = k'
      · subst h'
        simp [insertIn, findIn, h, Ne.symm h]
      · simp [insertIn, findIn, h, h', ih]

@[simp] theorem find?_insert (t : Table κ ν) (k k' : κ) (v : ν) :
    (t.insert k v).find? k' = if k = k' then some v else t.find? k' :=
  findIn_insertIn k k' v t.entries

theorem findIn_filter (keep : κ → Bool) (k : κ) (es : List (κ × ν)) :
    findIn k (es.filter fun e => keep e.1) = if keep k then findIn k es else none := by
  induction es with
  | nil => simp [findIn]
  | cons e es ih =>
    obtain ⟨k₀, v₀⟩ := e
    by_cases hk : keep k₀ <;> by_cases h : k₀ = k
    · subst h; simp [findIn, hk]
    · simp [findIn, hk, h, ih]
    · subst h; simp [hk, ih]
    · simp [findIn, hk, h, ih]

@[simp] theorem find?_filterKeys (keep : κ → Bool) (t : Table κ ν) (k : κ) :
    (t.filterKeys keep).find? k = if keep k then t.find? k else none :=
  findIn_filter keep k t.entries

theorem ofList_concat (ps : List (κ × ν)) (k : κ) (v : ν) : ofList (ps ++ [(k, v)]) = (ofList ps).insert k v := by
  rw [ofList, List.foldl_append]
  rfl

theorem find?_foldl_insert (ps : List (κ × ν)) (t : Table κ ν) (k : κ) :
    (ps.foldl (fun t p => t.insert p.1 p.2) t).find? k = (ps.reverse.lookup k).or (t.find? k) := by
  induction ps generalizing t with
  | nil => rfl
  | cons p ps ih =>
    obtain ⟨k', v⟩ := p
    rw [List.foldl_cons, ih, List.reverse_cons, List.lookup_append, Option.or_assoc, find?_insert]
    by_cases h : k' = k
    · subst h
      rw [if_pos rfl, List.lookup_cons_self, Option.some_or]
    · have hother : (k == k') = false := beq_false_of_ne (Ne.symm h)
      rw [if_neg h, List.lookup_cons, hother, List.lookup_nil, Option.none_or]

/-- Of pairs with one key the last counts. -/
theorem find?_ofList (ps : List (κ × ν)) (k : κ) : (ofList ps).find? k = ps.reverse.lookup k := by
  rw [ofList, find?_foldl_insert, find?_empty, Option.or_none]

end Table
end Postern.Store
