/-!
# SqlTemplate.Table

Ordered tables from names to entries. A name keeps the position at which it was first entered and
answers with the entry made last.
-/

namespace SqlTemplate

abbrev Table (α : Type) := List (String × α)

namespace Table

variable {α : Type}

def get? : Table α → String → Option α
  | [], _ => none
  | (key, entry) :: rest, name => if key = name then some entry else get? rest name

def insert : Table α → String → α → Table α
  | [], name, entry => [(name, entry)]
  | (key, old) :: rest, name, entry =>
    if key = name then (key, entry) :: rest else (key, old) :: insert rest name entry

def names (table : Table α) : List String :=
  table.map Prod.fst

/-- Enters a list of pairs one after the other. -/
def ofPairs (pairs : List (String × α)) : Table α :=
  pairs.foldl (fun table pair => insert table pair.1 pair.2) []

theorem get?_insert (table : Table α) (name other : String) (entry : α) :
    get? (insert table name entry) other =
      if name = other then some entry else get? table other := by
  induction table with
  | nil => simp [insert, get?]
  | cons pair rest ih =>
    obtain ⟨key, old⟩ := pair
    by_cases hk : key = name
    · subst hk
      by_cases ho : key = other <;> simp [insert, get?, ho]
    · by_cases ho : key = other
      · subst ho; simp [insert, get?, hk, Ne.symm hk]
      · simp [insert, get?, hk, ho, ih]

theorem names_insert (table : Table α) (name : String) (entry : α) :
    names (insert table name entry) =
      if name ∈ names table then names table else names table ++ [name] := by
  induction table with
  | nil => simp [insert, names]
  | cons pair rest ih =>
    obtain ⟨key, old⟩ := pair
    by_cases hk : key = name
    · subst hk; simp [insert, names]
    · have ih' : List.map Prod.fst (insert rest name entry) =
          if name ∈ List.map Prod.fst rest then List.map Prod.fst rest
          else List.map Prod.fst rest ++ [name] := ih
      by_cases hm : name ∈ List.map Prod.fst rest <;>
        simp [insert, names, hk, Ne.symm hk, ih', hm]

theorem get?_eq_none_iff {table : Table α} {name : String} :
    get? table name = none ↔ name ∉ names table := by
  induction table with
  | nil => simp [get?, names]
  | cons pair rest ih =>
    obtain ⟨key, entry⟩ := pair
    by_cases hk : key = name
    · subst hk; simp [get?, names]
    · have ih' : get? rest name = none ↔ name ∉ List.map Prod.fst rest := ih
      simp [get?, names, hk, Ne.symm hk, ih']

end Table

end SqlTemplate
