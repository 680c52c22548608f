/-!
# SqlTemplate.Unicode.InversionList

A set of code points, given by the ascending list of the places where membership changes: the
first number is the first member, the second the first non-member after it, and so on.
-/

namespace SqlTemplate.Unicode

abbrev InversionList := List Nat

namespace InversionList

/-- Membership flips at every listed number that is not beyond the code point. -/
def includes : InversionList → Nat → Bool
  | [], _ => false
  | bound :: rest, n => if n < bound then false else !includes rest n

theorem includes_of_lt {bound n : Nat} {rest : InversionList} (h : n < bound) :
    includes (bound :: rest) n = false := by
  simp [includes, h]

theorem includes_of_le {bound n : Nat} {rest : InversionList} (h : bound ≤ n) :
    includes (bound :: rest) n = !includes rest n := by
  simp [includes, Nat.not_lt.mpr h]

/-- The members, run by run, of a list that ends every run it begins. -/
def members : InversionList → List Nat
  | first :: stop :: rest => List.range' first (stop - first) ++ members rest
  | _ => []

theorem mem_members {bounds : InversionList} {n : Nat} (heven : bounds.length % 2 = 0)
    (h : includes bounds n = true) : n ∈ members bounds := by
  fun_induction members bounds with
  | case1 first stop rest ih =>
    rw [List.mem_append, List.mem_range'_1]
    by_cases hfirst : n < first
    · rw [includes_of_lt hfirst] at h
      cases h
    · by_cases hstop : n < stop
      · exact .inl ⟨by omega, by omega⟩
      · rw [includes_of_le (by omega), includes_of_le (by omega), Bool.not_not] at h
        exact .inr (ih (by simp only [List.length_cons] at heven; omega) h)
  | case2 bounds hshort =>
    match bounds with
    | [] => cases h
    | [bound] => cases heven
    | first :: stop :: rest => exact absurd rfl (hshort first stop rest)

end InversionList

end SqlTemplate.Unicode
