import SqlTemplate.Regex.Escape

/-!
# SqlTemplate.Regex.Bracket

Reading bracketed classes. Items are gathered until an operator or a closing bracket; operators
have one precedence and group to the left. The classes that are open at the same time, and the
operators that wait for their right side, are kept on a stack.
-/

namespace SqlTemplate.Regex

/-- An open class waits with the items gathered before it, an operator with its left side. -/
inductive BracketFrame where
  | opened (negated : Bool) (before : ClassBody)
  | operator (operator : SetOperator) (left : ClassBody)
deriving Repr

def ClassBody.add (items item : ClassBody) : ClassBody :=
  match items with
  | .empty => item
  | _ => .union items item

/-- Gives an operator on top of the stack its right side. -/
def settle (stack : List BracketFrame) (body : ClassBody) : ClassBody × List BracketFrame :=
  match stack with
  | .operator operator left :: rest => (.combined operator left body, rest)
  | _ => (body, stack)

/-- Reads a class such as `[:alpha:]` after its opening bracket. -/
def readPosix? (cs : List Char) : Option (ClassBody × List Char) :=
  match cs with
  | ':' :: rest =>
    let negated := rest.head? == some '^'
    let name := if negated then rest.drop 1 else rest
    match name.dropWhile (· != ':') with
    | ':' :: ']' :: after =>
      (PosixClass.ofName? (name.takeWhile (· != ':'))).map fun posix =>
        (.posix posix negated, after)
    | _ => none
  | _ => none

/-- Hyphens at the start of a class are literals. -/
def readHyphens (verbose : Bool) (items : ClassBody) (cs : List Char) :
    ClassBody × List Char :=
  match _h : skip verbose cs with
  | [] => (items, [])
  | c :: rest =>
    if c = '-' then readHyphens verbose (items.add (.literal ⟨'-', false⟩)) rest
    else (items, c :: rest)
termination_by cs.length
decreasing_by exact length_lt_of_skip _h

/-- Reads what may stand only at the start of a class: its negation, hyphens, or a closing bracket
meant as a literal. -/
def readOpening (verbose : Bool) (cs : List Char) : Bool × ClassBody × List Char :=
  let inner := skip verbose cs
  let negated := inner.head? == some '^'
  let inner := if negated then inner.drop 1 else inner
  match readHyphens verbose .empty inner with
  | (.empty, ']' :: rest) => (negated, .literal ⟨']', false⟩, rest)
  | (items, rest) => (negated, items, rest)

def readItemAtom (verbose : Bool) : List Char → Option (Atom × List Char)
  | [] => none
  | c :: rest =>
    if c = '\\' then readEscape verbose rest else some (.literal ⟨c, false⟩, rest)

/-- The next character after blanks and at most the number sign of one comment. -/
def upcoming? (verbose : Bool) (cs : List Char) : Option Char :=
  if verbose then
    match cs.dropWhile Unicode.isWhiteSpace with
    | '#' :: rest => (rest.dropWhile Unicode.isWhiteSpace).head?
    | rest => rest.head?
  else cs.head?

/-- Anchors have no place in a class. -/
def itemOfAtom? : Atom → Option ClassBody
  | .literal literal => some (.literal literal)
  | .short name negated => some (.short name negated)
  | .property query negated => some (.property query negated)
  | _ => none

def rangeOfAtoms? : Atom → Atom → Option ClassBody
  | .literal first, .literal last =>
    if first.char ≤ last.char then some (.range first last) else none
  | _, _ => none

/-- Reads one item or range. A hyphen that another hyphen or the closing bracket follows does not
make a range. -/
def readItem (verbose : Bool) (cs : List Char) : Option (ClassBody × List Char) :=
  match readItemAtom verbose cs with
  | none => none
  | some (first, rest) =>
    match skip verbose rest with
    | '-' :: after =>
      if upcoming? verbose after = some ']' ∨ upcoming? verbose after = some '-' then
        (itemOfAtom? first).map fun item => (item, '-' :: after)
      else
        match readItemAtom verbose (skip verbose after) with
        | none => none
        | some (last, rest) => (rangeOfAtoms? first last).map fun item => (item, rest)
    | rest => (itemOfAtom? first).map fun item => (item, rest)

def setOperator? : List Char → Option (SetOperator × List Char)
  | '&' :: '&' :: rest => some (.intersection, rest)
  | '-' :: '-' :: rest => some (.difference, rest)
  | '~' :: '~' :: rest => some (.symmetricDifference, rest)
  | _ => none

theorem length_lt_of_readPosix? {cs after : List Char} {item : ClassBody}
    (h : readPosix? cs = some (item, after)) : after.length < cs.length := by
  unfold readPosix? at h
  split at h
  · rename_i rest
    simp only at h
    split at h
    · rename_i after' heq
      obtain ⟨posix, _, he⟩ := Option.map_eq_some_iff.mp h
      cases he
      have h₁ := (List.dropWhile_sublist (· != ':')
        (l := if rest.head? == some '^' then rest.drop 1 else rest)).length_le
      have h₂ : (if rest.head? == some '^' then rest.drop 1 else rest).length ≤ rest.length := by
        split <;> simp
      rw [heq] at h₁
      simp only [List.length_cons] at h₁ ⊢
      omega
    · cases h
  · cases h

theorem length_readHyphens_le (verbose : Bool) (items : ClassBody) (cs : List Char) :
    (readHyphens verbose items cs).2.length ≤ cs.length := by
  fun_induction readHyphens verbose items cs with
  | case1 => exact Nat.zero_le _
  | case2 _ _ _ hs ih => exact Nat.le_trans ih (Nat.le_of_lt (length_lt_of_skip hs))
  | case3 _ _ _ _ hs => exact length_lt_of_skip hs

theorem length_readOpening_le (verbose : Bool) (cs : List Char) :
    (readOpening verbose cs).2.2.length ≤ cs.length := by
  have hskip := length_skip_le verbose cs
  have hdrop : (if (skip verbose cs).head? == some '^' then (skip verbose cs).drop 1
      else skip verbose cs).length ≤ (skip verbose cs).length := by
    split <;> simp
  have hhyphens := length_readHyphens_le verbose .empty
    (if (skip verbose cs).head? == some '^' then (skip verbose cs).drop 1 else skip verbose cs)
  unfold readOpening
  simp only
  split
  · rename_i rest heq
    rw [heq] at hhyphens
    simp only [List.length_cons] at hhyphens
    simp only
    omega
  · rename_i items rest _ heq
    rw [heq] at hhyphens
    simp only at hhyphens ⊢
    omega

theorem length_lt_of_readItemAtom {verbose : Bool} {cs after : List Char} {atom : Atom}
    (h : readItemAtom verbose cs = some (atom, after)) : after.length < cs.length := by
  unfold readItemAtom at h
  split at h
  · cases h
  · split at h
    · exact Nat.lt_succ_of_lt (length_lt_of_readEscape h)
    · cases h; exact Nat.lt_succ_self _

theorem length_lt_of_readItem {verbose : Bool} {cs after : List Char} {item : ClassBody}
    (h : readItem verbose cs = some (item, after)) : after.length < cs.length := by
  unfold readItem at h
  split at h
  · cases h
  · rename_i first rest hf
    have hfirst := length_lt_of_readItemAtom hf
    have hskip := length_skip_le verbose rest
    split at h
    · rename_i inner hs
      rw [hs] at hskip
      simp only [List.length_cons] at hskip
      split at h
      · obtain ⟨item', _, heq⟩ := Option.map_eq_some_iff.mp h
        cases heq
        simp only [List.length_cons]
        omega
      · split at h
        · cases h
        · rename_i last rest' hl
          obtain ⟨item', _, heq⟩ := Option.map_eq_some_iff.mp h
          cases heq
          have hlast := length_lt_of_readItemAtom hl
          have := length_skip_le verbose inner
          omega
    · obtain ⟨item', _, heq⟩ := Option.map_eq_some_iff.mp h
      cases heq
      omega

theorem length_lt_of_setOperator? {cs after : List Char} {operator : SetOperator}
    (h : setOperator? cs = some (operator, after)) : after.length < cs.length := by
  unfold setOperator? at h
  split at h <;> cases h <;> simp only [List.length_cons] <;> omega

/-- Reads on in an open class, with the items gathered so far, to the end of the outermost one. -/
def readBody (verbose : Bool) (stack : List BracketFrame) (items : ClassBody) (cs : List Char) :
    Option (Bool × ClassBody × List Char) :=
  match _h : skip verbose cs with
  | [] => none
  | c :: rest =>
    if c = '[' then
      match _hp : readPosix? rest with
      | some (item, after) => readBody verbose stack (items.add item) after
      | none =>
        match _ho : readOpening verbose rest with
        | (negated, first, after) => readBody verbose (.opened negated items :: stack) first after
    else if c = ']' then
      match settle stack items with
      | (body, .opened negated before :: outer) =>
        if outer.isEmpty then some (negated, body, rest)
        else readBody verbose outer (before.add (.nested negated body)) rest
      | _ => none
    else
      match _hs : setOperator? (c :: rest) with
      | some (operator, after) =>
        match settle stack items with
        | (left, outer) => readBody verbose (.operator operator left :: outer) .empty after
      | none =>
        match _hi : readItem verbose (c :: rest) with
        | none => none
        | some (item, after) => readBody verbose stack (items.add item) after
termination_by cs.length
decreasing_by
  · have := length_lt_of_skip _h; have := length_lt_of_readPosix? _hp; omega
  · have := length_lt_of_skip _h
    have := length_readOpening_le verbose rest
    rw [_ho] at this
    simp only at this
    omega
  · exact length_lt_of_skip _h
  · have := length_lt_of_skip _h; have := length_lt_of_setOperator? _hs
    simp only [List.length_cons] at this; omega
  · have := length_lt_of_skip _h; have := length_lt_of_readItem _hi
    simp only [List.length_cons] at this; omega

/-- Reads a whole class after its opening bracket. -/
def readBracket (verbose : Bool) (cs : List Char) : Option (Bool × ClassBody × List Char) :=
  match readOpening verbose cs with
  | (negated, items, rest) => readBody verbose [.opened negated .empty] items rest

theorem length_lt_of_readBody {verbose : Bool} {stack : List BracketFrame} {items body : ClassBody}
    {cs after : List Char} {negated : Bool}
    (h : readBody verbose stack items cs = some (negated, body, after)) :
    after.length < cs.length := by
  fun_induction readBody verbose stack items cs with
  | case1 => cases h
  | case2 _ _ _ _ _ _ hp hs ih =>
    exact Nat.lt_trans (ih h) (Nat.lt_trans (length_lt_of_readPosix? hp) (length_lt_of_skip hs))
  | case3 _ _ _ rest _ _ _ _ ho hs ih =>
    have hle := length_readOpening_le verbose rest
    rw [ho] at hle
    exact Nat.lt_trans (Nat.lt_of_lt_of_le (ih h) hle) (length_lt_of_skip hs)
  | case4 =>
    rename_i hs _
    cases h
    exact length_lt_of_skip hs
  | case5 => rename_i hs _ ih; exact Nat.lt_trans (ih h) (length_lt_of_skip hs)
  | case6 => cases h
  | case7 =>
    rename_i hs _ _ _ _ ho _ _ _ ih
    have h₁ := length_lt_of_setOperator? ho
    have h₂ := length_lt_of_skip hs
    have h₃ := ih h
    simp only [List.length_cons] at h₁
    omega
  | case8 => cases h
  | case9 =>
    rename_i hs _ _ _ _ _ hi ih
    have h₁ := length_lt_of_readItem hi
    have h₂ := length_lt_of_skip hs
    have h₃ := ih h
    simp only [List.length_cons] at h₁
    omega

theorem length_lt_of_readBracket {verbose : Bool} {cs after : List Char} {negated : Bool}
    {body : ClassBody} (h : readBracket verbose cs = some (negated, body, after)) :
    after.length < cs.length := by
  unfold readBracket at h
  split at h
  rename_i negated' items rest ho
  have hle := length_readOpening_le verbose cs
  rw [ho] at hle
  exact Nat.lt_of_lt_of_le (length_lt_of_readBody h) hle

end SqlTemplate.Regex
