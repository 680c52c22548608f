import SqlTemplate.Proofs.Path.Joining

/-!
# SqlTemplate.Proofs.Path.Quoting

Names written as quoted keys. A name and a quoted key lead to the same member of an object. They
differ for arrays alone, where some names ask for the number of elements and no key does. Between
which quotes a key is written makes no difference at all.

* `CountsAt`: where a walk asks an array for its number of elements.
* `walk_quoted`: a walk without such a step goes the same way with quoted keys.
* `CountsAt.walk_quoted`: a walk with such a step ends there.
* `Segment.Quotes`, `Segment.Requotes`: how a path is written with quoted keys, and with other
  quotes.
* `FollowsQuoted`: how a path and the same path with quoted keys resolve from a root.
* `resolve_quoted`: that they do, for the paths of accepted expressions.
-/

namespace SqlTemplate

namespace Path

/-- A field as the key of the same name. -/
def Step.quoted : Step → Step
  | .field name => .key name
  | .index n => .index n
  | .key name => .key name

/-- The same obstacle, met by the quoted step. -/
def Obstacle.quoted : Obstacle → Obstacle
  | .unknownProperty name => .unknownProperty name
  | .indexOutOfBounds index length => .indexOutOfBounds index length
  | .nullIntermediate step => .nullIntermediate step.quoted
  | .wrongKind step kind => .wrongKind step.quoted kind

end Path

/-- The same error with another expression and with the quoted step. -/
def PathError.quoted (expression : String) : PathError → PathError
  | .malformed _ position malformation => .malformed expression position malformation
  | .obstructed _ obstacle => .obstructed expression obstacle.quoted

namespace Path

variable {value root : Value} {step : Step} {steps rest : List Step} {name name' : String}
  {n m : Nat}

/-! ## Walks -/

/-- The walk comes to an array with the step at place `n`, which asks for its number of elements. -/
def CountsAt (steps : List Step) (root : Value) (n : Nat) (name : String) : Prop :=
  steps[n]? = some (.field name) ∧ (name = "length" ∨ name = "size") ∧
    ∃ items, walk (steps.take n) root = .ok (.array items)

theorem stepFrom_quoted (h : ∀ name, ¬CountsAt (step :: rest) value 0 name) :
    stepFrom value step.quoted = (stepFrom value step).mapError Obstacle.quoted := by
  cases value with
  | object members =>
    cases step with
    | index n => rfl
    | field name | key name =>
      simp only [Step.quoted, stepFrom]
      cases members.lookup name <;> rfl
  | array items =>
    cases step with
    | field name =>
      have hname : ¬(name = "length" ∨ name = "size") :=
        fun hname => h name ⟨rfl, hname, items, rfl⟩
      simp only [Step.quoted, stepFrom]
      rw [if_neg hname]
      rfl
    | index n =>
      simp only [Step.quoted, stepFrom]
      split <;> rfl
    | key name => rfl
  | _ => cases step <;> rfl

theorem countsAt_zero_iff :
    CountsAt (step :: rest) root 0 name ↔
      step = .field name ∧ (name = "length" ∨ name = "size") ∧ ∃ items, root = .array items := by
  simp [CountsAt, walk]

theorem countsAt_succ_iff :
    CountsAt (step :: rest) root (n + 1) name ↔
      ∃ inner, stepFrom root step = .ok inner ∧ CountsAt rest inner n name := by
  simp only [CountsAt, walk_eq_foldlM, List.getElem?_cons_succ, List.take_succ_cons,
    List.foldlM_cons]
  cases stepFrom root step with
  | error obstacle => simp [bind, Except.bind]
  | ok inner => simp [bind, Except.bind]

/-- The number of elements leads nowhere, so there is nothing more to count. -/
theorem not_countsAt_ofNat (k : Nat) : ¬CountsAt steps (.ofNat k) n name := by
  intro h
  cases n with
  | zero =>
    obtain ⟨-, -, items, hitems⟩ := h
    cases hitems
  | succ n =>
    cases steps with
    | nil => cases h.1
    | cons step rest =>
      obtain ⟨inner, hinner, -⟩ := countsAt_succ_iff.mp h
      rw [stepFrom_ofNat] at hinner
      cases hinner

theorem CountsAt.unique (h : CountsAt steps root n name) (h' : CountsAt steps root m name') :
    m = n := by
  induction steps generalizing root n m with
  | nil => cases h.1
  | cons step rest ih =>
    -- After a step that counts nothing counts, so either both are this step or both are later.
    have hlater {k : Nat} {first later : String} (hzero : CountsAt (step :: rest) root 0 first) :
        ¬CountsAt (step :: rest) root (k + 1) later := by
      intro hsucc
      obtain ⟨rfl, hname, items, rfl⟩ := countsAt_zero_iff.mp hzero
      obtain ⟨inner, hinner, hcounts⟩ := countsAt_succ_iff.mp hsucc
      rw [stepFrom, if_pos hname] at hinner
      cases hinner
      exact not_countsAt_ofNat items.length hcounts
    cases n with
    | zero =>
      cases m with
      | zero => rfl
      | succ m => exact absurd h' (hlater h)
    | succ n =>
      cases m with
      | zero => exact absurd h (hlater h')
      | succ m =>
        obtain ⟨inner, hinner, hcounts⟩ := countsAt_succ_iff.mp h
        obtain ⟨inner', hinner', hcounts'⟩ := countsAt_succ_iff.mp h'
        rw [hinner] at hinner'
        cases hinner'
        rw [ih hcounts hcounts']

theorem CountsAt.of_take {k : Nat} (h : CountsAt (steps.take k) root n name) :
    n < k ∧ CountsAt steps root n name := by
  obtain ⟨hget, hname, items, hwalk⟩ := h
  rw [List.getElem?_take] at hget
  split at hget
  · rename_i hlt
    rw [List.take_take, Nat.min_eq_left (Nat.le_of_lt hlt)] at hwalk
    exact ⟨hlt, hget, hname, items, hwalk⟩
  · cases hget

theorem walk_quoted (h : ∀ n name, ¬CountsAt steps root n name) :
    walk (steps.map Step.quoted) root = (walk steps root).mapError Obstacle.quoted := by
  rw [walk_eq_foldlM, walk_eq_foldlM]
  induction steps generalizing root with
  | nil => rfl
  | cons step rest ih =>
    rw [List.map_cons, List.foldlM_cons, List.foldlM_cons, stepFrom_quoted (h 0)]
    cases hstep : stepFrom root step with
    | error obstacle => rfl
    | ok inner =>
      exact ih fun n name hcounts => h (n + 1) name (countsAt_succ_iff.mpr ⟨inner, hstep, hcounts⟩)

/-- The key of the same name is refused by the array that the walk leads to. -/
theorem CountsAt.walk_quoted (h : CountsAt steps root n name) :
    walk ((steps.map Step.quoted).take n) root = walk (steps.take n) root ∧
      walk (steps.map Step.quoted) root = .error (.wrongKind (.key name) .array) := by
  have hbefore : walk ((steps.take n).map Step.quoted) root = walk (steps.take n) root := by
    rw [Path.walk_quoted]
    · obtain ⟨-, -, items, hwalk⟩ := h
      rw [hwalk]
      rfl
    · intro m name' hcounts
      obtain ⟨hlt, hcounts⟩ := hcounts.of_take
      exact absurd (h.unique hcounts) (Nat.ne_of_lt hlt)
  obtain ⟨hget, -, items, hwalk⟩ := h
  obtain ⟨hlt, hfield⟩ := List.getElem?_eq_some_iff.mp hget
  have hsplit : steps = steps.take n ++ .field name :: steps.drop (n + 1) := by
    rw [← hfield, ← List.drop_eq_getElem_cons hlt, List.take_append_drop]
  constructor
  · rw [← List.map_take, hbefore]
  · rw [walk_eq_foldlM, hsplit, List.map_append, List.foldlM_append, ← walk_eq_foldlM, hbefore,
      hwalk]
    rfl

/-! ## Spellings -/

/-- Both segments are the same, but the quotes around a key may be others. -/
inductive Segment.Requotes : Segment → Segment → Prop
  | name (word : Name) : Requotes (.name word) (.name word)
  | index (numeral : Numeral) : Requotes (.index numeral) (.index numeral)
  | key {quoted quoted' : QuotedKey} : quoted'.text = quoted.text →
    Requotes (.key quoted) (.key quoted')

/-- A name becomes a key between quotes of either kind, and a key may get other quotes. -/
inductive Segment.Quotes : Segment → Segment → Prop
  | name {word : Name} {quoted : QuotedKey} : quoted.text = word.text →
    Quotes (.name word) (.key quoted)
  | index (numeral : Numeral) : Quotes (.index numeral) (.index numeral)
  | key {quoted quoted' : QuotedKey} : quoted'.text = quoted.text →
    Quotes (.key quoted) (.key quoted')

/-- Each segment is written in another way. -/
structure Derivation.Respells (R : Segment → Segment → Prop) (derivation derivation' : Derivation) :
    Prop where
  first : R derivation.first derivation'.first
  rest : List.Forall₂ R derivation.rest derivation'.rest

theorem Segment.Requotes.step_eq {segment segment' : Segment} (h : segment.Requotes segment') :
    segment'.step = segment.step := by
  cases h with
  | name word => rfl
  | index numeral => rfl
  | key htext => exact congrArg (fun text => Step.key (String.ofList text)) htext

theorem Segment.Quotes.step_eq {segment segment' : Segment} (h : segment.Quotes segment') :
    segment'.step = segment.step.quoted := by
  cases h with
  | name htext => exact congrArg (fun text => Step.key (String.ofList text)) htext
  | index numeral => rfl
  | key htext => exact congrArg (fun text => Step.key (String.ofList text)) htext

theorem Derivation.Respells.steps_eq {R : Segment → Segment → Prop} {f : Step → Step}
    {derivation derivation' : Derivation} (h : derivation.Respells R derivation')
    (hstep : ∀ {segment segment'}, R segment segment' → segment'.step = f segment.step) :
    derivation'.steps = derivation.steps.map f := by
  have hrest {segments segments' : List Segment} (hall : List.Forall₂ R segments segments') :
      segments'.map Segment.step = (segments.map Segment.step).map f := by
    induction hall with
    | nil => rfl
    | cons hsegment _ ih => rw [List.map_cons, List.map_cons, List.map_cons, hstep hsegment, ih]
  exact hrest (.cons h.first h.rest)

/-- No name has a quote in it, so it can be written between two of them. -/
def Name.quoted (word : Name) (quote : Char) (hquote : quote = '\'' ∨ quote = '"') : QuotedKey where
  quote
  text := word.text
  isQuote := hquote
  closes hmem := by
    have hpart := word.isNamePart_text quote hmem
    rcases hquote with rfl | rfl <;> exact absurd hpart (by decide)

theorem Segment.exists_quotes (segment : Segment) : ∃ segment', segment.Quotes segment' := by
  cases segment with
  | name word => exact ⟨.key (word.quoted '\'' (.inl rfl)), .name rfl⟩
  | index numeral => exact ⟨.index numeral, .index numeral⟩
  | key quoted => exact ⟨.key quoted, .key rfl⟩

theorem Derivation.exists_quotes (derivation : Derivation) :
    ∃ quoted, derivation.Respells Segment.Quotes quoted := by
  have hrest (segments : List Segment) :
      ∃ segments', List.Forall₂ Segment.Quotes segments segments' := by
    induction segments with
    | nil => exact ⟨[], .nil⟩
    | cons segment rest ih =>
      obtain ⟨segment', hsegment⟩ := segment.exists_quotes
      obtain ⟨rest', hrest⟩ := ih
      exact ⟨segment' :: rest', .cons hsegment hrest⟩
  obtain ⟨first, hfirst⟩ := derivation.first.exists_quotes
  obtain ⟨rest, hrest⟩ := hrest derivation.rest
  exact ⟨⟨first, rest⟩, hfirst, hrest⟩

/-! ## Paths -/

variable {source : String} {path : Path} {derivation : Derivation}

/-- From the root, the second path goes the way of the first with a key for each of its names. Where
the first does not ask an array for its number of elements, the second leads to the same value or
meets the same obstacle, and so do their first `n` steps. Where it does, which is at one step at
most, the second comes to that array as well and is refused. -/
structure FollowsQuoted (path path' : Path) (root : Value) : Prop where
  alike : (∀ n name, ¬CountsAt path.steps root n name) →
    path'.resolve root = (path.resolve root).mapError (PathError.quoted path'.expression) ∧
      ∀ n, walk (path'.steps.take n) root =
        (walk (path.steps.take n) root).mapError Obstacle.quoted
  refused : ∀ n name, CountsAt path.steps root n name →
    (∀ m name', CountsAt path.steps root m name' → m = n) ∧
      walk (path'.steps.take n) root = walk (path.steps.take n) root ∧
      path'.resolve root = .error (.obstructed path'.expression (.wrongKind (.key name) .array))

theorem followsQuoted (path : Path) (expression : String) (root : Value) :
    FollowsQuoted path ⟨expression, path.steps.map Step.quoted⟩ root where
  alike hnone := by
    refine ⟨?_, fun n => ?_⟩
    · rw [resolve, resolve, walk_quoted hnone]
      cases walk path.steps root <;> rfl
    · rw [← List.map_take]
      exact walk_quoted fun m name hcounts => hnone m name hcounts.of_take.2
  refused n name hcounts := by
    obtain ⟨hbefore, hwalk⟩ := hcounts.walk_quoted
    refine ⟨fun m name' hcounts' => hcounts.unique hcounts', hbefore, ?_⟩
    rw [resolve, hwalk]

theorem resolve_requoted (path : Path) (expression : String) (root : Value) :
    resolve ⟨expression, path.steps⟩ root =
      (path.resolve root).mapError (PathError.requoted expression) := by
  rw [resolve, resolve]
  cases walk path.steps root <;> rfl

theorem steps_of_derivation (h : parse source = .ok path)
    (htext : derivation.text = path.expression.toList) : derivation.steps = path.steps := by
  obtain ⟨other, hother, hsteps⟩ := derivation_of_parse h
  rw [Derivation.text_injective (htext.trans hother.symm), hsteps]

theorem parse_text (derivation : Derivation) :
    parse (String.ofList derivation.text) =
      .ok ⟨String.ofList derivation.text, derivation.steps⟩ :=
  parse_of_derivation String.toList_ofList.symm

/-- An accepted path can be written with a quoted key for each of its names, and it then is accepted
as the same steps, quoted. It goes the same way from every root, up to the first step that asks an
array for its number of elements: there the key is refused. Other quotes around the keys of a path
make no difference but to the expression that an error quotes. -/
theorem resolve_quoted (h : parse source = .ok path) :
    (∃ derivation quoted : Derivation, derivation.text = path.expression.toList ∧
        derivation.Respells Segment.Quotes quoted) ∧
      ∀ derivation : Derivation, derivation.text = path.expression.toList →
        (∀ quoted : Derivation, derivation.Respells Segment.Quotes quoted →
          let path' : Path := ⟨String.ofList quoted.text, path.steps.map Step.quoted⟩
          parse path'.expression = .ok path' ∧ ∀ root, FollowsQuoted path path' root) ∧
        ∀ requoted : Derivation, derivation.Respells Segment.Requotes requoted →
          let path' : Path := ⟨String.ofList requoted.text, path.steps⟩
          parse path'.expression = .ok path' ∧
            ∀ root, path'.resolve root =
              (path.resolve root).mapError (PathError.requoted path'.expression) := by
  refine ⟨?_, fun derivation htext => ⟨fun quoted hquoted => ?_, fun requoted hrequoted => ?_⟩⟩
  · obtain ⟨derivation, htext, -⟩ := derivation_of_parse h
    obtain ⟨quoted, hquoted⟩ := derivation.exists_quotes
    exact ⟨derivation, quoted, htext, hquoted⟩
  · have hsteps : quoted.steps = path.steps.map Step.quoted := by
      rw [← steps_of_derivation h htext]
      exact hquoted.steps_eq Segment.Quotes.step_eq
    rw [← hsteps]
    refine ⟨parse_text quoted, fun root => ?_⟩
    rw [hsteps]
    exact followsQuoted path _ root
  · have hsteps : requoted.steps = path.steps := by
      rw [← steps_of_derivation h htext, ← List.map_id derivation.steps]
      exact hrequoted.steps_eq Segment.Requotes.step_eq
    refine ⟨?_, resolve_requoted path _⟩
    rw [← hsteps]
    exact parse_text requoted

/-- A member with the name of a count is no count, with quotes of either kind. The number of
elements of an array is no member. -/
theorem resolve_quoted_size :
    let path : Path := ⟨"a.size", [.field "a", .field "size"]⟩
    let path' : Path := ⟨"[\"a\"]['size']", [.key "a", .key "size"]⟩
    (parse " a.size" = .ok path ∧ parse "[\"a\"]['size']" = .ok path') ∧
      path'.resolve (.object [("a", .object [("size", .bool true)])]) = .ok (.bool true) ∧
      (path.resolve (.object [("a", .array [.null])]) = .ok (.number "1") ∧
        path'.resolve (.object [("a", .array [.null])]) =
          .error (.obstructed "[\"a\"]['size']" (.wrongKind (.key "size") .array))) := by
  intro path path'
  let a : Name := ⟨'a', [], by decide, List.forall_mem_nil _⟩
  let size : Name :=
    ⟨'s', ['i', 'z', 'e'], by decide,
      by simp only [List.mem_cons, List.not_mem_nil, or_false, forall_eq_or_imp, forall_eq]; decide⟩
  let derivation : Derivation := ⟨.name a, [.name size]⟩
  let quoted : Derivation := ⟨.key (a.quoted '"' (.inr rfl)), [.key (size.quoted '\'' (.inl rfl))]⟩
  have hparse : parse " a.size" = .ok path := by decide +kernel
  have hquoted : derivation.Respells Segment.Quotes quoted := ⟨.name rfl, .cons (.name rfl) .nil⟩
  have htext : derivation.text = path.expression.toList := by decide +kernel
  obtain ⟨hparse', hfollows⟩ := ((resolve_quoted hparse).2 derivation htext).1 quoted hquoted
  refine ⟨⟨hparse, hparse'⟩, ?_, rfl, ?_⟩
  · refine ((hfollows _).alike fun n name hcounts => ?_).1
    obtain ⟨hget, -, items, hwalk⟩ := hcounts
    match n with
    | 0 => cases hwalk
    | 1 => cases hwalk
    | _ + 2 => cases hget
  · exact ((hfollows _).refused 1 "size" ⟨rfl, .inr rfl, [.null], rfl⟩).2.2

end Path

end SqlTemplate
