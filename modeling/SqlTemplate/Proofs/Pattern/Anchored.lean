import SqlTemplate.Filter
import SqlTemplate.Proofs.Pattern.Tokens
import SqlTemplate.Regex.Decision

/-!
# SqlTemplate.Proofs.Pattern.Anchored

What an anchored pattern means. Around a valid pattern the anchoring adds a group and two anchors
and nothing else, whatever flags, bars and comments the pattern has.

* `Builder.run_within`: what is built inside a group does not depend on what is around it.
* `parse?_anchored`: the first form of a valid pattern, or the second where a comment is open, means
  the pattern between the ends of the text.
* `ofPattern_iff_valid`: a pattern makes a filter if it is valid by itself, and not otherwise.
* `accepts_iff_matches`: a filter accepts what its pattern matches from end to end.
-/

namespace SqlTemplate

namespace Regex

/-! ## Structure -/

theorem OpenGroup.change_of_repeatLast? {group next : OpenGroup} {least : Nat} {most : Option Nat}
    (h : group.repeatLast? least most = some next) : next.change = group.change := by
  unfold repeatLast? at h
  split at h
  · cases h
  · split at h
    · cases h; rfl
    · cases h

namespace Builder

variable {builder next : Builder} {token : Token} {tokens : List Token}

/-- The same groups inside of others. -/
def within (builder : Builder) (around : List OpenGroup) : Builder :=
  { builder with outer := builder.outer ++ around }

/-- The flags of the outermost group. -/
def baseChange (builder : Builder) : FlagChange :=
  ((builder.group :: builder.outer).getLast (List.cons_ne_nil _ _)).change

theorem step_within (h : builder.step token = some next) (around : List OpenGroup) :
    (builder.within around).step token = some (next.within around) := by
  cases token with
  | groupEnd =>
    obtain ⟨group, outer⟩ := builder
    cases outer with
    | nil => cases h
    | cons parent rest => cases h; rfl
  | repetition least most =>
    obtain ⟨group, hr, rfl⟩ := Option.map_eq_some_iff.mp h
    simp only [step, within, hr, Option.map_some]
  | _ => cases h; rfl

theorem run_within (h : builder.run tokens = some next) (around : List OpenGroup) :
    (builder.within around).run tokens = some (next.within around) := by
  induction tokens generalizing builder with
  | nil => cases h; rfl
  | cons token rest ih =>
    simp only [run] at h ⊢
    cases hs : builder.step token with
    | none => rw [hs] at h; cases h
    | some between =>
      rw [hs] at h
      rw [step_within hs around]
      exact ih h

theorem baseChange_step (h : builder.step token = some next) :
    next.baseChange = builder.baseChange := by
  obtain ⟨group, outer⟩ := builder
  cases token with
  | groupEnd =>
    cases outer with
    | nil => cases h
    | cons parent rest => cases h; cases rest <;> rfl
  | repetition least most =>
    obtain ⟨group', hr, rfl⟩ := Option.map_eq_some_iff.mp h
    cases outer with
    | nil => exact OpenGroup.change_of_repeatLast? hr
    | cons parent rest => rfl
  | groupStart name change => cases h; rfl
  | _ => cases h; cases outer <;> rfl

theorem baseChange_run (h : builder.run tokens = some next) :
    next.baseChange = builder.baseChange := by
  induction tokens generalizing builder with
  | nil => cases h; rfl
  | cons token rest ih =>
    simp only [run] at h
    cases hs : builder.step token with
    | none => rw [hs] at h; cases h
    | some between =>
      rw [hs] at h
      exact (ih h).trans (baseChange_step hs)

end Builder

/-- What the anchoring puts before a pattern: the anchor and the start of the group. -/
def opening : List Token :=
  [.atom (.anchor .lineStart), .groupStart none {}]

theorem groupNames_opening (tokens : List Token) :
    (opening ++ tokens).filterMap Token.groupName? = tokens.filterMap Token.groupName? := by
  have hopening : opening.filterMap Token.groupName? = [] := rfl
  rw [List.filterMap_append, hopening, List.nil_append]

theorem groupNames_closing (tokens : List Token) :
    (tokens ++ closing).filterMap Token.groupName? = tokens.filterMap Token.groupName? := by
  have hclosing : closing.filterMap Token.groupName? = [] := rfl
  rw [List.filterMap_append, hclosing, List.append_nil]

theorem run_opening (tokens : List Token) :
    ({} : Builder).run (opening ++ tokens) =
      (({} : Builder).within [{ items := [.atom (.anchor .lineStart)] }]).run tokens := rfl

theorem ofTokens?_eq_some {tokens : List Token} {ast : Ast} (h : Ast.ofTokens? tokens = some ast) :
    (tokens.filterMap Token.groupName?).Nodup ∧
      ∃ group : OpenGroup, ({} : Builder).run tokens = some ⟨group, []⟩ ∧ group.change = {} ∧
        group.body = ast := by
  unfold Ast.ofTokens? at h
  split at h
  · rename_i hnames
    obtain ⟨⟨group, outer⟩, hrun, hfinish⟩ := Option.bind_eq_some_iff.mp h
    cases outer with
    | nil =>
      have hbase := Builder.baseChange_run hrun
      cases hfinish
      exact ⟨hnames, group, hrun, hbase, rfl⟩
    | cons parent rest => cases hfinish
  · cases h

theorem ofTokens?_anchored {tokens : List Token} {ast : Ast}
    (h : Ast.ofTokens? tokens = some ast) :
    Ast.ofTokens? (opening ++ (tokens ++ closing)) =
      some (.sequence (.atom (.anchor .lineStart))
        (.sequence (.group {} ast) (.atom (.anchor .lineEnd)))) := by
  obtain ⟨hnames, group, hrun, hchange, rfl⟩ := ofTokens?_eq_some h
  have hwithin := Builder.run_within hrun [{ items := [.atom (.anchor .lineStart)] }]
  rw [Ast.ofTokens?, groupNames_opening, groupNames_closing, if_pos hnames, run_opening,
    Builder.run_append, hwithin, ← hchange]
  rfl

/-- A group that is never closed makes no pattern. -/
theorem ofTokens?_open {tokens : List Token} {ast : Ast} (h : Ast.ofTokens? tokens = some ast) :
    Ast.ofTokens? (opening ++ tokens) = none := by
  obtain ⟨hnames, group, hrun, -, -⟩ := ofTokens?_eq_some h
  have hwithin := Builder.run_within hrun [{ items := [.atom (.anchor .lineStart)] }]
  rw [Ast.ofTokens?, groupNames_opening, if_pos hnames, run_opening, hwithin]
  rfl

/-! ## Anchored patterns -/

theorem readTokens_opening (cs : List Char) :
    readTokens false [] ('^' :: '(' :: '?' :: ':' :: cs) =
      (readTokens false [false] cs).map (opening ++ ·) := by
  have hgroup : readToken false '(' ('?' :: ':' :: cs) = some (.groupStart none {}, cs) := rfl
  rw [readTokens_cons (skip_false _) rfl rfl, readTokens_cons (skip_false _) hgroup rfl,
    FlagChange.apply_empty, Option.map_map]
  rfl

theorem toList_anchored (pattern : String) :
    (Filter.anchored pattern).toList =
      '^' :: '(' :: '?' :: ':' :: (pattern.toList ++ [')', '$']) := by
  simp [Filter.anchored]

theorem toList_anchored_break (pattern : String) :
    (Filter.anchored (pattern ++ "\n")).toList =
      '^' :: '(' :: '?' :: ':' :: (pattern.toList ++ ['\n', ')', '$']) := by
  simp [Filter.anchored]

/-- What an anchored pattern means: the pattern between the ends of the text. -/
def betweenEnds (r : Regex) : Regex :=
  .sequence (.assertion .textStart) (.sequence r (.assertion .textEnd))

theorem meaning?_anchored {ast : Ast} {r : Regex} (h : (ast.meaning? {}).map Prod.fst = some r) :
    ((Ast.sequence (.atom (.anchor .lineStart))
      (.sequence (.group {} ast) (.atom (.anchor .lineEnd)))).meaning? {}).map Prod.fst =
      some (betweenEnds r) := by
  obtain ⟨⟨meaning, after⟩, hm, rfl⟩ := Option.map_eq_some_iff.mp h
  have hgroup : (Ast.group {} ast).meaning? {} = some (meaning, {}) := by
    rw [Ast.meaning?, Flags.change_empty, hm]
  have hstart : (Ast.atom (.anchor .lineStart)).meaning? {} =
      some (.assertion .textStart, {}) := rfl
  have hend : (Ast.atom (.anchor .lineEnd)).meaning? {} = some (.assertion .textEnd, {}) := rfl
  rw [Ast.meaning?, hstart]
  simp only
  rw [Ast.meaning?, hgroup]
  simp only [hend, Option.map_some, betweenEnds]

theorem parse?_of_tokens {pattern : String} {tokens : List Token}
    (h : tokens? pattern = some tokens) :
    parse? pattern =
      (Ast.ofTokens? tokens).bind fun ast => (ast.meaning? {}).map Prod.fst := by
  rw [parse?, ast?, h]
  simp only
  cases Ast.ofTokens? tokens <;> rfl

theorem parse?_eq_some {pattern : String} {r : Regex} (h : parse? pattern = some r) :
    ∃ tokens ast, tokens? pattern = some tokens ∧ Ast.ofTokens? tokens = some ast ∧
      (ast.meaning? {}).map Prod.fst = some r := by
  cases htokens : tokens? pattern with
  | none =>
    rw [parse?, ast?, htokens] at h
    cases h
  | some tokens =>
    rw [parse?_of_tokens htokens] at h
    obtain ⟨ast, hast, hmeaning⟩ := Option.bind_eq_some_iff.mp h
    exact ⟨tokens, ast, rfl, hast, hmeaning⟩

/-- The tokens of a valid pattern between those of the anchoring. -/
theorem parse?_of_sealed {pattern wrapped : String} {r : Regex} {tokens : List Token}
    (h : parse? pattern = some r) (htokens : tokens? pattern = some tokens)
    (hread : tokens? wrapped = some (opening ++ (tokens ++ closing))) :
    parse? wrapped = some (betweenEnds r) := by
  rw [parse?_of_tokens htokens] at h
  obtain ⟨ast, hast, hmeaning⟩ := Option.bind_eq_some_iff.mp h
  rw [parse?_of_tokens hread, ofTokens?_anchored hast, Option.bind_some]
  exact meaning?_anchored hmeaning

/-- The pattern ends inside of a comment: it has a number sign behind whole tokens that leave
verbose mode on, and no line break after it. -/
def EndsInComment (pattern : String) : Prop :=
  ∃ before line tokens groups, pattern.toList = before ++ '#' :: line ∧ '\n' ∉ line ∧
    readTokens false [] before = some tokens ∧ scopeAfter false [] tokens = some (true, groups)

/-- With its end in the comment the group stays open, so the first form is no pattern. -/
theorem parse?_anchored_of_endsInComment {pattern : String} {r : Regex}
    (h : parse? pattern = some r) (hcomment : EndsInComment pattern) :
    parse? (Filter.anchored pattern) = none := by
  obtain ⟨before, line, tokens, groups, hpattern, hline, hbefore, hscope⟩ := hcomment
  have htokens : tokens? pattern = some tokens := by
    rw [tokens?, hpattern]
    exact readTokens_comment hbefore hscope hline []
  have hread : tokens? (Filter.anchored pattern) = some (opening ++ tokens) := by
    have hline' : '\n' ∉ line ++ [')', '$'] := by simpa using hline
    have hsealed := readTokens_comment hbefore hscope hline' [false]
    rw [tokens?, toList_anchored, readTokens_opening, hpattern, List.append_assoc,
      List.cons_append]
    exact congrArg (Option.map (opening ++ ·)) hsealed
  rw [parse?_of_tokens htokens] at h
  obtain ⟨ast, hast, -⟩ := Option.bind_eq_some_iff.mp h
  rw [parse?_of_tokens hread, ofTokens?_open hast, Option.bind_none]

/-- The first form means the pattern between the ends of the text, but not where a comment swallows
its end; there the second form does. -/
theorem parse?_anchored {pattern : String} {r : Regex} (h : parse? pattern = some r) :
    parse? (Filter.anchored pattern) = some (betweenEnds r) ∨
      EndsInComment pattern ∧
        parse? (Filter.anchored (pattern ++ "\n")) = some (betweenEnds r) := by
  obtain ⟨tokens, -, htokens, -, -⟩ := parse?_eq_some h
  obtain ⟨inner, groups, inComment, hend⟩ := exists_textEnd htokens
  cases inComment with
  | false =>
    refine .inl (parse?_of_sealed h htokens ?_)
    rw [tokens?, toList_anchored, readTokens_opening]
    exact congrArg (Option.map (opening ++ ·)) (hend.readTokens_sealed false)
  | true =>
    obtain ⟨rfl, before, line, hpattern, hline, hbefore⟩ := hend.comment rfl
    refine .inr ⟨⟨before, line, tokens, groups, hpattern, hline, hbefore, hend.scope⟩, ?_⟩
    refine parse?_of_sealed h htokens ?_
    rw [tokens?, toList_anchored_break, readTokens_opening]
    exact congrArg (Option.map (opening ++ ·)) (hend.readTokens_broken false)

theorem matcher?_of_parse? {pattern : String} {r : Regex} (h : parse? pattern = some r) :
    Filter.matcher? pattern = some (betweenEnds r) := by
  unfold Filter.matcher?
  obtain hplain | ⟨hcomment, hbroken⟩ := parse?_anchored h
  · rw [hplain]
  · rw [parse?_anchored_of_endsInComment h hcomment]
    exact hbroken

/-! ## Matching in full -/

variable {text : List Char} {r : Regex} {p q : Nat}

theorem matches_textStart : Matches text (.assertion .textStart) p q ↔ p = 0 ∧ q = 0 := by
  constructor
  · intro h
    cases h with
    | assertion hle ha =>
      cases p with
      | zero => exact ⟨rfl, rfl⟩
      | succ p =>
        have hp : p < text.length := hle
        rw [Assertion.holds, before?, List.getElem?_eq_getElem hp] at ha
        cases ha
  · rintro ⟨rfl, rfl⟩
    exact .assertion (Nat.zero_le _) rfl

theorem matches_textEnd :
    Matches text (.assertion .textEnd) p q ↔ p = text.length ∧ q = text.length := by
  constructor
  · intro h
    cases h with
    | assertion hle ha =>
      rw [Assertion.holds, Option.isNone_iff_eq_none, List.getElem?_eq_none_iff] at ha
      have := Nat.le_antisymm hle ha
      exact ⟨this, this⟩
  · rintro ⟨rfl, rfl⟩
    refine .assertion (Nat.le_refl _) ?_
    rw [Assertion.holds, List.getElem?_eq_none (Nat.le_refl _)]
    rfl

theorem occurs_between_ends :
    Occurs (betweenEnds r) text ↔ Matches text r 0 text.length := by
  constructor
  · rintro ⟨p, q, h⟩
    cases h with
    | sequence hstart hrest =>
      cases hrest with
      | sequence hr hend =>
        obtain ⟨-, rfl⟩ := matches_textStart.mp hstart
        obtain ⟨rfl, -⟩ := matches_textEnd.mp hend
        exact hr
  · intro h
    exact ⟨0, text.length, .sequence (matches_textStart.mpr ⟨rfl, rfl⟩)
      (.sequence h (matches_textEnd.mpr ⟨rfl, rfl⟩))⟩

end Regex

namespace Filter

theorem ofPattern_eq_ok {pattern : String} {filter : Filter}
    (h : Filter.ofPattern pattern = .ok filter) :
    ∃ r, Regex.parse? pattern = some r ∧ matcher? pattern = some filter.matcher := by
  unfold Filter.ofPattern at h
  cases hp : Regex.parse? pattern with
  | none => rw [hp] at h; cases h
  | some r =>
    rw [hp] at h
    simp only at h
    cases hm : matcher? pattern with
    | none => rw [hm] at h; cases h
    | some matcher =>
      rw [hm] at h
      cases h
      exact ⟨r, rfl, rfl⟩

theorem ofPattern_of_parse? {pattern : String} {r : Regex} (h : Regex.parse? pattern = some r) :
    Filter.ofPattern pattern = .ok ⟨pattern, Regex.betweenEnds r⟩ := by
  simp only [Filter.ofPattern, h, Regex.matcher?_of_parse? h]

theorem ofPattern_of_parse?_eq_none {pattern : String} (h : Regex.parse? pattern = none) :
    Filter.ofPattern pattern = .error (.invalidFilter pattern) := by
  simp only [Filter.ofPattern, h]

/-- The anchoring neither makes a pattern valid nor spoils one: what decides is whether the pattern
is valid by itself. The second form is for the patterns that end inside of a comment, and for no
others. -/
theorem ofPattern_iff_valid (pattern : String) :
    ((∃ filter, Filter.ofPattern pattern = .ok filter) ↔ ∃ r, Regex.parse? pattern = some r) ∧
      (Regex.parse? pattern = none →
        Filter.ofPattern pattern = .error (.invalidFilter pattern)) ∧
      ∀ filter, Filter.ofPattern pattern = .ok filter →
        filter.pattern = pattern ∧
          (¬Regex.EndsInComment pattern →
            Regex.parse? (anchored pattern) = some filter.matcher) ∧
          (Regex.EndsInComment pattern →
            Regex.parse? (anchored pattern) = none ∧
              Regex.parse? (anchored (pattern ++ "\n")) = some filter.matcher) := by
  refine ⟨⟨?_, ?_⟩, ofPattern_of_parse?_eq_none, fun filter h => ?_⟩
  · rintro ⟨filter, h⟩
    obtain ⟨r, hr, -⟩ := ofPattern_eq_ok h
    exact ⟨r, hr⟩
  · rintro ⟨r, hr⟩
    exact ⟨_, ofPattern_of_parse? hr⟩
  · obtain ⟨r, hr, -⟩ := ofPattern_eq_ok h
    rw [ofPattern_of_parse? hr] at h
    cases h
    refine ⟨rfl, fun hplain => ?_, fun hcomment => ?_⟩
    · obtain hfirst | ⟨hcomment, -⟩ := Regex.parse?_anchored hr
      · exact hfirst
      · exact absurd hcomment hplain
    · have hopen := Regex.parse?_anchored_of_endsInComment hr hcomment
      obtain hfirst | ⟨-, hsecond⟩ := Regex.parse?_anchored hr
      · rw [hopen] at hfirst
        cases hfirst
      · exact ⟨hopen, hsecond⟩

/-- A pattern that only the anchoring would balance is rejected. A comment at the end of a pattern
takes the second form, and with its line break the first. -/
theorem ofPattern_around_comment :
    (Filter.ofPattern "a)|(b" = .error (.invalidFilter "a)|(b") ∧
        (Regex.parse? (anchored "a)|(b")).isSome = true) ∧
      (∃ filter, Filter.ofPattern "(?x)a # b" = .ok filter ∧ filter.pattern = "(?x)a # b" ∧
        Regex.EndsInComment "(?x)a # b" ∧
        Regex.parse? (anchored "(?x)a # b\n") = some filter.matcher) ∧
      ∃ filter, Filter.ofPattern "(?x)a # b\n" = .ok filter ∧
        ¬Regex.EndsInComment "(?x)a # b\n" := by
  refine ⟨⟨?_, by decide +kernel⟩, ?_, ?_⟩
  · have hnone : (Regex.parse? "a)|(b").isNone = true := by decide +kernel
    exact (ofPattern_iff_valid "a)|(b").2.1 (Option.isNone_iff_eq_none.mp hnone)
  · have hvalid : (Regex.parse? "(?x)a # b").isSome = true := by decide +kernel
    have hopen : (Regex.parse? (anchored "(?x)a # b")).isNone = true := by decide +kernel
    obtain ⟨hiff, -, hforms⟩ := ofPattern_iff_valid "(?x)a # b"
    obtain ⟨filter, h⟩ := hiff.mpr (Option.isSome_iff_exists.mp hvalid)
    obtain ⟨hpattern, hfirst, hsecond⟩ := hforms filter h
    have hcomment : Regex.EndsInComment "(?x)a # b" := by
      by_contra hplain
      rw [hfirst hplain] at hopen
      cases hopen
    exact ⟨filter, h, hpattern, hcomment, (hsecond hcomment).2⟩
  · have hvalid : (Regex.parse? "(?x)a # b\n").isSome = true := by decide +kernel
    have hclosed : (Regex.parse? (anchored "(?x)a # b\n")).isSome = true := by decide +kernel
    obtain ⟨hiff, -, hforms⟩ := ofPattern_iff_valid "(?x)a # b\n"
    obtain ⟨filter, h⟩ := hiff.mpr (Option.isSome_iff_exists.mp hvalid)
    refine ⟨filter, h, fun hcomment => ?_⟩
    rw [((hforms filter h).2.2 hcomment).1] at hclosed
    cases hclosed

/-- A filter accepts a text exactly when its pattern by itself matches the text from its first
position to its last. -/
theorem accepts_iff_matches {pattern : String} {filter : Filter}
    (h : Filter.ofPattern pattern = .ok filter) (value : String) :
    filter.accepts value = true ↔
      ∃ r, Regex.parse? pattern = some r ∧
        Regex.Matches value.toList r 0 value.toList.length := by
  obtain ⟨r, hr, hm⟩ := ofPattern_eq_ok h
  rw [Regex.matcher?_of_parse? hr] at hm
  have hmatcher := Option.some.inj hm
  rw [accepts, ← hmatcher, Regex.occurs_iff, Regex.occurs_between_ends]
  constructor
  · intro hmatch
    exact ⟨r, hr, hmatch⟩
  · rintro ⟨r', hr', hmatch⟩
    rw [hr] at hr'
    cases hr'
    exact hmatch

/-- A branch that is not the first matches in full, with a comment at the end of the pattern. -/
theorem matches_second_branch :
    ∃ filter, Filter.ofPattern "(?x)a|ab # either" = .ok filter ∧ filter.accepts "ab" = true ∧
      ∃ r, Regex.parse? "(?x)a|ab # either" = some r ∧ Regex.Matches "ab".toList r 0 2 := by
  have hrun : (Filter.ofPattern "(?x)a|ab # either").toOption.map (accepts · "ab") =
      some true := by decide +kernel
  cases h : Filter.ofPattern "(?x)a|ab # either" with
  | error e =>
    rw [h] at hrun
    cases hrun
  | ok filter =>
    rw [h] at hrun
    have haccepts : filter.accepts "ab" = true := Option.some.inj hrun
    exact ⟨filter, rfl, haccepts, (accepts_iff_matches h "ab").mp haccepts⟩

end Filter

end SqlTemplate
