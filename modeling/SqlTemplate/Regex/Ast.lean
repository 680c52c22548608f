import SqlTemplate.Regex.Token

/-!
# SqlTemplate.Regex.Ast

The structure of a pattern, built from its tokens. Groups that are open at the same time are kept
on a stack; a repetition takes the item right before it.
-/

namespace SqlTemplate.Regex

inductive Ast where
  | empty
  | atom (atom : Atom)
  | flags (change : FlagChange)
  | group (change : FlagChange) (body : Ast)
  | repetition (least : Nat) (most : Option Nat) (body : Ast)
  | sequence (first second : Ast)
  | alternative (first second : Ast)
deriving DecidableEq, Repr

namespace Ast

/-- All items one after the other. -/
def concat : List Ast → Ast
  | [] => .empty
  | [item] => item
  | item :: rest => .sequence item (concat rest)

/-- Any one of the branches. -/
def choice : List Ast → Ast
  | [] => .empty
  | [branch] => branch
  | branch :: rest => .alternative branch (choice rest)

/-- Flags stand for themselves and cannot be repeated. -/
def isRepeatable : Ast → Bool
  | .flags _ => false
  | _ => true

end Ast

/-- An open group: its flags, its finished branches and the items of its last branch, each list
with the latest first. -/
structure OpenGroup where
  change : FlagChange := {}
  branches : List Ast := []
  items : List Ast := []
deriving DecidableEq, Repr

namespace OpenGroup

def push (group : OpenGroup) (item : Ast) : OpenGroup :=
  { group with items := item :: group.items }

def nextBranch (group : OpenGroup) : OpenGroup :=
  { group with branches := .concat group.items.reverse :: group.branches, items := [] }

def body (group : OpenGroup) : Ast :=
  .choice (group.nextBranch.branches.reverse)

def repeatLast? (group : OpenGroup) (least : Nat) (most : Option Nat) : Option OpenGroup :=
  match group.items with
  | [] => none
  | item :: rest =>
    if item.isRepeatable then
      some { group with items := .repetition least most item :: rest }
    else none

end OpenGroup

/-- The groups that are open: the innermost one, and those around it from the inside out. -/
structure Builder where
  group : OpenGroup := {}
  outer : List OpenGroup := []
deriving DecidableEq, Repr

namespace Builder

def push (builder : Builder) (item : Ast) : Builder :=
  { builder with group := builder.group.push item }

/-- A closed group becomes an item of the group around it; there is none around the outermost. -/
def close? (builder : Builder) : Option Builder :=
  match builder.outer with
  | [] => none
  | parent :: rest =>
    some ⟨parent.push (.group builder.group.change builder.group.body), rest⟩

def step (builder : Builder) : Token → Option Builder
  | .atom atom => some (builder.push (.atom atom))
  | .flags change => some (builder.push (.flags change))
  | .bar => some { builder with group := builder.group.nextBranch }
  | .groupStart _ change => some ⟨{ change := change }, builder.group :: builder.outer⟩
  | .groupEnd => builder.close?
  | .repetition least most =>
    (builder.group.repeatLast? least most).map fun group => { builder with group := group }

def run (builder : Builder) : List Token → Option Builder
  | [] => some builder
  | token :: rest =>
    match builder.step token with
    | none => none
    | some next => next.run rest

/-- All groups but the outermost have to be closed. -/
def finish? (builder : Builder) : Option Ast :=
  if builder.outer.isEmpty then some builder.group.body else none

theorem run_append (builder : Builder) (xs ys : List Token) :
    builder.run (xs ++ ys) = (builder.run xs).bind fun next => next.run ys := by
  induction xs generalizing builder with
  | nil => rfl
  | cons token rest ih =>
    simp only [List.cons_append, run]
    split
    · rfl
    · exact ih _

end Builder

def Token.groupName? : Token → Option (List Char)
  | .groupStart name _ => name
  | _ => none

/-- No two groups have the same name. -/
def Ast.ofTokens? (tokens : List Token) : Option Ast :=
  if (tokens.filterMap Token.groupName?).Nodup then
    (({} : Builder).run tokens).bind Builder.finish?
  else none

end SqlTemplate.Regex
