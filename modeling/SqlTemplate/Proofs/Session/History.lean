import Mathlib.Data.List.Induction
import SqlTemplate.Proofs.Cache
import SqlTemplate.Proofs.Session.Contexts

/-!
# SqlTemplate.Proofs.Session.History

The history of a context: its first parameter, and what has been done to it since, in order. What
is done to a context depends on nothing but the context, so its history tells all of its state.

* `Table.names_ofPairs`, `Table.get?_ofPairs`: tables that pairs are entered into one by one.
* `History.replay`: the context that a history leads to.
* `History.describes_replay`: its names, bindings, parameter and next number.
-/

namespace SqlTemplate

namespace Table

variable {α : Type}

theorem ofPairs_append (pairs more : List (String × α)) :
    ofPairs (pairs ++ more) =
      more.foldl (fun table pair => insert table pair.1 pair.2) (ofPairs pairs) :=
  List.foldl_append

theorem ofPairs_concat (pairs : List (String × α)) (pair : String × α) :
    ofPairs (pairs ++ [pair]) = insert (ofPairs pairs) pair.1 pair.2 :=
  ofPairs_append pairs [pair]

theorem eraseDups_concat (names : List String) (name : String) :
    (names ++ [name]).eraseDups =
      if name ∈ names then names.eraseDups else names.eraseDups ++ [name] := by
  rw [List.eraseDups_append]
  by_cases h : name ∈ names
  · simp [List.removeAll, h]
  · simp [List.removeAll, h, List.eraseDups_cons]

theorem nodup_eraseDups (names : List String) : names.eraseDups.Nodup := by
  induction names using List.reverseRecOn with
  | nil => exact List.nodup_nil
  | append_singleton names name ih =>
    rw [eraseDups_concat]
    split
    · exact ih
    · rename_i hnew
      refine List.nodup_append.mpr ⟨ih, by simp, fun a ha b hb hab => hnew ?_⟩
      rw [← List.mem_singleton.mp hb, ← hab]
      exact List.mem_eraseDups.mp ha

/-- Names stand in the order in which they were first entered. -/
theorem names_ofPairs (pairs : List (String × α)) :
    names (ofPairs pairs) = (pairs.map Prod.fst).eraseDups := by
  induction pairs using List.reverseRecOn with
  | nil => rfl
  | append_singleton pairs pair ih =>
    rw [ofPairs_concat, names_insert, ih, List.map_append, List.map_singleton, eraseDups_concat]
    simp only [List.mem_eraseDups]

theorem nodup_names_ofPairs (pairs : List (String × α)) : (names (ofPairs pairs)).Nodup := by
  rw [names_ofPairs]
  exact nodup_eraseDups _

/-- A name answers with the entry that was made last. -/
theorem get?_ofPairs (pairs : List (String × α)) (name : String) :
    get? (ofPairs pairs) name = pairs.reverse.lookup name := by
  induction pairs using List.reverseRecOn with
  | nil => rfl
  | append_singleton pairs pair ih =>
    obtain ⟨key, entry⟩ := pair
    rw [ofPairs_concat, get?_insert, ih, List.reverse_concat, List.lookup_cons]
    by_cases h : key = name
    · simp [h]
    · have hbeq : (name == key) = false := beq_eq_false_iff_ne.mpr (Ne.symm h)
      rw [if_neg h, hbeq]

end Table

/-- What can be done to a context. A number that is drawn is told with the event. -/
inductive Event where
  | bound (name : String) (value : Value)
  | appended (sql : String)
  | applied (node : Node)
  | drew (number : Nat)

namespace Event

/-- What an event makes of a context. An apply goes over an empty engine. -/
def act (context : StatementContext) : Event → StatementContext
  | .bound name value => context.bind name value
  | .appended sql => context.appendSql sql
  | .applied node => (node.apply context {}).2.1
  | .drew _ => context.uniqueNumber.2

def binding? : Event → Option (String × Value)
  | .bound name value => some (name, value)
  | _ => none

def number? : Event → Option Nat
  | .drew number => some number
  | _ => none

theorem bindings_act (context : StatementContext) (event : Event) :
    (act context event).bindings =
      event.binding?.toList.foldl (fun table pair => table.insert pair.1 pair.2)
        context.bindings := by
  cases event with
  | applied node =>
    rw [act, Node.apply_context]
    cases (node.resolve (RenderContext.parameter context) {}).1 <;> rfl
  | _ => rfl

theorem nextNumber_act (context : StatementContext) (event : Event) :
    (act context event).nextNumber = context.nextNumber + event.number?.toList.length := by
  cases event with
  | applied node =>
    rw [act, Node.apply_context]
    cases (node.resolve (RenderContext.parameter context) {}).1 <;> rfl
  | _ => rfl

end Event

/-- A context that is copied from another has the history of that one. -/
structure History where
  parameter : Option Value
  events : List Event

namespace History

def extend (history : History) (events : List Event) : History :=
  { history with events := history.events ++ events }

/-- The context that the history leads to. -/
def replay (history : History) : StatementContext :=
  history.events.foldl Event.act (.new history.parameter)

/-- All bindings that were ever made, in order. The reserved names are bound from the start. -/
def bindings (history : History) : List (String × Value) :=
  (parameterName, history.parameter.getD .null) :: (databaseIdName, .null) ::
    history.events.filterMap Event.binding?

/-- The value that a name was last bound to. -/
def lastBound (history : History) (name : String) : Option Value :=
  history.bindings.reverse.lookup name

/-- The names that are not reserved, in the order in which they were first bound. -/
def ownNames (history : History) : List String :=
  ((history.events.filterMap Event.binding?).map Prod.fst).filter
    (· ∉ [parameterName, databaseIdName]) |>.eraseDups

/-- The numbers that were drawn, in order. -/
def numbers (history : History) : List Nat :=
  history.events.filterMap Event.number?

/-- What a history tells of the state that it leads to. -/
structure Describes (history : History) (context : StatementContext) : Prop where
  distinct : context.bindings.names.Nodup
  names : context.bindings.names = parameterName :: databaseIdName :: history.ownNames
  binding : ∀ name, RenderContext.binding context name = history.lastBound name
  parameter : RenderContext.parameter context =
    (history.lastBound parameterName).filter fun value => !value.isNull
  nextNumber : context.uniqueNumber.1 = history.numbers.length

theorem replay_extend (history : History) (events : List Event) :
    (history.extend events).replay = events.foldl Event.act history.replay :=
  List.foldl_append

theorem numbers_extend (history : History) (events : List Event) :
    (history.extend events).numbers = history.numbers ++ events.filterMap Event.number? :=
  List.filterMap_append

section Concat

variable (parameter : Option Value) (events : List Event) (event : Event)

theorem replay_concat :
    replay ⟨parameter, events ++ [event]⟩ = Event.act (replay ⟨parameter, events⟩) event := by
  simp [replay]

theorem bindings_concat :
    bindings ⟨parameter, events ++ [event]⟩ =
      bindings ⟨parameter, events⟩ ++ event.binding?.toList := by
  simp only [bindings, List.filterMap_append, List.cons_append]
  cases hb : event.binding? <;> simp [hb]

theorem numbers_concat :
    numbers ⟨parameter, events ++ [event]⟩ =
      numbers ⟨parameter, events⟩ ++ event.number?.toList := by
  simp only [numbers, List.filterMap_append]
  cases hn : event.number? <;> simp [hn]

end Concat

theorem bindings_replay (history : History) :
    history.replay.bindings = Table.ofPairs history.bindings := by
  obtain ⟨parameter, events⟩ := history
  induction events using List.reverseRecOn with
  | nil =>
    have hne : parameterName ≠ databaseIdName := by decide
    simp [replay, bindings, StatementContext.new, Table.ofPairs, Table.insert, hne]
  | append_singleton events event ih =>
    rw [replay_concat, Event.bindings_act, ih, bindings_concat, Table.ofPairs_append]

theorem nextNumber_replay (history : History) :
    history.replay.nextNumber = history.numbers.length := by
  obtain ⟨parameter, events⟩ := history
  induction events using List.reverseRecOn with
  | nil => rfl
  | append_singleton events event ih =>
    rw [replay_concat, Event.nextNumber_act, ih, numbers_concat, List.length_append]

theorem eraseDups_bindings (history : History) :
    (history.bindings.map Prod.fst).eraseDups =
      parameterName :: databaseIdName :: history.ownNames := by
  have hne : databaseIdName ≠ parameterName := by decide
  rw [bindings, List.map_cons, List.map_cons, List.eraseDups_cons,
    List.filter_cons_of_pos (by simpa using hne), List.eraseDups_cons, List.filter_filter, ownNames]
  simp [Bool.and_comm, Bool.beq_eq_decide_eq]

theorem describes_replay (history : History) : history.Describes history.replay where
  distinct := by
    rw [bindings_replay]
    exact Table.nodup_names_ofPairs _
  names := by rw [bindings_replay, Table.names_ofPairs, eraseDups_bindings]
  binding name := by
    show history.replay.bindings.get? name = _
    rw [bindings_replay, Table.get?_ofPairs, lastBound]
  parameter := by
    have hbinding : RenderContext.binding history.replay parameterName =
        history.lastBound parameterName := by
      show history.replay.bindings.get? parameterName = _
      rw [bindings_replay, Table.get?_ofPairs, lastBound]
    rw [RenderContext.parameter, hbinding]
    cases history.lastBound parameterName with
    | none => rfl
    | some value => cases value <;> rfl
  nextNumber := nextNumber_replay history

end History

end SqlTemplate
