import SqlTemplate.Proofs.Screening

/-!
# SqlTemplate.Proofs.Cache

Engines that keep what parsing gives. Whatever is evaluated or rendered, an engine that keeps each
path under an expression that parses to it goes on to do so, and such an engine answers like one
that keeps nothing.

* `Faithful.compile`, `Faithful.evaluatePath`: the two questions that a cache is asked.
* `Node.faithful_resolve`: rendering keeps an engine faithful, at whatever token it stops.
* `Node.resolve_congr`: two faithful engines render a node to the same text.
-/

namespace SqlTemplate

namespace Table

variable {α : Type} {table : Table α} {name : String} {entry : α}

theorem mem_of_get?_eq_some (h : table.get? name = some entry) : (name, entry) ∈ table := by
  induction table with
  | nil => cases h
  | cons pair rest ih =>
    obtain ⟨key, first⟩ := pair
    rw [get?] at h
    split at h
    · rename_i hkey
      cases h
      exact hkey ▸ List.mem_cons_self ..
    · exact List.mem_cons_of_mem _ (ih h)

theorem mem_names_of_get?_eq_some (h : table.get? name = some entry) : name ∈ table.names :=
  List.mem_map_of_mem (mem_of_get?_eq_some h)

theorem mem_insert {pair : String × α} (h : pair ∈ insert table name entry) :
    pair = (name, entry) ∨ pair ∈ table := by
  induction table with
  | nil => exact .inl (List.mem_singleton.mp h)
  | cons first rest ih =>
    obtain ⟨key, old⟩ := first
    rw [insert] at h
    split at h
    · rename_i hkey
      obtain rfl | hrest := List.mem_cons.mp h
      · exact .inl (by rw [hkey])
      · exact .inr (List.mem_cons_of_mem _ hrest)
    · obtain rfl | hrest := List.mem_cons.mp h
      · exact .inr (List.mem_cons_self ..)
      · exact (ih hrest).imp_right (List.mem_cons_of_mem _)

end Table

namespace Engine

/-- Each path is kept under an expression that parses to it. -/
def Faithful (engine : Engine) : Prop :=
  ∀ entry ∈ engine.paths, Path.parse entry.1 = .ok entry.2

/-- The path of an expression, followed from a root. -/
def follow (expression : String) (root : Value) : Except PathError Value :=
  match Path.parse expression with
  | .error error => .error error
  | .ok path => path.resolve root

variable {engine : Engine}

theorem faithful_of_paths_eq_nil (h : engine.paths = []) : engine.Faithful := by
  rw [Faithful, h]
  exact fun entry hentry => absurd hentry List.not_mem_nil

theorem faithful_clearPaths (engine : Engine) : engine.clearPaths.Faithful :=
  faithful_of_paths_eq_nil rfl

theorem Faithful.pathOf (h : engine.Faithful) : engine.pathOf = Path.parse := by
  funext expression
  rw [Engine.pathOf]
  split
  · rename_i path hget
    exact (h _ (Table.mem_of_get?_eq_some hget)).symm
  · rfl

theorem Faithful.compile (h : engine.Faithful) (expression : String) :
    (engine.compile expression).1 = Path.parse expression := by
  rw [compile_fst, h.pathOf]

theorem Faithful.evaluatePath (h : engine.Faithful) (expression : String) (root : Value) :
    (engine.evaluatePath expression root).1 = follow expression root := by
  rw [evaluatePath_fst, h.pathOf]
  rfl

theorem Faithful.compile_snd (h : engine.Faithful) (expression : String) :
    (engine.compile expression).2.Faithful := by
  rw [Engine.compile]
  split
  · exact h
  · split
    · exact h
    · rename_i path hparse
      intro entry hentry
      obtain rfl | hold := Table.mem_insert hentry
      · exact hparse
      · exact h entry hold

theorem Faithful.evaluatePath_snd (h : engine.Faithful) (expression : String) (root : Value) :
    (engine.evaluatePath expression root).2.Faithful := by
  rw [Engine.evaluatePath_snd]
  exact h.compile_snd expression

theorem Faithful.evaluate_snd (h : engine.Faithful) (evaluator : Evaluator) (expression : String)
    (root : Value) : (evaluator.evaluate expression root engine).2.Faithful := by
  have hask : (engine.ask expression).Faithful := h
  rw [Evaluator.evaluate_snd]
  cases evaluator with
  | paths => exact hask.compile_snd expression
  | custom answer => exact hask

end Engine

namespace Template

variable {σ ε : Type} {handler : Handler σ ε} {Good : σ → Prop}

/-- What each reply keeps true of the state, a conversation keeps true. -/
theorem converse_keeps (h : ∀ content state, Good state → Good (handler content state).2)
    (contents : List String) {state : σ} (hstate : Good state) :
    Good (converse handler contents state).2 := by
  induction contents generalizing state with
  | nil => exact hstate
  | cons content rest ih =>
    have hnext := h content state hstate
    cases hs : handler content state with
    | mk outcome next =>
      rw [hs] at hnext
      cases outcome with
      | error e => rw [converse_failed hs]; exact hnext
      | ok reply => rw [converse_replied hs]; exact ih hnext

end Template

namespace Node

open Template

variable {engine other : Engine}

theorem faithful_resolveToken (node : Node) (parameter : Option Value) (content : String)
    (h : engine.Faithful) : (node.resolveToken parameter content engine).2.Faithful := by
  have happrove (value : String) {next : Engine} (hnext : next.Faithful) :
      (node.approve content value next).2.Faithful := by
    obtain ⟨records, heq⟩ := approve_snd node content value next
    rw [heq]
    exact hnext
  unfold resolveToken
  split
  · exact h
  · rename_i root
    split
    · exact happrove root.toText h
    · have hnext := h.evaluate_snd node.evaluator content root
      split
      · rename_i heq; rw [heq] at hnext; exact hnext
      · rename_i value next heq; rw [heq] at hnext; exact happrove value.toText hnext

theorem faithful_resolve (node : Node) (parameter : Option Value) (h : engine.Faithful) :
    (node.resolve parameter engine).2.Faithful := by
  rw [resolve, expand_eq]
  exact converse_keeps (fun content _ => node.faithful_resolveToken parameter content) _ h

/-- Rendering depends on an engine only through what its expressions stand for. -/
theorem resolve_congr (node : Node) (parameter : Option Value)
    (h : other.pathOf = engine.pathOf) :
    (node.resolve parameter other).1 = (node.resolve parameter engine).1 := by
  cases parameter with
  | none => rw [resolve_none, resolve_none]
  | some root =>
    have hreply : node.tokenReply root other = node.tokenReply root engine := by
      funext content
      rw [tokenReply, tokenReply, Evaluator.answer_congr node.evaluator h]
    rw [resolve_some, resolve_some, hreply]

theorem resolve_of_faithful (node : Node) (parameter : Option Value) (h : engine.Faithful)
    (h' : other.Faithful) :
    (node.resolve parameter other).1 = (node.resolve parameter engine).1 :=
  node.resolve_congr parameter (h'.pathOf.trans h.pathOf.symm)

theorem apply_engine {γ : Type} [RenderContext γ] (node : Node) (context : γ) (engine : Engine) :
    ∃ records, (node.apply context engine).2.2 =
      { (node.resolve (RenderContext.parameter context) engine).2 with records } := by
  rw [apply]
  cases node.resolve (RenderContext.parameter context) engine with
  | mk outcome next => cases outcome <;> exact ⟨_, rfl⟩

theorem faithful_apply {γ : Type} [RenderContext γ] (node : Node) (context : γ)
    (h : engine.Faithful) : (node.apply context engine).2.2.Faithful := by
  obtain ⟨records, heq⟩ := node.apply_engine context engine
  rw [heq]
  exact node.faithful_resolve _ h

theorem render_snd (node : Node) (parameter : Option Value) (engine : Engine) :
    (node.render parameter engine).2 =
      (node.apply (StatementContext.new parameter) engine).2.2 := by
  rw [render]
  cases node.apply (StatementContext.new parameter) engine with
  | mk outcome rest => cases outcome <;> rfl

theorem faithful_render (node : Node) (parameter : Option Value) (h : engine.Faithful) :
    (node.render parameter engine).2.Faithful := by
  rw [render_snd]
  exact node.faithful_apply _ h

theorem render_of_faithful (node : Node) (parameter : Option Value) (h : engine.Faithful)
    (h' : other.Faithful) :
    (node.render parameter other).1 = (node.render parameter engine).1 := by
  rw [render_fst, render_fst, node.resolve_of_faithful _ h h']

/-- The result of an apply, and what becomes of the context. -/
theorem apply_of_faithful {γ : Type} [RenderContext γ] (node : Node) (context : γ)
    (h : engine.Faithful) (h' : other.Faithful) :
    (node.apply context other).1 = (node.apply context engine).1 ∧
      (node.apply context other).2.1 = (node.apply context engine).2.1 := by
  rw [apply_fst, apply_fst, apply_context, apply_context, node.resolve_of_faithful _ h h']
  exact ⟨rfl, rfl⟩

end Node

end SqlTemplate
