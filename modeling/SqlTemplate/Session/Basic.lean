import SqlTemplate.Node.Basic

/-!
# SqlTemplate.Session.Basic

Sessions: contexts and nodes that are referred to by number, over one engine. Every command changes
at most the context that it names, or adds one.
-/

namespace SqlTemplate

structure Session where
  contexts : List StatementContext := []
  nodes : List Node := []
  engine : Engine := {}

namespace Session

inductive Command where
  | newContext (parameter : Option Value) (databaseId : Option String)
  | cloneContext (context : Nat)
  | addNode (text : String) (pattern : Option String) (evaluator : Evaluator)
  | bind (context : Nat) (name : String) (value : Value)
  | setDatabaseId (context : Nat) (id : String)
  | append (context : Nat) (sql : String)
  | state (context : Nat)
  | apply (context node : Nat)
  | uniqueNumber (context : Nat)
  | binding (context : Nat) (name : String)
  | parameter (context : Nat)
  | render (node : Nat) (parameter : Option Value)
  | compile (expression : String)
  | evaluate (expression : String) (root : Value)
  | cachedExpressions
  | clearPaths

inductive Reply where
  | state (context : StatementContext)
  | node (number : Nat) (dynamic : Bool)
  | applied (result : Except RenderError Bool) (context : StatementContext)
  | number (n : Nat)
  | value (value : Option Value)
  | rendered (result : Except RenderError String)
  | compiled (result : Except PathError Path)
  | evaluated (result : Except PathError Value)
  | expressions (list : List String)
  | refused (error : RenderError)
  | noContext
  | noNode

/-- A pattern that is no valid filter is refused. -/
def makeNode (text : String) (pattern : Option String) (evaluator : Evaluator) :
    Except RenderError Node :=
  match pattern with
  | none => .ok { text := text, evaluator := evaluator }
  | some pattern =>
    match Filter.ofPattern pattern with
    | .error error => .error error
    | .ok filter => .ok { text := text, filter := some filter, evaluator := evaluator }

/-- Puts a context in the place of the one with a number. -/
def put (session : Session) (number : Nat) (context : StatementContext) : Session :=
  { session with contexts := session.contexts.set number context }

def addContext (session : Session) (context : StatementContext) : Reply × Session :=
  (.state context, { session with contexts := session.contexts ++ [context] })

/-- Replaces a context by what a change makes of it. -/
def update (session : Session) (number : Nat) (change : StatementContext → StatementContext) :
    Reply × Session :=
  match session.contexts[number]? with
  | none => (.noContext, session)
  | some context =>
    (.state (change context), session.put number (change context))

/-- Reads from a context. -/
def inspect (session : Session) (number : Nat) (view : StatementContext → Reply) :
    Reply × Session :=
  match session.contexts[number]? with
  | none => (.noContext, session)
  | some context => (view context, session)

/-- Where both numbers name nothing, the context is reported. -/
def applyNode (session : Session) (number node : Nat) : Reply × Session :=
  match session.contexts[number]? with
  | none => (.noContext, session)
  | some context =>
    match session.nodes[node]? with
    | none => (.noNode, session)
    | some node =>
      match node.apply context session.engine with
      | (result, next, engine) =>
        (.applied result next, { session.put number next with engine := engine })

def drawNumber (session : Session) (number : Nat) : Reply × Session :=
  match session.contexts[number]? with
  | none => (.noContext, session)
  | some context =>
    match context.uniqueNumber with
    | (n, next) => (.number n, session.put number next)

def run (session : Session) : Command → Reply × Session
  | .newContext parameter databaseId =>
    match databaseId with
    | none => session.addContext (.new parameter)
    | some id => session.addContext ((StatementContext.new parameter).withDatabaseId id)
  | .cloneContext number =>
    match session.contexts[number]? with
    | none => (.noContext, session)
    | some context => session.addContext context
  | .addNode text pattern evaluator =>
    match makeNode text pattern evaluator with
    | .error error => (.refused error, session)
    | .ok node =>
      (.node session.nodes.length node.isDynamic, { session with nodes := session.nodes ++ [node] })
  | .bind number name value => session.update number fun context => context.bind name value
  | .setDatabaseId number id => session.update number fun context => context.withDatabaseId id
  | .append number sql => session.update number fun context => context.appendSql sql
  | .state number => session.inspect number .state
  | .apply number node => session.applyNode number node
  | .uniqueNumber number => session.drawNumber number
  | .binding number name =>
    session.inspect number fun context => .value (RenderContext.binding context name)
  | .parameter number =>
    session.inspect number fun context => .value (RenderContext.parameter context)
  | .render node parameter =>
    match session.nodes[node]? with
    | none => (.noNode, session)
    | some node =>
      match node.render parameter session.engine with
      | (result, engine) => (.rendered result, { session with engine := engine })
  | .compile expression =>
    match session.engine.compile expression with
    | (result, engine) => (.compiled result, { session with engine := engine })
  | .evaluate expression root =>
    match session.engine.evaluatePath expression root with
    | (result, engine) => (.evaluated result, { session with engine := engine })
  | .cachedExpressions => (.expressions session.engine.cachedExpressions, session)
  | .clearPaths => (.expressions [], { session with engine := session.engine.clearPaths })

def runAll (session : Session) : List Command → List Reply × Session
  | [] => ([], session)
  | command :: rest =>
    match session.run command with
    | (reply, next) =>
      match next.runAll rest with
      | (replies, final) => (reply :: replies, final)

end Session

end SqlTemplate
