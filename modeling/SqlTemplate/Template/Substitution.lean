import SqlTemplate.Template.Segment

/-!
# SqlTemplate.Template.Substitution

Substituting the tokens of a template. A handler is asked for each token content from left to
right. It keeps a state, which is handed on also when it fails; its first failure ends the
substitution.
-/

namespace SqlTemplate.Template

abbrev Handler (σ ε : Type) := String → σ → Except ε (Option String) × σ

variable {σ ε : Type}

/-- A handler that has nothing to say stands for the empty text. -/
def substitute (handler : Handler σ ε) : List Segment → σ → Except ε (List Char) × σ
  | [], state => (.ok [], state)
  | .literal text :: rest, state =>
    match substitute handler rest state with
    | (.error e, final) => (.error e, final)
    | (.ok tail, final) => (.ok (text ++ tail), final)
  | .token content :: rest, state =>
    match handler (String.ofList content) state with
    | (.error e, next) => (.error e, next)
    | (.ok reply, next) =>
      match substitute handler rest next with
      | (.error e, final) => (.error e, final)
      | (.ok tail, final) => (.ok ((reply.getD "").toList ++ tail), final)

def expand (d : Delimiters) (handler : Handler σ ε) (text : String) (state : σ) :
    Except ε String × σ :=
  match substitute handler (segments d text) state with
  | (.error e, final) => (.error e, final)
  | (.ok result, final) => (.ok (String.ofList result), final)

end SqlTemplate.Template
