import SqlTemplate.Proofs.Scan.OnePass
import SqlTemplate.Proofs.Scan.Pieces

/-!
# SqlTemplate.Proofs.Scan.Calls

Replies have no influence on what is read. A handler that notes its calls shows what it was asked
and what it replied; the pieces of the template alone say what it can be asked.

* `Handler.noted`: a handler with its calls noted, which is the same handler otherwise.
* `Exchange`: what calls there are for a list of contents, and what comes of them.
* `Abides`: calls and outcome of a handler that keeps to the pieces of a template.
* `expand_two_handlers`: any two handlers keep to the same pieces of a template.
-/

namespace SqlTemplate.Template

variable {σ ε : Type}

structure Call (ε : Type) where
  content : String
  reply : Except ε (Option String)

/-- Notes each call, with the reply as the handler gives it. -/
def Handler.noted (handler : Handler σ ε) : Handler (σ × List (Call ε)) ε :=
  fun content (state, calls) =>
    match handler content state with
    | (reply, next) => (reply, (next, calls ++ [⟨content, reply⟩]))

/-- The calls made for a list of contents, and the texts that the handler gives for all of them. The
first failure is the last call. -/
inductive Exchange : List String → List (Call ε) → Except ε (List String) → Prop
  | done : Exchange [] [] (.ok [])
  | failed (content : String) (rest : List String) (error : ε) :
    Exchange (content :: rest) [⟨content, .error error⟩] (.error error)
  | replied (content : String) (reply : Option String) {rest : List String}
    {calls : List (Call ε)} {outcome : Except ε (List String)} :
    Exchange rest calls outcome →
      Exchange (content :: rest) (⟨content, .ok reply⟩ :: calls)
        (outcome.map (reply.getD "" :: ·))

theorem noted_apply {handler : Handler σ ε} {content : String} {state next : σ}
    {reply : Except ε (Option String)} (h : handler content state = (reply, next))
    (calls : List (Call ε)) :
    handler.noted content (state, calls) = (reply, next, calls ++ [⟨content, reply⟩]) := by
  rw [Handler.noted]
  simp only [h]

/-- Asking a handler that notes its calls is asking the handler, and the calls noted are those of an
exchange about the contents. -/
theorem converse_noted (handler : Handler σ ε) (contents : List String) (state : σ)
    (calls : List (Call ε)) :
    ∃ made, converse handler.noted contents (state, calls) =
        ((converse handler contents state).1, (converse handler contents state).2, calls ++ made) ∧
      Exchange contents made (converse handler contents state).1 := by
  induction contents generalizing state calls with
  | nil => exact ⟨[], by rw [List.append_nil]; rfl, .done⟩
  | cons content rest ih =>
    cases hreply : handler content state with
    | mk reply next =>
      have hnoted := noted_apply hreply calls
      cases reply with
      | error error =>
        rw [converse_failed hreply, converse_failed hnoted]
        exact ⟨[⟨content, .error error⟩], rfl, .failed content rest error⟩
      | ok reply =>
        obtain ⟨made, heq, hmade⟩ := ih next (calls ++ [⟨content, .ok reply⟩])
        rw [converse_replied hreply, converse_replied hnoted, heq]
        refine ⟨⟨content, .ok reply⟩ :: made, ?_, .replied content reply hmade⟩
        rw [List.append_assoc]
        rfl

namespace Exchange

variable {contents : List String} {calls : List (Call ε)} {outcome : Except ε (List String)}

theorem asked (h : Exchange contents calls outcome) :
    calls.map Call.content <+: contents := by
  induction h with
  | done => exact List.prefix_rfl
  | failed content rest error => exact List.prefix_append [content] rest
  | replied content reply _ ih => exact List.cons_prefix_cons.mpr ⟨rfl, ih⟩

/-- Without a failure each content is asked for, and the texts are the replies. -/
theorem ok {texts : List String} (h : Exchange contents calls outcome)
    (hok : outcome = .ok texts) :
    calls.map Call.content = contents ∧
      ∃ replies : List (Option String),
        calls.map Call.reply = replies.map .ok ∧ texts = replies.map (·.getD "") := by
  induction h generalizing texts with
  | done =>
    cases hok
    exact ⟨rfl, [], rfl, rfl⟩
  | failed content rest error => cases hok
  | @replied content reply rest calls outcome _ ih =>
    cases outcome with
    | error error => cases hok
    | ok others =>
      cases hok
      obtain ⟨hcontents, replies, hreplies, rfl⟩ := ih rfl
      refine ⟨congrArg (content :: ·) hcontents, reply :: replies, ?_, rfl⟩
      exact congrArg (.ok reply :: ·) hreplies

/-- The failure is that of the last call, and there is no other. -/
theorem error {e : ε} (h : Exchange contents calls outcome) (herror : outcome = .error e) :
    ∃ earlier content, calls = earlier ++ [⟨content, .error e⟩] ∧
      ∀ call ∈ earlier, ∃ reply, call.reply = .ok reply := by
  induction h with
  | done => cases herror
  | failed content rest error =>
    cases herror
    exact ⟨[], content, rfl, by simp⟩
  | @replied content reply rest calls outcome _ ih =>
    cases outcome with
    | ok others => cases herror
    | error error =>
      cases herror
      obtain ⟨earlier, last, rfl, hearlier⟩ := ih rfl
      refine ⟨⟨content, .ok reply⟩ :: earlier, last, rfl, ?_⟩
      exact List.forall_mem_cons.mpr ⟨⟨reply, rfl⟩, hearlier⟩

end Exchange

/-- Calls and outcome of a handler that keeps to the pieces of a template. It is asked for the
contents in order, at most once each. Without a failure it is asked for all of them, and the outcome
is the literals with its replies between them, where no reply stands for the empty text. A failure
is the last call, and is all that comes out. -/
structure Abides (template : Pieces) (calls : List (Call ε)) (outcome : Except ε String) :
    Prop where
  asked : calls.map Call.content <+: template.tokens
  ok : ∀ result, outcome = .ok result →
    calls.map Call.content = template.tokens ∧
      ∃ replies : List (Option String), calls.map Call.reply = replies.map .ok ∧
        result = String.ofList (template.fill (replies.map (·.getD "")))
  error : ∀ e, outcome = .error e →
    ∃ earlier content, calls = earlier ++ [⟨content, .error e⟩] ∧
      ∀ call ∈ earlier, ∃ reply, call.reply = .ok reply

theorem Exchange.abides {template : Pieces} {calls : List (Call ε)}
    {outcome : Except ε (List String)} (h : Exchange template.tokens calls outcome) :
    Abides template calls (outcome.map fun texts => String.ofList (template.fill texts)) where
  asked := h.asked
  ok result hresult := by
    cases outcome with
    | error e => cases hresult
    | ok texts =>
      cases hresult
      obtain ⟨hcontents, replies, hreplies, rfl⟩ := h.ok rfl
      exact ⟨hcontents, replies, hreplies, rfl⟩
  error e herror := by
    cases outcome with
    | ok texts => cases herror
    | error other =>
      cases herror
      exact h.error rfl

/-- Noting the calls changes nothing, and the calls keep to the pieces of the template. -/
theorem expand_noted (d : Delimiters) (handler : Handler σ ε) (text : String) (state : σ) :
    ∃ made, expand d handler.noted text (state, []) =
        ((expand d handler text state).1, (expand d handler text state).2, made) ∧
      Abides (Pieces.ofSegments (segments d text)) made (expand d handler text state).1 := by
  obtain ⟨made, heq, hmade⟩ := converse_noted handler (pieces d text.toList).tokens state []
  rw [expand_eq_pieces, expand_eq_pieces, heq, ofSegments_segments]
  exact ⟨made, rfl, hmade.abides⟩

/-- Whatever two handlers reply, they are asked about the same contents of the same template, each
up to its own first failure, and what they reply ends up between the same literals. It makes no
difference that they are asked, and the output written, while the text is still being read. -/
theorem expand_two_handlers (d : Delimiters) (text : String) {σ σ' ε ε' : Type}
    (handler : Handler σ ε) (state : σ) (other : Handler σ' ε') (state' : σ') :
    let template := Pieces.ofSegments (segments d text)
    let first := expand d handler.noted text (state, [])
    let second := expand d other.noted text (state', [])
    Abides template first.2.2 first.1 ∧
      Abides template second.2.2 second.1 ∧
      (first.2.2.map Call.content <+: second.2.2.map Call.content ∨
        second.2.2.map Call.content <+: first.2.2.map Call.content) ∧
      (expand d handler text state = (first.1, first.2.1) ∧
        expandInOnePass d handler.noted text (state, []) = first) ∧
      expand d other text state' = (second.1, second.2.1) ∧
        expandInOnePass d other.noted text (state', []) = second := by
  intro template first second
  obtain ⟨made, hfirst, habides⟩ := expand_noted d handler text state
  obtain ⟨made', hsecond, habides'⟩ := expand_noted d other text state'
  simp only [first, second, expandInOnePass_eq, hfirst, hsecond, and_true]
  exact ⟨habides, habides', List.prefix_or_prefix_of_prefix habides.asked habides'.asked⟩

end SqlTemplate.Template
