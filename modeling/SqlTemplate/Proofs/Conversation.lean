import SqlTemplate.Template.Substitution

/-!
# SqlTemplate.Proofs.Conversation

A substitution taken apart. The conversation with the handler is about the token contents alone;
its replies are then filled in between the literals, which never bear on what the handler is asked.

* `substitute_eq`: a substitution is the conversation about its tokens, filled in.
* `converse_append`: a conversation about two lists of contents, one after the other.
* `converse_fst`: a handler whose replies do not depend on its state answers each token by itself,
  up to the first failure.
* `replies_eq_ok_iff`, `replies_eq_error_iff`: all replies, or the leftmost failure.
-/

namespace SqlTemplate.Template

variable {σ ε : Type}

/-- The token contents as texts, the way a handler gets them. -/
def tokens (segments : List Segment) : List String :=
  (contents segments).map String.ofList

@[simp] theorem tokens_literal (text : List Char) (rest : List Segment) :
    tokens (.literal text :: rest) = tokens rest := rfl

@[simp] theorem tokens_token (content : List Char) (rest : List Segment) :
    tokens (.token content :: rest) = String.ofList content :: tokens rest := rfl

/-- The literals of a template, and in the place of each token the next of the given texts. -/
def fill : List Segment → List String → List Char
  | [], _ => []
  | .literal text :: rest, texts => text ++ fill rest texts
  | .token _ :: rest, text :: texts => text.toList ++ fill rest texts
  | .token _ :: rest, [] => fill rest []

/-- Asks a handler for one content after the other, up to its first failure. -/
def converse (handler : Handler σ ε) : List String → σ → Except ε (List String) × σ
  | [], state => (.ok [], state)
  | content :: rest, state =>
    match handler content state with
    | (.error e, next) => (.error e, next)
    | (.ok reply, next) =>
      match converse handler rest next with
      | (.error e, final) => (.error e, final)
      | (.ok texts, final) => (.ok (reply.getD "" :: texts), final)

theorem converse_failed {handler : Handler σ ε} {content : String} {state next : σ} {e : ε}
    (h : handler content state = (.error e, next)) (rest : List String) :
    converse handler (content :: rest) state = (.error e, next) := by
  rw [converse, h]

theorem converse_replied {handler : Handler σ ε} {content : String} {state next : σ}
    {reply : Option String} (h : handler content state = (.ok reply, next)) (rest : List String) :
    converse handler (content :: rest) state =
      ((converse handler rest next).1.map (reply.getD "" :: ·),
        (converse handler rest next).2) := by
  rw [converse, h]
  cases hrest : converse handler rest next with
  | mk outcome final => cases outcome <;> simp only [hrest, Except.map]

/-- A conversation about two lists is one about the first and then one about the second. -/
theorem converse_append (handler : Handler σ ε) (contents contents' : List String) (state : σ) :
    converse handler (contents ++ contents') state =
      match converse handler contents state with
      | (.error e, next) => (.error e, next)
      | (.ok texts, next) =>
        ((converse handler contents' next).1.map (texts ++ ·),
          (converse handler contents' next).2) := by
  induction contents generalizing state with
  | nil =>
    simp only [List.nil_append, converse]
    cases converse handler contents' state with
    | mk outcome final => cases outcome <;> rfl
  | cons content rest ih =>
    cases hreply : handler content state with
    | mk reply next =>
      cases reply with
      | error e => rw [List.cons_append, converse_failed hreply, converse_failed hreply]
      | ok reply =>
        rw [List.cons_append, converse_replied hreply, converse_replied hreply, ih]
        cases converse handler rest next with
        | mk outcome final =>
          cases outcome with
          | error e => rfl
          | ok texts =>
            simp only [Except.map]
            cases (converse handler contents' final).1 <;> rfl

theorem length_of_converse {handler : Handler σ ε} {contents texts : List String} {state next : σ}
    (h : converse handler contents state = (.ok texts, next)) :
    texts.length = contents.length := by
  induction contents generalizing state texts with
  | nil => cases h; rfl
  | cons content rest ih =>
    cases hreply : handler content state with
    | mk reply middle =>
      cases reply with
      | error e => rw [converse_failed hreply] at h; cases h
      | ok reply =>
        rw [converse_replied hreply] at h
        cases hrest : converse handler rest middle with
        | mk outcome final =>
          rw [hrest] at h
          cases outcome with
          | error e => cases h
          | ok others =>
            cases h
            rw [List.length_cons, List.length_cons, ih hrest]

theorem substitute_eq (handler : Handler σ ε) (segments : List Segment) (state : σ) :
    substitute handler segments state =
      ((converse handler (tokens segments) state).1.map (fill segments),
        (converse handler (tokens segments) state).2) := by
  induction segments generalizing state with
  | nil => rfl
  | cons segment rest ih =>
    cases segment with
    | literal text =>
      rw [substitute, ih, tokens_literal]
      cases converse handler (tokens rest) state with
      | mk outcome final => cases outcome <;> rfl
    | token content =>
      rw [substitute, tokens_token, converse]
      cases handler (String.ofList content) state with
      | mk reply next =>
        cases reply with
        | error e => rfl
        | ok reply =>
          simp only [ih]
          cases converse handler (tokens rest) next with
          | mk outcome final => cases outcome <;> rfl

theorem expand_eq (d : Delimiters) (handler : Handler σ ε) (text : String) (state : σ) :
    expand d handler text state =
      ((converse handler (tokens (segments d text)) state).1.map fun texts =>
          String.ofList (fill (segments d text) texts),
        (converse handler (tokens (segments d text)) state).2) := by
  rw [expand, substitute_eq]
  cases converse handler (tokens (segments d text)) state with
  | mk outcome final => cases outcome <;> rfl

/-- The replies to all contents, or the failure at the leftmost one that fails. -/
def replies (reply : String → Except ε String) : List String → Except ε (List String)
  | [] => .ok []
  | content :: rest =>
    match reply content with
    | .error e => .error e
    | .ok text =>
      match replies reply rest with
      | .error e => .error e
      | .ok texts => .ok (text :: texts)

theorem replies_failed {reply : String → Except ε String} {content : String} {e : ε}
    (h : reply content = .error e) (rest : List String) :
    replies reply (content :: rest) = .error e := by
  rw [replies, h]

theorem replies_replied {reply : String → Except ε String} {content text : String}
    (h : reply content = .ok text) (rest : List String) :
    replies reply (content :: rest) = (replies reply rest).map (text :: ·) := by
  rw [replies, h]
  cases replies reply rest <;> rfl

/-- The contents that are asked for: none after the leftmost failure. -/
def asked (reply : String → Except ε String) : List String → List String
  | [] => []
  | content :: rest =>
    match reply content with
    | .error _ => [content]
    | .ok _ => content :: asked reply rest

theorem replies_eq_ok_iff {reply : String → Except ε String} {contents texts : List String} :
    replies reply contents = .ok texts ↔ contents.map reply = texts.map .ok := by
  induction contents generalizing texts with
  | nil => cases texts <;> simp [replies]
  | cons content rest ih =>
    rw [replies, List.map_cons]
    cases hc : reply content with
    | error e => cases texts <;> simp
    | ok text =>
      cases hr : replies reply rest with
      | error e =>
        cases texts with
        | nil => simp
        | cons first others =>
          have : rest.map reply ≠ others.map .ok := fun h => by
            rw [ih.mpr h] at hr; cases hr
          simp [this]
      | ok texts' =>
        cases texts with
        | nil => simp
        | cons first others => simp [← ih, hr]

theorem replies_eq_error_iff {reply : String → Except ε String} {contents : List String} {e : ε} :
    replies reply contents = .error e ↔
      ∃ before content after, contents = before ++ content :: after ∧ reply content = .error e ∧
        ∀ c ∈ before, ∃ text, reply c = .ok text := by
  induction contents with
  | nil => simp [replies]
  | cons first rest ih =>
    rw [replies]
    constructor
    · intro h
      cases hf : reply first with
      | error e' =>
        rw [hf] at h
        cases h
        exact ⟨[], first, rest, rfl, hf, by simp⟩
      | ok text =>
        have hr : replies reply rest = .error e := by
          rw [hf] at h
          cases hr : replies reply rest with
          | error e' => rw [hr] at h; exact h
          | ok texts => rw [hr] at h; cases h
        obtain ⟨before, content, after, heq, hc, hb⟩ := ih.mp hr
        refine ⟨first :: before, content, after, by rw [heq, List.cons_append], hc, ?_⟩
        intro c hmem
        rcases List.mem_cons.mp hmem with rfl | hmem
        · exact ⟨text, hf⟩
        · exact hb c hmem
    · rintro ⟨before, content, after, heq, hc, hb⟩
      cases before with
      | nil =>
        rw [List.nil_append] at heq
        cases heq
        rw [hc]
      | cons first' before =>
        cases heq
        obtain ⟨text, hf⟩ := hb first (List.mem_cons_self ..)
        rw [hf, ih.mpr ⟨before, content, after, rfl, hc,
          fun c hmem => hb c (List.mem_cons_of_mem _ hmem)⟩]

theorem asked_of_ok {reply : String → Except ε String} {contents : List String}
    (h : ∀ content ∈ contents, ∃ text, reply content = .ok text) :
    asked reply contents = contents := by
  induction contents with
  | nil => rfl
  | cons content rest ih =>
    obtain ⟨⟨text, hc⟩, hrest⟩ := List.forall_mem_cons.mp h
    rw [asked, hc]
    exact congrArg (content :: ·) (ih hrest)

theorem asked_of_error {reply : String → Except ε String} {before after : List String}
    {content : String} {e : ε} (hbefore : ∀ c ∈ before, ∃ text, reply c = .ok text)
    (h : reply content = .error e) :
    asked reply (before ++ content :: after) = before ++ [content] := by
  induction before with
  | nil => rw [List.nil_append, asked, h, List.nil_append]
  | cons first rest ih =>
    obtain ⟨⟨text, hf⟩, hrest⟩ := List.forall_mem_cons.mp hbefore
    rw [List.cons_append, asked, hf]
    exact congrArg (first :: ·) (ih hrest)

theorem replies_mapError {δ : Type} (f : ε → δ) (reply : String → Except ε String)
    (contents : List String) :
    replies (fun content => (reply content).mapError f) contents =
      (replies reply contents).mapError f := by
  induction contents with
  | nil => rfl
  | cons content rest ih =>
    simp only [replies, ih]
    cases reply content with
    | error e => rfl
    | ok text => cases replies reply rest <;> rfl

theorem asked_mapError {δ : Type} (f : ε → δ) (reply : String → Except ε String)
    (contents : List String) :
    asked (fun content => (reply content).mapError f) contents = asked reply contents := by
  induction contents with
  | nil => rfl
  | cons content rest ih =>
    simp only [asked, ih]
    cases reply content <;> rfl

theorem replies_ok (text : String) (contents : List String) :
    replies (fun _ => (.ok text : Except ε String)) contents =
      .ok (contents.map fun _ => text) := by
  rw [replies_eq_ok_iff, List.map_map]
  rfl

/-- The states in `Good` do not bear on what a handler replies, and each reply leaves the handler
in such a state. -/
def Follows (handler : Handler σ ε) (reply : String → Except ε String) (Good : σ → Prop) : Prop :=
  ∀ content state, Good state →
    (handler content state).1 = (reply content).map some ∧ Good (handler content state).2

section Follows

variable {handler : Handler σ ε} {reply : String → Except ε String} {Good : σ → Prop}

theorem converse_fst (hreply : Follows handler reply Good) (contents : List String) {state : σ}
    (h : Good state) :
    (converse handler contents state).1 = replies reply contents := by
  induction contents generalizing state with
  | nil => rfl
  | cons content rest ih =>
    obtain ⟨hr, hgood⟩ := hreply content state h
    rw [converse, replies]
    cases hs : handler content state with
    | mk outcome next =>
      rw [hs] at hr hgood
      simp only at hr hgood
      subst hr
      cases reply content with
      | error e => rfl
      | ok text =>
        have := ih hgood
        simp only [Except.map]
        cases hc : converse handler rest next with
        | mk outcome final =>
          rw [hc] at this
          simp only at this
          subst this
          cases replies reply rest <;> rfl

/-- The state after a conversation is the one that asking for the contents leads to, up to the
leftmost failure. -/
theorem converse_snd_eq_foldl (hreply : Follows handler reply Good) (contents : List String)
    {state : σ} (h : Good state) :
    (converse handler contents state).2 =
      (asked reply contents).foldl (fun state content => (handler content state).2) state := by
  induction contents generalizing state with
  | nil => rfl
  | cons content rest ih =>
    obtain ⟨hr, hgood⟩ := hreply content state h
    rw [asked]
    cases hs : handler content state with
    | mk outcome next =>
      rw [hs] at hr hgood
      simp only at hr hgood
      subst hr
      cases hc : reply content with
      | error e =>
        rw [hc] at hs
        rw [converse_failed hs, List.foldl_cons, List.foldl_nil, hs]
      | ok text =>
        rw [hc] at hs
        rw [converse_replied hs, List.foldl_cons, hs]
        exact ih hgood

/-- Where each content that is asked for leaves a note of its own, the notes are kept in order. -/
theorem converse_snd {α : Type} {observe : σ → List α} {note : String → List α}
    (hreply : Follows handler reply Good)
    (hnote : ∀ content state, observe (handler content state).2 = observe state ++ note content)
    (contents : List String) {state : σ} (h : Good state) :
    observe (converse handler contents state).2 =
      observe state ++ (asked reply contents).flatMap note := by
  rw [converse_snd_eq_foldl hreply contents h]
  clear h
  induction asked reply contents generalizing state with
  | nil => rw [List.foldl_nil, List.flatMap_nil, List.append_nil]
  | cons content rest ih =>
    rw [List.foldl_cons, ih, hnote, List.flatMap_cons, List.append_assoc]

end Follows

end SqlTemplate.Template
