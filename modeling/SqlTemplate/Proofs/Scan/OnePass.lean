import SqlTemplate.Template.Substitution

/-!
# SqlTemplate.Proofs.Scan.OnePass

Scan and substitution in one pass. The handler is asked as soon as the end of a token has been met,
and the output grows while the text is read. This is the same as to scan the text first and to
substitute its tokens afterwards: no step of the scan looks at the output or at the handler.

* `Closing.collect_eq`: the content of a token, gathered on the way to its end.
* `Trace.expandFrom_eq`: the rest of a pass, whatever has been put out before.
* `expandInOnePass_eq`: a whole pass.
-/

namespace SqlTemplate.Template

variable {σ ε : Type}

/-- Gathers the content of a token from `offset` on, and finds where its close delimiter begins. -/
def Closing.collect (d : Delimiters) (text : List Char) (bytes : Array UInt8) (offset : Nat)
    (content : List Char) : Option (List Char × Nat) :=
  match _h : Text.find? d.closing (remainder text offset) with
  | none => none
  | some ahead =>
    let stop := offset + ahead
    if escapedAt bytes offset stop then
      collect d text bytes (stop + Text.byteLength d.closing)
        (content ++ slice text offset (stop - 1) ++ d.closing)
    else some (content ++ slice text offset stop, stop)
termination_by Text.byteLength text - offset
decreasing_by
  have := find?_remainder_le d.closing_ne_nil _h
  have := Text.byteLength_pos d.closing_ne_nil
  omega

theorem Closing.collect_eq (d : Delimiters) (text : List Char) (bytes : Array UInt8)
    (offset : Nat) (content : List Char) :
    collect d text bytes offset content =
      (trace d text bytes offset).stop?.map fun stop =>
        (content ++ (trace d text bytes offset).content d text, stop) := by
  fun_induction collect d text bytes offset content with
  | case1 offset content hfind =>
    rw [trace_of_find?_eq_none hfind]
    rfl
  | case2 offset content ahead hfind stop hescaped ih =>
    rw [trace_of_find?_eq_some hfind, if_pos hescaped, ih]
    simp only [stop?, Closing.content, List.append_assoc]
    rfl
  | case3 offset content ahead hfind stop hescaped =>
    rw [trace_of_find?_eq_some hfind, if_neg hescaped]
    rfl

theorem Closing.collect_eq_some_iff {d : Delimiters} {text content : List Char}
    {bytes : Array UInt8} {offset stop : Nat} :
    collect d text bytes offset [] = some (content, stop) ↔
      (trace d text bytes offset).stop? = some stop ∧
        (trace d text bytes offset).content d text = content := by
  rw [collect_eq]
  cases (trace d text bytes offset).stop? <;> simp [and_comm]

theorem Closing.collect_le {d : Delimiters} {text content found : List Char}
    {bytes : Array UInt8} {offset stop : Nat}
    (h : collect d text bytes offset content = some (found, stop)) :
    offset ≤ stop ∧ stop + Text.byteLength d.closing ≤ Text.byteLength text := by
  rw [collect_eq] at h
  obtain ⟨_, hstop, heq⟩ := Option.map_eq_some_iff.mp h
  cases heq
  exact stop?_trace_le hstop

/-- A result with more output before it. A failure has no output. -/
def following (output : List Char) : Except ε (List Char) × σ → Except ε (List Char) × σ
  | (.error e, final) => (.error e, final)
  | (.ok rest, final) => (.ok (output ++ rest), final)

theorem following_following (first second : List Char) (result : Except ε (List Char) × σ) :
    following first (following second result) = following (first ++ second) result := by
  obtain ⟨outcome, final⟩ := result
  cases outcome with
  | error e => rfl
  | ok rest => simp only [following, List.append_assoc]

theorem following_nil (result : Except ε (List Char) × σ) : following [] result = result := by
  obtain ⟨outcome, final⟩ := result
  cases outcome <;> rfl

theorem substitute_literal (handler : Handler σ ε) (text : List Char) (rest : List Segment)
    (state : σ) :
    substitute handler (.literal text :: rest) state =
      following text (substitute handler rest state) := by
  rw [substitute]
  cases substitute handler rest state with
  | mk outcome final => cases outcome <;> rfl

theorem substitute_failed {handler : Handler σ ε} {content : List Char} {state next : σ} {e : ε}
    (h : handler (String.ofList content) state = (.error e, next)) (rest : List Segment) :
    substitute handler (.token content :: rest) state = (.error e, next) := by
  rw [substitute, h]

theorem substitute_replied {handler : Handler σ ε} {content : List Char} {state next : σ}
    {reply : Option String} (h : handler (String.ofList content) state = (.ok reply, next))
    (rest : List Segment) :
    substitute handler (.token content :: rest) state =
      following (reply.getD "").toList (substitute handler rest next) := by
  rw [substitute, h]
  cases hrest : substitute handler rest next with
  | mk outcome final => cases outcome <;> simp only [hrest, following]

/-- Reads the text from `offset` on, with the output so far. -/
def Trace.expandFrom (d : Delimiters) (handler : Handler σ ε) (text : List Char)
    (bytes : Array UInt8) (offset : Nat) (output : List Char) (state : σ) :
    Except ε (List Char) × σ :=
  match _h : Text.find? d.opening (remainder text offset) with
  | none => (.ok (output ++ slice text offset (Text.byteLength text)), state)
  | some ahead =>
    let start := offset + ahead
    let inner := start + Text.byteLength d.opening
    if escapedAt bytes offset start then
      expandFrom d handler text bytes inner
        (output ++ slice text offset (start - 1) ++ d.opening) state
    else
      match _hc : Closing.collect d text bytes inner [] with
      | none =>
        (.ok (output ++ slice text offset start ++ slice text start (Text.byteLength text)), state)
      | some (content, stop) =>
        match handler (String.ofList content) state with
        | (.error e, next) => (.error e, next)
        | (.ok reply, next) =>
          expandFrom d handler text bytes (stop + Text.byteLength d.closing)
            (output ++ slice text offset start ++ (reply.getD "").toList) next
termination_by Text.byteLength text - offset
decreasing_by
  · have := find?_remainder_le d.opening_ne_nil _h
    have := Text.byteLength_pos d.opening_ne_nil
    omega
  · have := find?_remainder_le d.opening_ne_nil _h
    have := Text.byteLength_pos d.opening_ne_nil
    have := Closing.collect_le _hc
    omega

theorem Trace.expandFrom_eq (d : Delimiters) (handler : Handler σ ε) (text : List Char)
    (bytes : Array UInt8) (offset : Nat) (output : List Char) (state : σ) :
    expandFrom d handler text bytes offset output state =
      following output
        (substitute handler ((scanFrom d text bytes offset).segments d text) state) := by
  fun_induction expandFrom d handler text bytes offset output state with
  | case1 offset output state hfind =>
    rw [scanFrom_of_find?_eq_none hfind, segments, substitute_literal, substitute,
      following_following, following, List.append_nil]
  | case2 offset output state ahead hfind start inner hescaped ih =>
    rw [scanFrom_of_find?_eq_some hfind, if_pos hescaped, ih, segments, substitute_literal,
      following_following, List.append_assoc]
  | case3 offset output state ahead hfind start inner hescaped hcollect =>
    have hstop : (Closing.trace d text bytes inner).stop? = none := by
      rw [Closing.collect_eq] at hcollect
      exact Option.map_eq_none_iff.mp hcollect
    rw [scanFrom_of_find?_eq_some hfind, if_neg hescaped]
    simp only [start, inner] at hstop ⊢
    rw [hstop]
    simp only [segments]
    rw [substitute_literal, substitute_literal, substitute, following_following,
      following_following, following, List.append_nil]
  | case4 offset output state ahead hfind start inner hescaped content stop hcollect e next
    hreply =>
    obtain ⟨hstop, hcontent⟩ := Closing.collect_eq_some_iff.mp hcollect
    rw [scanFrom_of_find?_eq_some hfind, if_neg hescaped]
    simp only [start, inner] at hstop hcontent ⊢
    rw [hstop]
    simp only [segments]
    rw [hcontent, substitute_literal, substitute_failed hreply]
    rfl
  | case5 offset output state ahead hfind start inner hescaped content stop hcollect reply next
    hreply ih =>
    obtain ⟨hstop, hcontent⟩ := Closing.collect_eq_some_iff.mp hcollect
    rw [scanFrom_of_find?_eq_some hfind, if_neg hescaped, ih]
    simp only [start, inner] at hstop hcontent ⊢
    rw [hstop]
    simp only [segments]
    rw [hcontent, substitute_literal, substitute_replied hreply, following_following,
      following_following, List.append_assoc]

def expandInOnePass (d : Delimiters) (handler : Handler σ ε) (text : String) (state : σ) :
    Except ε String × σ :=
  match Trace.expandFrom d handler text.toList (Text.encode text.toList).toArray 0 [] state with
  | (.error e, final) => (.error e, final)
  | (.ok output, final) => (.ok (String.ofList output), final)

theorem expandInOnePass_eq (d : Delimiters) (handler : Handler σ ε) (text : String) (state : σ) :
    expandInOnePass d handler text state = expand d handler text state := by
  rw [expandInOnePass, Trace.expandFrom_eq, following_nil]
  rfl

end SqlTemplate.Template
