import SqlTemplate.Proofs.Scan.Pieces

/-!
# SqlTemplate.Proofs.Scan.Encoding

Writing pieces as a template. Delimiters that belong to the text of a piece are escaped; a text that
ends in an escape cannot be written right before a delimiter, since the two would be read together.

* `Pieces.encode`, `Pieces.WellFormed`: the template of some pieces, and which pieces have one.
* `Unescapes.reader_escapeEach`: a reader that leaves out escapes gets back what was escaped.
* `Pieces.encode_round_trip`: a template is read as the pieces it was written from, and every
  template is read as pieces that can be written.
-/

namespace SqlTemplate.Template

variable {needle text tail before after content rest cs : List Char} {c : Char} {d : Delimiters}

/-! ## Escaping -/

/-- Writes an escape before each occurrence of `needle`. -/
def escapeEach (needle : List Char) : List Char → List Char
  | [] => []
  | c :: cs =>
    if needle.isPrefixOf (c :: cs) then escape :: c :: escapeEach needle cs
    else c :: escapeEach needle cs

theorem escapeEach_cons (h : ¬needle <+: c :: cs) :
    escapeEach needle (c :: cs) = c :: escapeEach needle cs := by
  rw [escapeEach, if_neg (by rwa [List.isPrefixOf_iff_prefix])]

theorem escapeEach_of_notMem {first : Char} {others inner : List Char} (hinner : first ∉ inner)
    (rest : List Char) :
    escapeEach (first :: others) (inner ++ rest) = inner ++ escapeEach (first :: others) rest := by
  induction inner with
  | nil => rfl
  | cons c cs ih =>
    have hne := List.ne_of_not_mem_cons hinner
    have hhere : ¬first :: others <+: c :: (cs ++ rest) := fun h =>
      hne (List.cons_prefix_cons.mp h).1
    rw [List.cons_append, escapeEach_cons hhere, ih (List.not_mem_of_not_mem_cons hinner)]
    rfl

theorem Clean.escapeEach_append (hclean : Clean needle) (rest : List Char) :
    escapeEach needle (needle ++ rest) = escape :: (needle ++ escapeEach needle rest) := by
  obtain ⟨first, others, rfl, hfirst, -⟩ := hclean
  have hhere : (first :: others).isPrefixOf (first :: (others ++ rest)) = true :=
    List.isPrefixOf_iff_prefix.mpr (List.prefix_append (first :: others) rest)
  rw [List.cons_append, escapeEach, if_pos hhere, escapeEach_of_notMem hfirst]
  rfl

/-- Escaping leaves a part of a delimiter alone, and what follows the text does not complete it. -/
theorem prefix_of_prefix_escapeEach {first : Char} {others part : List Char}
    (hfirst : first ∉ part) (hescape : escape ∉ part) (htail : ∀ c ∈ tail.head?, c = first)
    (h : part <+: escapeEach (first :: others) text ++ tail) : part <+: text := by
  induction part generalizing text with
  | nil => exact List.nil_prefix
  | cons p ps ih =>
    have hpf := List.ne_of_not_mem_cons hfirst
    have hpe := List.ne_of_not_mem_cons hescape
    cases text with
    | nil =>
      obtain ⟨after, rfl⟩ := h
      exact absurd (htail p rfl).symm hpf
    | cons c cs =>
      rw [escapeEach] at h
      split at h
      · exact absurd (List.cons_prefix_cons.mp h).1.symm hpe
      · obtain ⟨rfl, hrest⟩ := List.cons_prefix_cons.mp h
        refine List.cons_prefix_cons.mpr ⟨rfl, ih ?_ ?_ hrest⟩
        · exact List.not_mem_of_not_mem_cons hfirst
        · exact List.not_mem_of_not_mem_cons hescape

/-- No delimiter begins with a character of an escaped text. -/
theorem Clean.not_prefix_escapeEach (hclean : Clean needle) (htail : tail = [] ∨ needle <+: tail)
    (c : Char) (cs : List Char) : ¬needle <+: escapeEach needle (c :: cs) ++ tail := by
  by_cases hhere : needle <+: c :: cs
  · rw [escapeEach, if_pos (List.isPrefixOf_iff_prefix.mpr hhere)]
    exact hclean.not_prefix_escape _
  · rw [escapeEach_cons hhere]
    obtain ⟨first, others, rfl, hfirst, hescape⟩ := hclean
    intro h
    obtain ⟨rfl, hothers⟩ := List.cons_prefix_cons.mp h
    refine hhere (List.cons_prefix_cons.mpr ⟨rfl, ?_⟩)
    refine prefix_of_prefix_escapeEach hfirst (List.not_mem_of_not_mem_cons hescape) ?_ hothers
    intro c hc
    obtain rfl | ⟨after, rfl⟩ := htail
    · cases hc
    · exact (Option.some.inj hc).symm

/-- A reader that takes an escaped delimiter for the delimiter, and any other character as it is.
With `keep` a text is put in front of what has been read. -/
structure Unescapes {α : Type} (needle : List Char) (reader : List Char → α)
    (keep : List Char → α → α) : Prop where
  keep_nil : ∀ result, keep [] result = result
  keep_append : ∀ front back result, keep (front ++ back) result = keep front (keep back result)
  escaped : ∀ {rest}, ¬needle <+: escape :: (needle ++ rest) →
    reader (escape :: (needle ++ rest)) = keep needle (reader rest)
  plain : ∀ {c cs}, ¬needle <+: c :: cs → (c = escape → ¬needle <+: cs) →
    reader (c :: cs) = keep [c] (reader cs)

theorem unescapes_readContent (d : Delimiters) :
    Unescapes d.closing (readContent d) fun text =>
      Option.map fun (content, after) => (text ++ content, after) where
  keep_nil result := by simp
  keep_append front back result := by simp [Function.comp_def]
  escaped := readContent_escaped
  plain := readContent_cons

theorem unescapes_pieces (d : Delimiters) :
    Unescapes d.opening (pieces d) Pieces.prepend where
  keep_nil := Pieces.prepend_nil
  keep_append front back result := (Pieces.prepend_prepend front back result).symm
  escaped := pieces_escaped
  plain := pieces_cons

/-- A text that was escaped is read as it was. It may stand before a delimiter if it does not end in
an escape, and at the end of the text anyway. -/
theorem Unescapes.reader_escapeEach {α : Type} {reader : List Char → α}
    {keep : List Char → α → α} (hreader : Unescapes needle reader keep) (hclean : Clean needle)
    (htail : tail = [] ∨ needle <+: tail ∧ endsEscaped text = false) :
    reader (escapeEach needle text ++ tail) = keep text (reader tail) := by
  have hne := hclean.ne_nil
  have hstop : tail = [] ∨ needle <+: tail := htail.imp_right And.left
  induction text using steps_induction hne with
  | nil => exact (hreader.keep_nil (reader tail)).symm
  | delimiter rest ih =>
    have ih := ih (htail.imp_right fun h => ⟨h.1, endsEscaped_of_append needle h.2⟩)
    rw [hclean.escapeEach_append, List.cons_append, List.append_assoc,
      hreader.escaped (hclean.not_prefix_escape _), ih, hreader.keep_append]
  | escaped rest hplain ih =>
    -- The escape in front is a character of the text, and is followed by one of its own.
    have ih := ih (htail.imp_right fun h => ⟨h.1, endsEscaped_of_append (escape :: needle) h.2⟩)
    rw [escapeEach_cons hplain, hclean.escapeEach_append, List.cons_append, List.cons_append,
      hreader.plain (hclean.not_prefix_escape _) (fun _ => hclean.not_prefix_escape _),
      List.append_assoc, hreader.escaped (hclean.not_prefix_escape _), ih, ← hreader.keep_append,
      ← hreader.keep_append]
    rfl
  | plain c cs hplain hesc ih =>
    have ih := ih (htail.imp_right fun h => ⟨h.1, endsEscaped_of_append [c] h.2⟩)
    have hhere := hclean.not_prefix_escapeEach hstop c cs
    rw [escapeEach_cons hplain, List.cons_append] at hhere
    have hnext : c = escape → ¬needle <+: escapeEach needle cs ++ tail := by
      rintro rfl
      cases cs with
      | cons next others => exact hclean.not_prefix_escapeEach hstop next others
      | nil =>
        obtain rfl | ⟨-, hends⟩ := htail
        · exact fun h => hne (List.prefix_nil.mp h)
        · cases hends
    rw [escapeEach_cons hplain, List.cons_append, hreader.plain hhere hnext, ih,
      ← hreader.keep_append]
    rfl

/-! ## Pieces -/

namespace Pieces

/-- No content ends in an escape, and no literal does that a token follows. -/
def WellFormed : Pieces → Prop
  | last _ => True
  | token literal content rest =>
    endsEscaped literal = false ∧ endsEscaped content = false ∧ rest.WellFormed

/-- The template with these pieces. -/
def encode (d : Delimiters) : Pieces → List Char
  | last literal => escapeEach d.opening literal
  | token literal content rest =>
    escapeEach d.opening literal ++
      (d.opening ++ (escapeEach d.closing content ++ (d.closing ++ rest.encode d)))

theorem pieces_encode (hopening : Clean d.opening) (hclosing : Clean d.closing) {template : Pieces}
    (h : template.WellFormed) : pieces d (template.encode d) = template := by
  induction template with
  | last literal =>
    rw [encode, ← List.append_nil (escapeEach d.opening literal),
      (unescapes_pieces d).reader_escapeEach hopening (.inl rfl), pieces_nil, prepend,
      List.append_nil]
  | token literal content rest ih =>
    obtain ⟨hliteral, hcontent, hrest⟩ := h
    have hread : readContent d (escapeEach d.closing content ++ (d.closing ++ rest.encode d)) =
        some (content, rest.encode d) := by
      rw [(unescapes_readContent d).reader_escapeEach hclosing
        (.inr ⟨List.prefix_append _ _, hcontent⟩), readContent_closing, Option.map_some]
      simp only [List.append_nil]
    rw [encode, (unescapes_pieces d).reader_escapeEach hopening
      (.inr ⟨List.prefix_append _ _, hliteral⟩), pieces_opening, hread]
    simp only
    rw [ih hrest, prepend, List.append_nil]

theorem WellFormed.prepend {text : List Char} {template : Pieces} (h : template.WellFormed)
    (htext : endsEscaped text = false) : (template.prepend text).WellFormed := by
  cases template with
  | last literal => trivial
  | token literal content rest =>
    obtain ⟨hliteral, hcontent, hrest⟩ := h
    refine ⟨?_, hcontent, hrest⟩
    rw [endsEscaped_append]
    split
    · exact htext
    · exact hliteral

end Pieces

/-- The search for the end of a token ends at a delimiter that is not escaped. -/
theorem endsEscaped_readContent (hclosing : Clean d.closing)
    (h : readContent d text = some (content, rest)) : endsEscaped content = false := by
  fun_induction readContent d text generalizing content with
  | case1 => cases h
  | case2 text before after hcut hescaped ih =>
    obtain ⟨⟨content', rest'⟩, hread, heq⟩ := Option.map_eq_some_iff.mp h
    cases heq
    rw [endsEscaped_append]
    split
    · rw [endsEscaped_append, if_neg d.closing_ne_nil, hclosing.endsEscaped]
    · exact ih hread
  | case3 text before after hcut hescaped =>
    cases h
    exact Bool.not_eq_true _ ▸ hescaped

theorem wellFormed_pieces (hopening : Clean d.opening) (hclosing : Clean d.closing)
    (text : List Char) : (pieces d text).WellFormed := by
  rw [pieces]
  fun_induction read d text with
  | case1 => trivial
  | case2 text before after hcut hescaped ih =>
    refine ih.prepend ?_
    rw [endsEscaped_append, if_neg d.opening_ne_nil, hopening.endsEscaped]
  | case3 => trivial
  | case4 text before after hcut hescaped content rest hread ih =>
    have hbefore : endsEscaped before = false := Bool.not_eq_true _ ▸ hescaped
    rw [Pieces.ofSegments, Pieces.ofSegments]
    exact Pieces.WellFormed.prepend ⟨rfl, endsEscaped_readContent hclosing hread, ih⟩ hbefore

/-- Pieces that are well-formed are read back from the template that they are written as, one token
after the other. Every template is read as such pieces, and so written again as a template that is
read alike. -/
theorem Pieces.encode_round_trip :
    let scan (text : String) : Pieces := Pieces.ofSegments (segments .dollar text)
    let write (template : Pieces) : String := String.ofList (template.encode .dollar)
    (∀ template : Pieces, template.WellFormed →
      scan (write template) = template ∧
        ∀ {σ ε : Type} (handler : Handler σ ε) (state : σ),
          expand .dollar handler (write template) state =
            ((converse handler template.tokens state).1.map fun texts =>
                String.ofList (template.fill texts),
              (converse handler template.tokens state).2)) ∧
      ∀ text : String, (scan text).WellFormed ∧ scan (write (scan text)) = scan text := by
  intro scan write
  have hscan (text : String) : scan text = pieces .dollar text.toList :=
    ofSegments_segments .dollar text
  have hback {template : Pieces} (h : template.WellFormed) : scan (write template) = template := by
    rw [hscan, String.toList_ofList]
    exact pieces_encode clean_dollar.1 clean_dollar.2 h
  have hwell (text : String) : (scan text).WellFormed := by
    rw [hscan]
    exact wellFormed_pieces clean_dollar.1 clean_dollar.2 text.toList
  refine ⟨fun template h => ⟨hback h, fun handler state => ?_⟩,
    fun text => ⟨hwell text, hback (hwell text)⟩⟩
  have htokens : Template.tokens (segments .dollar (write template)) = template.tokens := by
    rw [← tokens_ofSegments]
    exact congrArg Pieces.tokens (hback h)
  have hfill (texts : List String) :
      Template.fill (segments .dollar (write template)) texts = template.fill texts := by
    rw [← fill_ofSegments]
    exact congrArg (Pieces.fill · texts) (hback h)
  rw [expand_eq, htokens]
  simp only [hfill]

/-- Delimiters, escaped or not, inside of the pieces, and escapes and halves of delimiters at their
ends. -/
theorem Pieces.encode_round_trip_escapes :
    let template : Pieces := .token ['\\', '$', '{', '$'] ['}', '{', '\\', '}'] (.last ['{', '\\'])
    template.WellFormed ∧
      Pieces.ofSegments (segments .dollar (String.ofList (template.encode .dollar))) =
        template := by
  intro template
  have h : template.WellFormed := ⟨rfl, rfl, trivial⟩
  exact ⟨h, (Pieces.encode_round_trip.1 template h).1⟩

end SqlTemplate.Template
