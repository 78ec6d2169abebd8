/-
  TagTemplate.Proofs.Code.Embedded
  ────────────────────────────────
  **TEXT THAT GENERATED CODE HOLDS IS READ BACK.**

  Generated code holds text of a template in two places: the value of each
  literal stands between single quotes, and with debugging on the whole source
  is handed to the state of the render.  Either is the text again for whoever
  reads the code, and neither can leave its quotes or its line.
-/
import TagTemplate.Code.Body
import TagTemplate.Machine.Evaluate
import TagTemplate.Proofs.Scan.Escape
import TagTemplate.Proofs.Script.Suite

namespace TagTemplate

open Text Script

/-! ## §1. Code that denotes a text. -/

/-- A constant text in a tree. -/
def textConstant (s : String) : Expr := .constant (.str s false)

/-- Code denotes a text: its tree is one expression, and evaluating that yields the text and changes
nothing. -/
def Denotes (code text : String) : Prop :=
  ∃ e, parseTree code = .ok [.mk 1 (.expr e)] ∧
    ∀ (p : Machine.Powers) (f : Nat) (m : Machine),
      (Machine.expr p f e).run m = (.ok (.str text), m)

/-- The tree of the line that appends a text to the output. -/
def appendTree (s : String) : Tree :=
  [.mk 1 (.expr (.call (.name "__kiln_append" .load) [textConstant s] []))]

/-- The tree of the line that hands a source to the state of a render. -/
def newStateTree (s : String) : Tree :=
  [.mk 1 (.assign [.name "__kiln" .store]
    (.call (.attribute (.name "__kiln_env" .load) "new_state") [textConstant s] []))]

/-! ## §2. Strings in lines of code. -/

/-- The name of the function that appends to the output. -/
def appendName : Ident := ⟨"__kiln_append", by decide, by decide⟩

/-- The name of the state of a render. -/
def stateName : Ident := ⟨"__kiln", by decide, by decide⟩

/-- The name of the environment. -/
def environmentName : Ident := ⟨"__kiln_env", by decide, by decide⟩

/-- The line that appends a text. -/
def appendSentence (q : Quotation) : Sentence :=
  .expr (.plain (.call (.name appendName) (.cons (.plain (.text q)) .nil)))

/-- What makes a state. -/
def newStateMethod : Ident := ⟨"new_state", by decide, by decide⟩

/-- The line that hands a source to the state. -/
def newStateSentence (q : Quotation) : Sentence :=
  .assign (.name stateName)
    (.plain (.call (.member (.name environmentName) newStateMethod)
      (.cons (.plain (.text q)) .nil)))

section Quotations

variable (q : Quotation)

/-- A string between quotes denotes what it is written for. -/
theorem quotation_denotes : Denotes (String.ofList q.chars) (String.ofList q.value) := by
  have hrow : isRow [.text q] = true := by
    obtain ⟨quote, body, value, hq, hspelled⟩ := q
    rcases hq with rfl | rfl <;> rfl
  have hspell : Lexeme.spell [.text q] = q.chars := by simp [Lexeme.spell, Lexeme.chars]
  refine ⟨textConstant (String.ofList q.value), ?_, fun _ _ _ => rfl⟩
  rw [← hspell]
  exact parseTree_line (.expr (.plain (.text q))) rfl hrow (Nat.le_of_ble_eq_true rfl)

/-- The row of the line that appends a text. -/
def appendRow : List Lexeme := [.name "__kiln_append", .mark "(", .text q, .mark ")"]

/-- The row of the line that hands a source to the state. -/
def newStateRow : List Lexeme :=
  [.name "__kiln", .gap, .mark "=", .gap, .name "__kiln_env", .mark ".", .name "new_state",
    .mark "(", .text q, .mark ")"]

theorem isRow_append : isRow (appendRow q) = true := by
  obtain ⟨quote, body, value, hq, hspelled⟩ := q
  rcases hq with rfl | rfl <;> rfl

theorem isRow_newState : isRow (newStateRow q) = true := by
  obtain ⟨quote, body, value, hq, hspelled⟩ := q
  rcases hq with rfl | rfl <;> rfl

theorem spell_append : String.ofList (Lexeme.spell (appendRow q))
    = "__kiln_append(" ++ String.ofList q.chars ++ ")" := by
  rw [← String.toList_inj]
  simp [appendRow, Lexeme.spell, Lexeme.chars]

theorem spell_newState : String.ofList (Lexeme.spell (newStateRow q))
    = "__kiln = __kiln_env.new_state(" ++ String.ofList q.chars ++ ")" := by
  rw [← String.toList_inj]
  simp [newStateRow, Lexeme.spell, Lexeme.chars]

theorem parseTree_append :
    parseTree ("__kiln_append(" ++ String.ofList q.chars ++ ")")
      = .ok (appendTree (String.ofList q.value)) := by
  rw [← spell_append]
  exact parseTree_line (appendSentence q) rfl (isRow_append q) (Nat.le_of_ble_eq_true rfl)

theorem parseTree_newState :
    parseTree ("__kiln = __kiln_env.new_state(" ++ String.ofList q.chars ++ ")")
      = .ok (newStateTree (String.ofList q.value)) := by
  rw [← spell_newState]
  exact parseTree_line (newStateSentence q) rfl (isRow_newState q) (Nat.le_of_ble_eq_true rfl)

end Quotations

/-! ## §3. Literals. -/

theorem toList_of_eq {s : String} {cs : List Char} (h : s = String.ofList cs) : s.toList = cs := by
  rw [h, String.toList_ofList]

/-- The value of a literal between single quotes, with the text it stands for. -/
def literalQuotation (text : List Char) : Quotation where
  quote := '\''
  body := Literal.breaks (Literal.escape text)
  value := text
  isQuote := .inl rfl
  spelled := spelled_breaks_escape text

/-- A literal that is made of a gap holds the trimmed gap. -/
theorem mem_literalOf {settings : ScanSettings} {start stop : Edge} {gap : List Char} {node : Node}
    (h : node ∈ literalOf settings start stop gap) :
    node = .literal
      (String.ofList (literalQuotation (trim settings start stop gap)).body) := by
  unfold literalOf at h
  rw [Literal.trim_escape] at h
  dsimp only at h
  split at h
  · cases h
  · exact List.mem_singleton.mp h

theorem literal_text (text : List Char) :
    Literal.text (String.ofList (literalQuotation text).body) = String.ofList text := by
  unfold Literal.text
  rw [String.toList_ofList]
  exact congrArg String.ofList (Literal.unescape_breaks_escape text)

theorem literal_chars (text : List Char) : String.ofList (literalQuotation text).chars
    = "'" ++ String.ofList (literalQuotation text).body ++ "'" := by
  rw [← String.toList_inj, String.toList_append, String.toList_append, String.toList_ofList,
    String.toList_ofList, toList_of_eq rfl]
  rfl

/-- The line that appends a text, with its quotes. -/
theorem appendText_eq (value : String) :
    "__kiln_append('" ++ value ++ "')" = "__kiln_append(" ++ ("'" ++ value ++ "'") ++ ")" := by
  have hopen : "__kiln_append('" = "__kiln_append(" ++ "'" := by decide
  have hclose : "')" = "'" ++ ")" := by decide
  rw [hopen, hclose]
  simp only [String.append_assoc]

/-! ## §4. The source. -/

/-- A text between quotes, with the text itself. -/
def sourceQuotation (source : String) : Quotation where
  quote := quoteFor source.toList
  body := source.toList.flatMap (Text.escapeChar (quoteFor source.toList))
  value := source.toList
  isQuote := isQuote_quoteFor source.toList
  spelled := spelled_quoted source.toList

theorem sourceQuotation_chars (source : String) :
    String.ofList (sourceQuotation source).chars = quoted source := rfl

/-- The line ends outside of ASCII are not printable. -/
theorem isPrintable_wide_lineEnd : ∀ n ∈ [0x85, 0x2028, 0x2029], isPrintable (Char.ofNat n) = false := by
  unfold isPrintable printableSet CharSet.ofRuns printableRuns
  simp only [List.flatMap_cons, List.flatMap_nil]
  -- the kernel reads a list of characters much faster than it decodes a text
  repeat rw [toList_of_eq rfl]
  decide +kernel

/-- What is printable ends no line. -/
theorem isLineEnd_of_isPrintable {c : Char} (h : isPrintable c = true) : isLineEnd c = false := by
  have hwide : c.toNat ∉ [0x85, 0x2028, 0x2029] := by
    intro hmem
    have hprint := isPrintable_wide_lineEnd _ hmem
    rw [Char.ofNat_toNat, h] at hprint
    cases hprint
  simp only [List.mem_cons, List.not_mem_nil, or_false, not_or] at hwide
  have hlow : 32 ≤ c.toNat := by
    unfold isPrintable at h
    split at h
    · rw [Bool.and_eq_true, decide_eq_true_eq] at h
      exact h.1
    · omega
  unfold isLineEnd
  simp [hwide]
  omega

theorem hexText_isLineEnd (width n : Nat) : ∀ c ∈ hexText width n, isLineEnd c = false := by
  have hdigit : ∀ d < 16, isLineEnd (hexDigit d) = false := by decide
  induction width generalizing n with
  | zero => intro c hc; cases hc
  | succ width ih =>
      intro c hc
      rw [hexText, List.mem_append, List.mem_singleton] at hc
      rcases hc with hc | rfl
      · exact ih _ c hc
      · exact hdigit _ (Nat.mod_lt _ (by decide))

theorem escapeCode_isLineEnd (c : Char) : ∀ a ∈ escapeCode c, isLineEnd a = false := by
  have hall : ∀ (letter : Char) (width : Nat), isLineEnd letter = false →
      ∀ a ∈ '\\' :: letter :: hexText width c.toNat, isLineEnd a = false := by
    intro letter width hletter a ha
    rw [List.mem_cons, List.mem_cons] at ha
    rcases ha with rfl | rfl | ha
    · decide
    · exact hletter
    · exact hexText_isLineEnd _ _ a ha
  unfold escapeCode
  dsimp only
  split
  · exact hall 'x' 2 (by decide)
  · split
    · exact hall 'u' 4 (by decide)
    · exact hall 'U' 8 (by decide)

/-- What a character becomes between quotes ends no line. -/
theorem escapeChar_isLineEnd {quote : Char} (hq : IsQuote quote) (c : Char) :
    ∀ a ∈ Text.escapeChar quote c, isLineEnd a = false := by
  have hpair : ∀ letter : Char, isLineEnd letter = false →
      ∀ a ∈ ['\\', letter], isLineEnd a = false := by
    intro letter hletter a ha
    rw [List.mem_cons, List.mem_singleton] at ha
    rcases ha with rfl | rfl
    · decide
    · exact hletter
  unfold Text.escapeChar
  split
  next h =>
    rw [Bool.or_eq_true, beq_iff_eq, beq_iff_eq] at h
    refine hpair c ?_
    rcases h with rfl | rfl
    · rcases hq with rfl | rfl <;> decide
    · decide
  next =>
    split
    next => exact hpair 'n' (by decide)
    next =>
      split
      next => exact hpair 'r' (by decide)
      next =>
        split
        next => exact hpair 't' (by decide)
        next =>
          split
          next hprint =>
            intro a ha
            rw [List.mem_singleton.mp ha]
            exact isLineEnd_of_isPrintable hprint
          next => exact escapeCode_isLineEnd c

theorem quoted_isLineEnd (source : String) :
    ∀ c ∈ (quoted source).toList, isLineEnd c = false := by
  have hquote : isLineEnd (quoteFor source.toList) = false := by
    rcases isQuote_quoteFor source.toList with h | h <;> rw [h] <;> decide
  intro c hc
  unfold quoted quotedChars at hc
  rw [String.toList_ofList] at hc
  simp only [List.cons_append, List.mem_cons, List.mem_append, List.mem_flatMap, List.not_mem_nil,
    or_false] at hc
  rcases hc with rfl | ⟨a, _, hc⟩ | rfl
  · exact hquote
  · exact escapeChar_isLineEnd (isQuote_quoteFor _) a c hc
  · exact hquote

/-! ## §5. Both of them. -/

/-- **Embedded text is read back.**  The value of a literal has no line break, no null character and
no quote that could end it; between single quotes it denotes the text of the literal, and the line
that appends it reads that text.  A quoted source has no line end of any kind and denotes the
source, on its own and in the line that hands it to the state. -/
theorem embedded_text_denotes :
    (∀ (settings : ScanSettings) (start stop : Edge) (gap : List Char),
      ∀ node ∈ literalOf settings start stop gap, ∃ value : String, node = .literal value
        ∧ (∀ c ∈ value.toList, c ≠ '\n' ∧ c ≠ '\r' ∧ c ≠ '\x00')
        ∧ Contained '\'' value.toList
        ∧ Denotes ("'" ++ value ++ "'") (Literal.text value)
        ∧ parseTree ("__kiln_append('" ++ value ++ "')") = .ok (appendTree (Literal.text value)))
    ∧ ∀ source : String,
      (∀ c ∈ (quoted source).toList, isLineEnd c = false)
        ∧ Denotes (quoted source) source
        ∧ parseTree ("__kiln = __kiln_env.new_state(" ++ quoted source ++ ")")
            = .ok (newStateTree source) := by
  refine ⟨fun settings start stop gap node hnode => ?_, fun source => ?_⟩
  · let q := literalQuotation (trim settings start stop gap)
    have hchars : String.ofList q.chars = "'" ++ String.ofList q.body ++ "'" := literal_chars _
    have htext : Literal.text (String.ofList q.body) = String.ofList q.value := literal_text _
    have hdenotes := quotation_denotes q
    have hcall := parseTree_append q
    rw [hchars, ← htext] at hdenotes hcall
    refine ⟨String.ofList q.body, mem_literalOf hnode, ?_, ?_, hdenotes, ?_⟩
    · rw [String.toList_ofList]
      exact q.spelled.clean q.isQuote
    · rw [String.toList_ofList]
      exact q.spelled.contained q.isQuote
    · rw [← hcall, appendText_eq]
  · have hvalue : String.ofList (sourceQuotation source).value = source := String.ofList_toList
    have hdenotes := quotation_denotes (sourceQuotation source)
    have hcall := parseTree_newState (sourceQuotation source)
    rw [sourceQuotation_chars, hvalue] at hdenotes hcall
    exact ⟨quoted_isLineEnd source, hdenotes, hcall⟩

/-- A literal with a quote and a line break, and a source with both. -/
theorem embedded_text_denotes_quote :
    Denotes ("'" ++ "a\\'\\n" ++ "'") (Literal.text "a\\'\\n")
      ∧ Denotes (quoted "a'\n") "a'\n" := by
  have hnode : Node.literal "a\\'\\n" ∈ literalOf {} .free .free ['a', '\'', '\n'] :=
    List.mem_singleton.mpr rfl
  obtain ⟨value, heq, _, _, hdenotes, _⟩ := embedded_text_denotes.1 {} .free .free _ _ hnode
  cases heq
  exact ⟨hdenotes, (embedded_text_denotes.2 "a'\n").2.1⟩

end TagTemplate
