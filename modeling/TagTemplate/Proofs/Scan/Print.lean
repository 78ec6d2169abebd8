/-
  TagTemplate.Proofs.Scan.Print
  ────────────────────────────────
  **WHAT IS PRINTED IS PARSED.**

  A template written piece by piece, a text or a tag at a time, parses to the
  nodes of these pieces: every tag with its kind and body, and every text
  trimmed by the tags next to it.  `Yields` says so, one rule for each kind
  of piece.

      parse (print pieces) = nodes   with   Yields … pieces nodes

  Two texts in a row are one text, so pieces hold no such pair.
-/
import TagTemplate.Proofs.Scan.Lossless
import TagTemplate.Proofs.Scan.Piece

namespace TagTemplate

open Text

/-! ## §1. Pieces. -/

/-- A text that can be written: it is not empty and opens no tag. -/
structure TextPiece where
  /-- The text. -/
  chars : List Char
  /-- There is some text. -/
  ne_nil : chars ≠ []
  /-- No tag is opened. -/
  not_opening : ¬ ['<', '%'] <:+: chars

/-- A piece of a template. -/
inductive Piece where
  /-- Text between tags. -/
  | text (t : TextPiece)
  /-- A tag. -/
  | tag (t : TagPiece)

/-- A piece as it is written. -/
def Piece.print : Piece → List Char
  | .text t => t.chars
  | .tag t => t.text

/-- Pieces as they are written. -/
def print (pieces : List Piece) : List Char := pieces.flatMap Piece.print

/-- No two texts stand next to each other. -/
def Separated : List Piece → Prop
  | .text _ :: .text _ :: _ => False
  | _ :: pieces => Separated pieces
  | [] => True

/-- What a text in front of pieces ends with. -/
def edgeBefore : List Piece → Edge
  | .tag t :: _ => .ofMarker t.left
  | _ => .free

/-- Pieces yield nodes: a tag yields itself, a text what is left of it between the tags next to
it.  `before` is the text in front of the pieces, and `start` what a text begins with. -/
inductive Yields (settings : ScanSettings) :
    (before : List Char) → (start : Edge) → List Piece → List Node → Prop where
  /-- No pieces. -/
  | done {before : List Char} {start : Edge} : Yields settings before start [] []
  /-- A text. -/
  | text {before : List Char} {start : Edge} {t : TextPiece} {pieces : List Piece}
      {literal nodes : List Node}
      (htext : LiteralNodes (trim settings start (edgeBefore pieces) t.chars) literal)
      (hnodes : Yields settings (before ++ t.chars) .free pieces nodes) :
      Yields settings before start (.text t :: pieces) (literal ++ nodes)
  /-- A tag. -/
  | tag {before : List Char} {start : Edge} {t : TagPiece} {pieces : List Piece}
      {nodes : List Node}
      (hnodes : Yields settings (before ++ t.text) (.ofMarker t.right) pieces nodes) :
      Yields settings before start (.tag t :: pieces)
        (.tag t.kind (String.ofList t.body) (lineBehind settings before) :: nodes)

/-! ## §2. Cutting printed pieces. -/

/-- In a text that opens no tag, none is found. -/
theorem tagAt?_eq_none {c : Char} {s rest : List Char} (h : ¬ ['<', '%'] <:+: c :: s)
    (hrest : ∀ x ∈ rest.head?, x = '<') : tagAt? .standard (c :: s ++ rest) = none := by
  have hdrop : dropStart? ['<', '%'] (c :: s ++ rest) = none := by
    rw [Option.eq_none_iff_forall_ne_some]
    intro after hafter
    rw [dropStart?_eq_some_iff] at hafter
    obtain ⟨rfl, htail⟩ := List.cons.inj hafter
    cases s with
    -- a `<` at the end of the text has the `<` of a tag behind it
    | nil => exact absurd (hrest '%' (by rw [show rest = '%' :: after from htail]; rfl)) (by decide)
    | cons a s =>
        obtain ⟨rfl, _⟩ := List.cons.inj htail
        exact h ⟨[], s, rfl⟩
  unfold tagAt?
  rw [show Delimiters.standard.opening = ['<', '%'] from rfl, hdrop]

/-- A text that opens no tag goes into the gap. -/
theorem scanFrom_text {rest : List Char} (hrest : ∀ x ∈ rest.head?, x = '<') :
    ∀ (s gap : List Char), ¬ ['<', '%'] <:+: s →
      scanFrom .standard gap (s ++ rest) = scanFrom .standard (s.reverse ++ gap) rest
  | [], _, _ => rfl
  | c :: s, gap, h => by
      have hs : ¬ ['<', '%'] <:+: s := fun hin => h (hin.trans (List.suffix_cons c s).isInfix)
      have hnone := tagAt?_eq_none h hrest
      rw [List.cons_append] at hnone ⊢
      rw [scanFrom.eq_2, hnone, List.reverse_cons, List.append_assoc]
      exact scanFrom_text hrest s (c :: gap) hs

/-- A written tag ends the gap. -/
theorem scanFrom_tag (t : TagPiece) (gap rest : List Char) :
    ∃ span, t.Spans span ∧ scanFrom .standard gap (t.text ++ rest)
      = ((gap.reverse, span) :: (scanTags .standard rest).1, (scanTags .standard rest).2) := by
  obtain ⟨span, hspan, hspans⟩ := tagAt?_text t rest
  refine ⟨span, hspans, ?_⟩
  have hcons : t.text ++ rest = '<' :: (t.text.tail ++ rest) := rfl
  -- the scan goes on behind the text of the span, which is the text of the tag
  have hdrop : (t.text.tail ++ rest).drop ((span.text .standard).length - 1) = rest := by
    rw [hspans.text]
    exact List.drop_left' (List.length_tail ..)
  rw [hcons] at hspan ⊢
  rw [scanFrom.eq_2, hspan]
  simp only
  rw [hdrop]
  rfl

/-! ## §3. The nodes of printed pieces. -/

/-- Settings under which tags are written as pieces are. -/
structure ScanSettings.IsStandard (settings : ScanSettings) : Prop where
  /-- The delimiters and prefix characters. -/
  delimiters : settings.delimiters = .standard
  /-- A kind is the one that its prefix character selects. -/
  kindOf : ∀ kind : TagKind, settings.kindOf kind.standardMark = kind
  /-- There are no plugins. -/
  plugins : settings.plugins = []

/-- Whatever trim modes are asked for, the rest of the settings stays as it is. -/
theorem ScanOptions.check_autoTrim {autoTrim : Datum} {debug : Bool} {settings : ScanSettings}
    (h : ScanOptions.check { autoTrim, debug } = .ok settings) : settings.IsStandard := by
  unfold ScanOptions.check at h
  obtain ⟨entries, hentries, h⟩ := bind_eq_ok h
  obtain ⟨⟨trimBefore, trimAfter⟩, _, h⟩ := bind_eq_ok h
  injection hentries with hentries
  subst hentries
  have haccepted : (.ok { trimBefore, trimAfter, debug } : Except Fault ScanSettings)
      = .ok settings := h
  injection haccepted with hsettings
  subst hsettings
  have hopening : "<%".toList = ['<', '%'] := by decide
  have hclosing : "%>".toList = ['%', '>'] := by decide
  refine ⟨?_, fun kind => by cases kind <;> rfl, rfl⟩
  show Delimiters.mk "<%".toList "%>".toList ['=', '~'] = .standard
  rw [hopening, hclosing]
  rfl

/-- Nothing is left of an empty gap. -/
theorem literalOf_nil (settings : ScanSettings) (start stop : Edge) :
    literalOf settings start stop [] = [] := by
  have hgap : trim settings start stop [] = [] := by
    unfold trim
    cases start.mode settings.trimAfter <;> cases stop.mode settings.trimBefore <;> rfl
  have hnodes := literalOf_nodes settings start stop []
  rw [hgap] at hnodes
  generalize literalOf settings start stop [] = nodes at hnodes ⊢
  cases hnodes with
  | none => rfl
  | one hne _ => exact absurd rfl hne

/-- The nodes of a gap and a written tag. -/
theorem nodesFrom_tag {settings : ScanSettings} (standard : settings.IsStandard)
    {t : TagPiece} {span : TagSpan} (hspan : t.Spans span) (before gap : List Char) (start : Edge)
    (tags : List (List Char × TagSpan)) (trailing : List Char) :
    nodesFrom settings start (1 + before.count '\n') ((gap, span) :: tags) trailing
      = literalOf settings start (.ofMarker t.left) gap
        ++ .tag t.kind (String.ofList t.body) (lineBehind settings (before ++ gap))
        :: nodesFrom settings (.ofMarker t.right) (1 + (before ++ gap ++ t.text).count '\n')
          tags trailing := by
  rw [nodesFrom_cons, hspan.left, hspan.mark, standard.kindOf, hspan.body, hspan.right,
      standard.delimiters, hspan.text]

/-- The nodes of printed pieces are those that the pieces yield. -/
theorem nodesFrom_print {settings : ScanSettings} (standard : settings.IsStandard) :
    ∀ (pieces : List Piece) (before : List Char) (start : Edge), Separated pieces →
      Yields settings before start pieces
        (nodesFrom settings start (1 + before.count '\n')
          (scanTags .standard (print pieces)).1 (scanTags .standard (print pieces)).2)
  | [], before, start, _ => by
      have hscan : scanTags .standard (print []) = ([], []) := by
        unfold scanTags
        exact scanFrom.eq_1 ..
      rw [hscan]
      unfold nodesFrom
      rw [literalOf_nil]
      exact .done
  | .tag t :: pieces, before, start, h => by
      -- the gap in front of the tag is empty
      obtain ⟨span, hspan, hscan⟩ := scanFrom_tag t [] (print pieces)
      have hrest := nodesFrom_print standard pieces (before ++ t.text) (.ofMarker t.right) h
      show Yields settings before start _ (nodesFrom settings start _
        (scanFrom .standard [] (t.text ++ print pieces)).1
        (scanFrom .standard [] (t.text ++ print pieces)).2)
      rw [hscan]
      simp only
      rw [List.reverse_nil, nodesFrom_tag standard hspan, literalOf_nil, List.append_nil,
          List.nil_append]
      exact .tag hrest
  | [.text t], before, start, _ => by
      have hscan : scanTags .standard (print [.text t]) = ([], t.chars) := by
        show scanFrom .standard [] (t.chars ++ []) = _
        rw [scanFrom_text (by simp) t.chars [] t.not_opening, scanFrom.eq_1, List.append_nil,
            List.reverse_reverse]
      rw [hscan]
      unfold nodesFrom
      have htext : Yields settings before start [.text t]
          (literalOf settings start .free t.chars ++ []) :=
        .text (literalOf_nodes settings start .free t.chars) .done
      rwa [List.append_nil] at htext
  | .text t :: .tag u :: pieces, before, start, h => by
      -- the gap in front of the tag is the text
      obtain ⟨span, hspan, hscan⟩ := scanFrom_tag u t.chars.reverse (print pieces)
      have hrest := nodesFrom_print standard pieces (before ++ t.chars ++ u.text)
        (.ofMarker u.right) h
      have hhead : ∀ x ∈ (u.text ++ print pieces).head?, x = '<' := by
        intro x hx
        injection hx with hx
        exact hx.symm
      show Yields settings before start _ (nodesFrom settings start _
        (scanFrom .standard [] (t.chars ++ (u.text ++ print pieces))).1
        (scanFrom .standard [] (t.chars ++ (u.text ++ print pieces))).2)
      rw [scanFrom_text hhead t.chars [] t.not_opening, List.append_nil, hscan]
      simp only
      rw [List.reverse_reverse, nodesFrom_tag standard hspan]
      exact .text (literalOf_nodes settings start (.ofMarker u.left) t.chars) (.tag hrest)
  | .text _ :: .text _ :: _, _, _, h => h.elim

/-! ## §4. THE THEOREM. -/

/-- **WHAT IS PRINTED IS PARSED**: whatever trim modes are asked for, a template printed from pieces
without two texts in a row parses to the nodes that the pieces yield. -/
theorem parse_print (autoTrim : Datum) (debug : Bool) (settings : ScanSettings)
    (accepted : ScanOptions.check { autoTrim, debug } = .ok settings) (pieces : List Piece)
    (separated : Separated pieces) :
    ∃ nodes, Yields settings [] .free pieces nodes
      ∧ ∀ j, ∃ j', (parse settings (String.ofList (print pieces))).run.run j = (.ok nodes, j') := by
  have standard := ScanOptions.check_autoTrim accepted
  refine ⟨_, nodesFrom_print standard pieces [] .free separated, fun j => ?_⟩
  obtain ⟨j', hj⟩ := parse_plain settings (String.ofList (print pieces))
    (by rw [standard.plugins]; simp) j
  refine ⟨j', ?_⟩
  rw [hj, String.toList_ofList]
  unfold nodesOf
  rw [standard.delimiters]
  rfl

/-- A text that ends like an opening delimiter, a tag whose body holds a closing one in a quoted run
and ends like a marker, a tag without a body, and a text of blanks. -/
theorem parse_print_quoted :
    let settings : ScanSettings := { trimBefore := .slurp, trimAfter := .off }
    ScanOptions.check { autoTrim := .list [.str "slurp", .bool false] } = .ok settings
      ∧ ∃ pieces, print pieces = "a\n<<%- '%>'- %><%~  _%> \n".toList ∧ Separated pieces
        ∧ ∃ nodes, Yields settings [] .free pieces nodes
          ∧ ∀ j, ∃ j', (parse settings (String.ofList (print pieces))).run.run j
              = (.ok nodes, j') := by
  intro settings
  let before : TextPiece :=
    { chars := ['a', '\n', '<'], ne_nil := by decide, not_opening := by decide }
  let quoted : TagPiece :=
    { kind := .execute, left := some '-', body := ['\'', '%', '>', '\'', '-'], right := none,
      left_isMarker := by simp [isMarker], right_isMarker := by simp,
      body_trimmed := ⟨fun c hc => by cases hc; decide, fun c hc => by cases hc; decide⟩,
      body_steps := .quoted rfl (.char rfl (.char rfl .close))
        (.char rfl (by decide) (by decide) .nil),
      body_unmarked := fun _ c hc => by cases hc; decide }
  let empty : TagPiece :=
    { kind := .raw, left := none, body := [], right := some '_',
      left_isMarker := by simp, right_isMarker := by simp [isMarker],
      body_trimmed := .nil, body_steps := .nil, body_unmarked := by simp }
  let after : TextPiece :=
    { chars := [' ', '\n'], ne_nil := by decide, not_opening := by decide }
  let pieces := [Piece.text before, .tag quoted, .tag empty, .text after]
  have htext : print pieces = "a\n<<%- '%>'- %><%~  _%> \n".toList := by decide
  exact ⟨rfl, pieces, htext, trivial,
    parse_print (.list [.str "slurp", .bool false]) false settings rfl pieces trivial⟩

end TagTemplate
