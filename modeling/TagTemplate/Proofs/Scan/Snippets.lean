/-
  TagTemplate.Proofs.Scan.Snippets
  ────────────────────────────────
  **THE ROW OF A TAG.**

  The line of a tag counts newlines; the rows of a snippet are cut at every
  Unicode line boundary.  The two agree as far as newlines, alone or behind a
  carriage return, are the only line ends in front of the tag, and every other
  line end puts the tag one row further down (`strayEnds`):

      a⏎ b⏎ <% x %>     line 3, in row 3
      a⏎ b␌ <% x %>     line 2, in row 3

    • `exists_lineAt` — in which row a character is,
    • `mem_rows_iff`, `rows_ascending` — which rows a snippet has,
    • `tag_row` — the line of a tag, and its row.
-/
import TagTemplate.Error
import TagTemplate.Proofs.Scan.LineNumbers
import TagTemplate.Proofs.Text.Lines

namespace TagTemplate

open Text

namespace Text

/-! ## §1. The row of a character. -/

/-- The number of line ends of a text that no newline takes part in; a carriage return at the end
counts. -/
def strayEnds : List Char → Nat
  | [] => 0
  | '\r' :: '\n' :: rest => strayEnds rest
  | c :: rest => (if isLineEnd c && c != '\n' then 1 else 0) + strayEnds rest

theorem strayEnds_newline (s : List Char) : strayEnds ('\n' :: s) = strayEnds s := by
  rw [strayEnds]
  · exact Nat.zero_add _
  · exact fun _ h => nomatch h

theorem strayEnds_inLine {c : Char} (hc : isLineEnd c = false) (s : List Char) :
    strayEnds (c :: s) = strayEnds s := by
  rw [strayEnds]
  · rw [hc]
    exact Nat.zero_add _
  · rintro _ rfl
    exact absurd hc (by decide)

theorem strayEnds_stray {c : Char} (hc : isLineEnd c = true) (hne : c ≠ '\n') {s : List Char}
    (hpair : c = '\r' → s.head? ≠ some '\n') : strayEnds (c :: s) = 1 + strayEnds s := by
  rw [strayEnds]
  · rw [hc, bne_iff_ne.mpr hne]
    rfl
  · rintro rest hreturn rfl
    exact hpair hreturn rfl

/-- A line end that is not one of two characters ends a line by itself. -/
theorem splitLines_lineEnd {c : Char} (hc : isLineEnd c = true) {s : List Char}
    (hpair : c = '\r' → s.head? ≠ some '\n') : splitLines (c :: s) = [] :: splitLines s := by
  rw [splitLines, if_pos hc]
  rintro rest hreturn rfl
  exact hpair hreturn rfl

/-- A line end is the first of two characters or stands by itself. -/
theorem pair_or_single (c : Char) (s : List Char) :
    (c = '\r' ∧ ∃ rest, s = '\n' :: rest) ∨ (c = '\r' → s.head? ≠ some '\n') := by
  by_cases hreturn : c = '\r'
  · cases s with
    | nil => exact .inr fun _ => nofun
    | cons d rest =>
        by_cases hd : d = '\n'
        · exact .inl ⟨hreturn, rest, by rw [hd]⟩
        · exact .inr fun _ h => hd (Option.some.inj h)
  · exact .inr fun h => absurd h hreturn

/-- The first line of a text starts it. -/
theorem head_splitLines_prefix {s line : List Char} {lines : List (List Char)}
    (h : splitLines s = line :: lines) : line <+: s := by
  induction s generalizing line lines with
  | nil => cases h
  | cons c s ih =>
      by_cases hc : isLineEnd c = true
      · have hnil : [] = line := by
          rcases pair_or_single c s with ⟨rfl, rest, rfl⟩ | hpair
          · exact (List.cons.inj h).1
          · rw [splitLines_lineEnd hc hpair] at h
            exact (List.cons.inj h).1
        rw [← hnil]
        exact List.nil_prefix
      · rw [splitLines_cons (Bool.eq_false_iff.mpr hc)] at h
        cases hs : splitLines s with
        | nil =>
            rw [hs] at h
            rw [← (List.cons.inj h).1]
            exact List.cons_prefix_cons.mpr ⟨rfl, List.nil_prefix⟩
        | cons first more =>
            rw [hs] at h
            rw [← (List.cons.inj h).1]
            exact List.cons_prefix_cons.mpr ⟨rfl, ih hs⟩

/-- The line of a character among the lines of a text: the lines above it, what the line has in front of
the character and behind it, and the lines below. -/
structure LineAt (c : Char) (before rest : List Char) (above : List (List Char))
    (front back : List Char) (below : List (List Char)) : Prop where
  /-- These are the lines. -/
  cut : splitLines (before ++ c :: rest) = above ++ (front ++ c :: back) :: below
  /-- As many are above as there are line ends in front: the newlines, and those that no newline takes
  part in. -/
  row : above.length = before.count '\n' + strayEnds before
  /-- The line starts inside of what is in front. -/
  start : front <:+ before
  /-- In the first line, that is all of it. -/
  first : above = [] → front = before
  /-- The line ends inside of what is behind. -/
  stop : back <+: rest

section LineAt

variable {c d : Char} {before rest : List Char} {above : List (List Char)} {front back : List Char}
  {below : List (List Char)}

/-- With nothing in front, a character is in the first line. -/
theorem exists_lineAt_first (hc : isLineEnd c = false) (rest : List Char) :
    ∃ back below, LineAt c [] rest [] [] back below := by
  have hcut := splitLines_cons hc rest
  cases hrest : splitLines rest with
  | nil =>
      rw [hrest] at hcut
      exact ⟨[], [], hcut, rfl, List.suffix_refl _, fun _ => rfl, List.nil_prefix⟩
  | cons line more =>
      rw [hrest] at hcut
      exact ⟨line, more, hcut, rfl, List.suffix_refl _, fun _ => rfl, head_splitLines_prefix hrest⟩

/-- Two characters that are one line end put one line on top; the newline is counted. -/
theorem LineAt.pair (h : LineAt c before rest above front back below) :
    LineAt c ('\r' :: '\n' :: before) rest ([] :: above) front back below where
  cut := by
    show [] :: splitLines (before ++ c :: rest) = _
    rw [h.cut]
    rfl
  row := by
    rw [List.length_cons, h.row, strayEnds, List.count_cons_of_ne (by decide), List.count_cons_self]
    omega
  start := h.start.trans ((List.suffix_cons _ _).trans (List.suffix_cons _ _))
  first := nofun
  stop := h.stop

/-- A line end by itself puts one line on top. -/
theorem LineAt.lineEnd (h : LineAt c before rest above front back below) (hc : isLineEnd c = false)
    (hd : isLineEnd d = true) (hpair : d = '\r' → before.head? ≠ some '\n') :
    LineAt c (d :: before) rest ([] :: above) front back below where
  cut := by
    have hbehind : d = '\r' → (before ++ c :: rest).head? ≠ some '\n' := by
      intro hreturn
      cases before with
      | nil =>
          intro h
          rw [Option.some.inj h] at hc
          cases hc
      | cons e before => exact hpair hreturn
    rw [List.cons_append, splitLines_lineEnd hd hbehind, h.cut]
    rfl
  row := by
    rw [List.length_cons, h.row]
    by_cases hnewline : d = '\n'
    · rw [hnewline, strayEnds_newline, List.count_cons_self]
      omega
    · rw [strayEnds_stray hd hnewline hpair, List.count_cons_of_ne hnewline]
      omega
  start := h.start.trans (List.suffix_cons _ _)
  first := nofun
  stop := h.stop

/-- Any other character goes to the first line. -/
theorem LineAt.inLine (h : LineAt c before rest above front back below) (hd : isLineEnd d = false) :
    ∃ above front, LineAt c (d :: before) rest above front back below := by
  have hnewline : d ≠ '\n' := by
    rintro rfl
    cases hd
  have hcut := splitLines_cons hd (before ++ c :: rest)
  have hrow : above.length = (d :: before).count '\n' + strayEnds (d :: before) := by
    rw [strayEnds_inLine hd, List.count_cons_of_ne hnewline]
    exact h.row
  rw [h.cut] at hcut
  cases above with
  | nil =>
      rw [h.first rfl] at hcut
      exact ⟨[], d :: before, hcut, hrow, List.suffix_refl _, fun _ => rfl, h.stop⟩
  | cons line above =>
      exact ⟨(d :: line) :: above, front, hcut, hrow, h.start.trans (List.suffix_cons _ _), nofun,
        h.stop⟩

/-- **Every character that ends no line is in one**, behind all line ends in front of it. -/
theorem exists_lineAt (hc : isLineEnd c = false) (before rest : List Char) :
    ∃ above front back below, LineAt c before rest above front back below := by
  -- a line end may be two characters, so the induction is on the length
  induction hn : before.length using Nat.strongRecOn generalizing before with
  | ind n ih =>
      match before with
      | [] => exact ⟨[], [], exists_lineAt_first hc rest⟩
      | d :: before =>
          rw [List.length_cons] at hn
          by_cases hd : isLineEnd d = true
          · rcases pair_or_single d before with ⟨rfl, before, rfl⟩ | hpair
            · rw [List.length_cons] at hn
              obtain ⟨above, front, back, below, h⟩ := ih before.length (by omega) before rfl
              exact ⟨[] :: above, front, back, below, h.pair⟩
            · obtain ⟨above, front, back, below, h⟩ := ih before.length (by omega) before rfl
              exact ⟨[] :: above, front, back, below, h.lineEnd hc hd hpair⟩
          · obtain ⟨above, front, back, below, h⟩ := ih before.length (by omega) before rfl
            obtain ⟨above, front, h⟩ := h.inLine (Bool.eq_false_iff.mpr hd)
            exact ⟨above, front, back, below, h⟩

end LineAt

end Text

/-! ## §2. The rows of a snippet. -/

namespace Snippet

variable {source : String} {line context : Int}

/-- **A snippet has the lines of the source that are near enough**, each under its own number. -/
theorem mem_rows_iff {n : Int} {text : String} :
    (n, text) ∈ (around source line context).rows
      ↔ ∃ i : Nat, n = i + 1 ∧ (lines source)[i]? = some text
        ∧ line - context ≤ n ∧ n ≤ line + context := by
  show (n, text) ∈ List.map _ (List.filter _ _) ↔ _
  simp only [List.mem_map, List.mem_filter, Prod.exists, List.mem_zipIdx_iff_getElem?,
    Bool.and_eq_true, decide_eq_true_eq, Prod.mk.injEq]
  constructor
  · rintro ⟨text, i, ⟨hat, hfirst, hlast⟩, hn, rfl⟩
    have hlength : i < (lines source).length := (List.getElem?_eq_some_iff.mp hat).1
    exact ⟨i, hn.symm, hat, by omega, by omega⟩
  · rintro ⟨i, hn, hat, hfirst, hlast⟩
    have hlength : i < (lines source).length := (List.getElem?_eq_some_iff.mp hat).1
    exact ⟨text, i, ⟨hat, by omega, by omega⟩, hn.symm, rfl⟩

/-- **The rows of a snippet are in the order of the source.** -/
theorem rows_ascending : (around source line context).rows.Pairwise (·.1 < ·.1) := by
  have hall : ((lines source).zipIdx).Pairwise (·.2 < ·.2) := by
    rw [← List.pairwise_map (f := Prod.snd) (R := (· < ·)), List.zipIdx_map_snd]
    exact List.pairwise_lt_range' ..
  refine List.pairwise_map.mpr ((hall.filter _).imp fun h => ?_)
  dsimp only
  omega

end Snippet

/-! ## §3. THE THEOREM. -/

/-- A tag begins with the opening delimiter. -/
theorem TagSpan.opening_prefix (d : Delimiters) (t : TagSpan) : d.opening <+: t.text d := by
  unfold TagSpan.text
  simp only [List.append_assoc]
  exact List.prefix_append _ _

/-- **The line of a tag and its row.**  Whatever the settings, if no line ends with the first character
of their opening delimiter, the i-th tag node has the line of the i-th tag, and a snippet around it has a
row of this number.  The row in which the tag begins is as many rows further down as there are line ends
in front of the tag that no newline takes part in; without any, it is that row. -/
theorem tag_row (settings : ScanSettings) (source : String) {c : Char} {opening : List Char}
    (hopen : settings.opening.toList = c :: opening) (hc : isLineEnd c = false) {i : Nat}
    {gap : List Char} {span : TagSpan}
    (htag : (scanTags settings.delimiters source.toList).1[i]? = some (gap, span)) {context : Int}
    (hcontext : 0 ≤ context) :
    let before := cutText settings.delimiters
      ((scanTags settings.delimiters source.toList).1.take i) gap
    let line : Nat := 1 + before.count '\n'
    let snippet := Snippet.around source line context
    ((nodesOf (settings.recordLines true) source.toList).filter Node.isTag)[i]?
        = some (.tag (settings.kindOf span.mark) (String.ofList span.body) (some (line : Int)))
      ∧ (∃ text, ((line : Int), text) ∈ snippet.rows)
      ∧ ∃ front back after, source.toList = before ++ c :: after
        ∧ front <:+ before ∧ back <+: after
        ∧ (lines source)[before.count '\n' + strayEnds before]?
          = some (String.ofList (front ++ c :: back))
        ∧ (strayEnds before = 0 →
          ((line : Int), String.ofList (front ++ c :: back)) ∈ snippet.rows) := by
  intro before line snippet
  have hne : settings.delimiters.opening ≠ [] := by
    show settings.opening.toList ≠ []
    rw [hopen]
    exact List.cons_ne_nil _ _
  obtain ⟨after, hsource⟩ : ∃ after, source.toList = before ++ c :: after := by
    obtain ⟨rest, hrest⟩ := span.opening_prefix settings.delimiters
    have hstart : settings.delimiters.opening = c :: opening := hopen
    have htext : source.toList = before ++ (span.text settings.delimiters ++ _) :=
      (scanFrom_sound hne [] source.toList).1.symm.trans (cutText_at _ _ _ i gap span htag)
    rw [← hrest, hstart, List.append_assoc, List.cons_append] at htext
    exact ⟨_, htext⟩
  obtain ⟨above, front, back, below, hline⟩ := exists_lineAt hc before after
  have hat : (lines source)[before.count '\n' + strayEnds before]?
      = some (String.ofList (front ++ c :: back)) := by
    rw [lines, hsource, hline.cut, ← hline.row, List.getElem?_map,
      List.getElem?_append_right (Nat.le_refl _), Nat.sub_self]
    rfl
  have hrow : ∀ text, (lines source)[before.count '\n']? = some text →
      ((line : Int), text) ∈ snippet.rows := fun text htext =>
    Snippet.mem_rows_iff.mpr ⟨before.count '\n', by omega, htext, by omega, by omega⟩
  refine ⟨?_, ?_, front, back, after, hsource, hline.start, hline.stop, hat, fun hstray => hrow _ ?_⟩
  · have hnode := tag_nodesFrom (settings.recordLines true)
      (scanTags settings.delimiters source.toList).2
      (scanTags settings.delimiters source.toList).1 [] .free i
    rw [htag] at hnode
    exact hnode
  · -- there are no fewer line ends than newlines
    have hin := (List.getElem?_eq_some_iff.mp hat).1
    exact ⟨_, hrow _ (List.getElem?_eq_getElem (Nat.lt_of_le_of_lt (Nat.le_add_right _ _) hin))⟩
  · rw [hstray] at hat
    exact hat

end TagTemplate
