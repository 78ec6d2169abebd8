/-
  TagTemplate.Proofs.Code.Columns
  ────────────────────────────────
  **IS A BLOCK RIGHT OF ITS HEADER?**

  The emitter measures in characters: a block is written as many spaces to the
  right as its header has characters before its text, and four more.  The
  script language measures in columns, and a tab reaches to the next multiple
  of eight.  So each tab may take the header further to the right than the
  emitter counts, and four columns are all there is to spare.

    • `columnAfter_eq` — how far tabs go beyond one column each: the excess,
    • `excess_one_tab` — the excess of one tab changes by four with a step,
    • `block_right_of_header` — a block is right of its header exactly if the
      excess is below four,
    • `place_block` — and exactly then it is read as a block.
-/
import TagTemplate.Proofs.Code.LineMarks
import TagTemplate.Proofs.Code.Filled
import TagTemplate.Proofs.Script.Layout
import TagTemplate.Proofs.Text.Lines

namespace TagTemplate

open Text

/-! ## §1. Columns behind spaces and tabs. -/

/-- The column behind spaces and tabs that start at a column. -/
def columnAfter : Nat → List Char → Nat
  | col, [] => col
  | col, c :: rest => columnAfter (if c == '\t' then (col / 8 + 1) * 8 else col + 1) rest

/-- How many columns more than characters there are. -/
def excess (col : Nat) (blanks : List Char) : Nat := columnAfter col blanks - (col + blanks.length)

theorem columnAfter_append (s t : List Char) (col : Nat) :
    columnAfter col (s ++ t) = columnAfter (columnAfter col s) t := by
  induction s generalizing col with
  | nil => rfl
  | cons c s ih => exact ih _

theorem columnAfter_spaces (n col : Nat) : columnAfter col (List.replicate n ' ') = col + n := by
  induction n generalizing col with
  | zero => rfl
  | succ n ih =>
      rw [List.replicate_succ, columnAfter, ih]
      show col + 1 + n = _
      omega

theorem le_columnAfter (blanks : List Char) (col : Nat) :
    col + blanks.length ≤ columnAfter col blanks := by
  induction blanks generalizing col with
  | nil => exact Nat.le_refl col
  | cons c rest ih =>
      rw [columnAfter, List.length_cons]
      split
      · have := ih ((col / 8 + 1) * 8)
        omega
      · have := ih (col + 1)
        omega

/-- A column is counted by the characters and their excess. -/
theorem columnAfter_eq (col : Nat) (blanks : List Char) :
    columnAfter col blanks = col + blanks.length + excess col blanks := by
  have := le_columnAfter blanks col
  unfold excess
  omega

/-- Spaces have no excess. -/
theorem excess_spaces (col n : Nat) : excess col (List.replicate n ' ') = 0 := by
  unfold excess
  rw [columnAfter_spaces, List.length_replicate]
  omega

/-- The excess of one tab is what is left up to the next multiple of eight. -/
theorem excess_tab (col before behind : Nat) :
    excess col (List.replicate before ' ' ++ '\t' :: List.replicate behind ' ')
      = 7 - (col + before) % 8 := by
  have hcolumn : columnAfter col (List.replicate before ' ' ++ '\t' :: List.replicate behind ' ')
      = ((col + before) / 8 + 1) * 8 + behind := by
    rw [columnAfter_append, columnAfter_spaces, columnAfter, columnAfter_spaces]
    rfl
  unfold excess
  rw [hcolumn, List.length_append, List.length_cons, List.length_replicate, List.length_replicate]
  omega

/-- Of two columns that are a step apart, one tab has an excess below four at exactly one. -/
theorem excess_one_tab (col before behind : Nat) :
    let blanks := List.replicate before ' ' ++ '\t' :: List.replicate behind ' '
    excess col blanks < 4 ↔ ¬ excess (col + 4) blanks < 4 := by
  intro blanks
  rw [excess_tab, excess_tab]
  omega

/-! ## §2. The column of a line. -/

/-- The column at which the text of a line starts. -/
def column (line : List Char) : Nat := (Block.columnOf 0 line).1

theorem columnOf_margin {c : Char} (hc : isBlank c = false) (rest : List Char) :
    ∀ (blanks : List Char) (col : Nat), IsMargin blanks →
      Block.columnOf col (blanks ++ c :: rest) = (columnAfter col blanks, c :: rest)
  | [], col, _ => by
      have hne : c ≠ ' ' ∧ c ≠ '\t' ∧ c ≠ Char.ofNat 12 := by
        refine ⟨?_, ?_, ?_⟩ <;> (rintro rfl; revert hc; decide)
      rw [List.nil_append, Block.columnOf]
      · rw [if_neg (by simpa using hne.2.2)]
        rfl
      · exact hne.1
      · exact hne.2.1
  | b :: blanks, col, h => by
      have hrest : IsMargin blanks := fun d hd => h d (List.mem_cons_of_mem _ hd)
      rcases h b List.mem_cons_self with rfl | rfl
      · exact columnOf_margin hc rest blanks (col + 1) hrest
      · exact columnOf_margin hc rest blanks ((col / 8 + 1) * 8) hrest

/-- A line that is moved to the right. -/
def moved (shift : Nat) (line : String) : List Char := List.replicate shift ' ' ++ line.toList

/-- The column of a line that was written at a level and is moved to the right. -/
theorem column_moved (shift : Nat) (level : Int) {text : String} {blanks rest : List Char} {c : Char}
    (htext : text.toList = blanks ++ c :: rest) (hmargin : IsMargin blanks)
    (hc : isBlank c = false) :
    column (moved shift (Builder.indented level text))
      = columnAfter (shift + level.toNat) blanks := by
  have hspaces : moved shift (Builder.indented level text)
      = (List.replicate (shift + level.toNat) ' ' ++ blanks) ++ c :: rest := by
    unfold moved Builder.indented
    rw [String.toList_append, String.toList_ofList, htext, List.replicate_add, List.append_assoc,
      List.append_assoc]
  have hall := (isMargin_spaces (shift + level.toNat)).append hmargin
  unfold column
  rw [hspaces, columnOf_margin hc rest _ 0 hall, columnAfter_append, columnAfter_spaces, Nat.zero_add]

/-- Of a line that was written at a level behind spaces and tabs, and one that was written four
characters right of it, the second is deeper exactly if the excess of the first is below four. -/
theorem deeper_iff (shift : Nat) {level right : Int} {text next : String} {c : Char} {cs : List Char}
    (hlevel : 0 ≤ level) (hright : right = level + (text.toList.takeWhile isBlank).length + 4)
    (hmargin : IsMargin (text.toList.takeWhile isBlank)) (hsolid : stripStart text.toList ≠ [])
    (hnext : next.toList = c :: cs) (hc : isBlank c = false) :
    column (moved shift (Builder.indented level text))
        < column (moved shift (Builder.indented right next))
      ↔ excess (shift + level.toNat) (text.toList.takeWhile isBlank) < 4 := by
  -- the first text is its blanks and something solid
  obtain ⟨d, ds, hsolid⟩ := List.exists_cons_of_ne_nil hsolid
  have htext : text.toList = text.toList.takeWhile isBlank ++ d :: ds := by
    rw [← hsolid]
    exact List.takeWhile_append_dropWhile.symm
  have hd : isBlank d = false := stripStart_head text.toList d (by rw [hsolid]; rfl)
  have hfirst := column_moved shift level htext hmargin hd
  have hsecond : column (moved shift (Builder.indented right next)) = shift + right.toNat := by
    have hchars : next.toList = [] ++ c :: cs := hnext
    exact column_moved shift right hchars nofun hc
  rw [hfirst, hsecond, columnAfter_eq, hright]
  omega

/-! ## §3. THE THEOREM. -/

namespace Emitter

/-- **A BLOCK IS RIGHT OF ITS HEADER AS FAR AS TABS ALLOW**: behind an instruction that opens a block, in
every state that the emitter comes to, and whatever program follows, the next line stands inside the
block.  If the header is indented by spaces and tabs, that line is right of it exactly if they have an
excess below four where the header stands: always if there are only spaces, and if there is one tab then
either as the lines are written or four columns to the right of that, and not both. -/
theorem block_right_of_header (contextName : String) {start : Int} (hstart : 0 ≤ start) {e : Emitter}
    (hstacked : Stacked start e.blocks e.builder.level) {i : Instruction} (hopens : i.opens ≠ none)
    (program : List Instruction) :
    let within := emit contextName e i
    ∃ text next later,
      let header := Builder.indented (levelAt e i) text
      let blanks := text.toList.takeWhile isBlank
      let deeper := fun shift => column (moved shift header) < column (moved shift next)
      within.builder.lines.getLast? = some header
        ∧ (emitAll contextName within program).closeAll.builder.lines
          = within.builder.lines ++ next :: later
        ∧ (IsMargin blanks → ∀ shift,
            deeper shift ↔ excess (shift + (levelAt e i).toNat) blanks < 4)
        ∧ (∀ n, blanks = List.replicate n ' ' → ∀ shift, deeper shift)
        ∧ ∀ before behind, blanks = List.replicate before ' ' ++ '\t' :: List.replicate behind ' ' →
            ∀ shift, deeper shift ↔ ¬ deeper (shift + 4) := by
  intro within
  obtain ⟨⟨keyword, indent⟩, hblock⟩ := Option.ne_none_iff_exists'.mp hopens
  obtain ⟨text, outer, hlast, hindent, hsolid, hblocks, hlevel⟩ := emit_header contextName e hblock
  obtain ⟨first, later, hlines, c, cs, hchars, hblank, _⟩ :=
    emitAll_first contextName program hblocks rfl
  have hmargin : 0 ≤ levelAt e i := Int.le_trans hstart (leave_stacked _ hstacked).start_le
  let blanks := text.toList.takeWhile isBlank
  let next := Builder.indented within.builder.level first
  let deeper := fun shift =>
    column (moved shift (Builder.indented (levelAt e i) text)) < column (moved shift next)
  have hright : within.builder.level = levelAt e i + blanks.length + 4 := by
    rw [show (blanks.length : Int) = indent from congrArg Nat.cast hindent]
    exact hlevel
  have hiff : IsMargin blanks → ∀ shift,
      deeper shift ↔ excess (shift + (levelAt e i).toNat) blanks < 4 := fun hblanks shift =>
    deeper_iff shift hmargin hright hblanks hsolid hchars hblank
  refine ⟨text, next, later, hlast, hlines, hiff, ?_, ?_⟩
  · intro n hspaces shift
    have hblanks : IsMargin blanks := by
      rw [show blanks = _ from hspaces]
      exact isMargin_spaces n
    refine (hiff hblanks shift).mpr ?_
    rw [show blanks = _ from hspaces, excess_spaces]
    decide
  · intro before behind htab shift
    have hblanks : IsMargin blanks := by
      rw [show blanks = _ from htab]
      exact (isMargin_spaces before).append (isMargin_spaces behind).behind_tab
    have hmoved : shift + 4 + (levelAt e i).toNat = shift + (levelAt e i).toNat + 4 := by omega
    show deeper shift ↔ ¬ deeper (shift + 4)
    rw [hiff hblanks, hiff hblanks, hmoved, show blanks = _ from htab]
    exact excess_one_tab _ before behind

/-- A header behind a tab, at the margin: its block is left of it there, and right of it in the body of
a function. -/
example :
    let header := "\tif b:"
    let next := "     pass"
    (emitAll "it" {} [.executeStatement "if a:\n\tif b:"]).closeAll.builder.lines
        = ["if a:", header, next]
      ∧ column (moved 0 header) = 8 ∧ column (moved 0 next) = 5
      ∧ column (moved 4 header) = 8 ∧ column (moved 4 next) = 9 := by
  decide

end Emitter

/-! ## §4. How a block is read. -/

namespace Script.Lexer

/-- The lexer measures the same columns. -/
theorem measure_margin (l : Lexer) {c : Char} (rest : List Char) (hc : startsToken c = true)
    (line : Nat) : ∀ (blanks : List Char) (m : Margin), IsMargin blanks →
      measure l (blanks ++ c :: rest) line m
        = .ok ({ l with rest := c :: rest, line, fresh := false, shownFrom := line },
            { m with wide := columnAfter m.wide blanks, narrow := m.narrow + blanks.length })
  | [], m, _ => measure_spaces l rest hc line 0 m
  | b :: blanks, m, h => by
      have hrest : IsMargin blanks := fun d hd => h d (List.mem_cons_of_mem _ hd)
      have hlength : ∀ k, k + 1 + blanks.length = k + (b :: blanks).length := by
        intro k
        rw [List.length_cons]
        omega
      rcases h b List.mem_cons_self with rfl | rfl
      · rw [List.cons_append, measure, measure_margin l rest hc line blanks _ hrest]
        dsimp only
        rw [hlength]
        rfl
      · rw [List.cons_append, measure, measure_margin l rest hc line blanks _ hrest]
        dsimp only
        rw [hlength]
        rfl

/-- The margin that spaces and tabs make, behind some columns of spaces. -/
def marginOf (start : Nat) (blanks : List Char) : Margin :=
  { wide := columnAfter start blanks, narrow := start + blanks.length }

/-- It is what the lexer measures. -/
theorem measure_marginOf (l : Lexer) {start : Nat} {blanks : List Char} (h : IsMargin blanks) {c : Char}
    (hc : startsToken c = true) (rest : List Char) (line : Nat) :
    measure l (List.replicate start ' ' ++ blanks ++ c :: rest) line {}
      = .ok ({ l with rest := c :: rest, line, fresh := false, shownFrom := line },
          marginOf start blanks) := by
  rw [measure_margin l rest hc line _ {} ((isMargin_spaces start).append h)]
  unfold marginOf
  dsimp only
  rw [columnAfter_append, columnAfter_spaces, List.length_append, List.length_replicate, Nat.zero_add,
    Nat.zero_add]

/-- **A BLOCK IS READ AS ONE EXACTLY IF THE EXCESS OF ITS HEADER IS BELOW FOUR**: when the innermost open
indentation is that of a header behind spaces and tabs, a line with the spaces that the emitter writes
for its block opens an indentation exactly then. -/
theorem place_block {l l' headed begun : Lexer} {level : Nat} {blanks : List Char}
    (hblanks : IsMargin blanks) {c d : Char} (hc : startsToken c = true) (hd : startsToken d = true)
    {text rest : List Char} {line line' : Nat} {header block : Margin}
    (hheader : measure l (List.replicate level ' ' ++ blanks ++ c :: text) line {} = .ok (headed, header))
    (hblock : measure l' (List.replicate (level + blanks.length + 4) ' ' ++ d :: rest) line' {}
      = .ok (begun, block))
    {outer : List (Nat × Nat)} (hindents : begun.indents = (header.wide, header.narrow) :: outer)
    (hroom : begun.indents.length + 1 < maxIndents) :
    (∃ next, place begun block = .ok next ∧ next.queue = [.indent]) ↔ excess level blanks < 4 := by
  let n := level + blanks.length + 4
  obtain rfl : header = marginOf level blanks := by
    rw [measure_marginOf l hblanks hc] at hheader
    exact (Prod.mk.inj (Except.ok.inj hheader)).2.symm
  obtain rfl : block = ⟨n, n, 0⟩ := by
    rw [measure_spaces l' rest hd line' _ {}] at hblock
    obtain ⟨-, rfl⟩ := Prod.mk.inj (Except.ok.inj hblock)
    dsimp only
    rw [Nat.zero_add]
  unfold marginOf at hindents
  have htop := columnAfter_eq level blanks
  have hfull : ¬ begun.indents.length + 1 ≥ maxIndents := by omega
  have hdeeper : ¬ n ≤ level + blanks.length := by omega
  unfold place
  simp only [beq_self_eq_true, if_true]
  rw [hindents] at hfull ⊢
  rw [List.headD_cons]
  dsimp only
  rcases Nat.lt_trichotomy (excess level blanks) 4 with hlt | heq | hgt
  · -- the line is right of the header in both measures
    rw [if_neg (by rw [beq_iff_eq]; omega), if_pos (by omega), if_neg hfull, if_neg hdeeper]
    exact ⟨fun _ => hlt, fun _ => ⟨_, rfl, rfl⟩⟩
  · -- the tabs reach just as far as the line, which mixes them with spaces
    rw [if_pos (by rw [beq_iff_eq]; omega), if_neg (by rw [beq_iff_eq]; omega)]
    exact ⟨fun ⟨_, herror, _⟩ => (nomatch herror), fun hlt => absurd hlt (by omega)⟩
  · -- the header is further to the right: indentations are closed, none is opened
    rw [if_neg (by rw [beq_iff_eq]; omega), if_neg (by omega)]
    refine ⟨fun ⟨next, hnext, hqueue⟩ => ?_, fun hlt => absurd hlt (by omega)⟩
    split at hnext
    · cases hnext
    split at hnext
    · cases hnext
    · obtain rfl := Except.ok.inj hnext
      have hdedent : TokenKind.indent ∈ List.replicate _ TokenKind.dedent :=
        (show List.replicate _ TokenKind.dedent = _ from hqueue) ▸ List.mem_cons_self
      exact absurd (List.eq_of_mem_replicate hdedent) nofun

end Script.Lexer

end TagTemplate
