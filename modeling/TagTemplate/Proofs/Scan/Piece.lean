/-
  TagTemplate.Proofs.Scan.Piece
  ────────────────────────────────
  **A TAG THAT IS WRITTEN IS FOUND.**

  The scanner's functions are complete, from the inside out, for tags
  written between `<%` and `%>` with one blank on each side of the body:

    • `tagEnd?_tagClose` — the end of a tag is read where it stands,
    • `Body.tagEnd?_eq_none` — and nowhere in front of it,
    • `Body.bodyEnd?` — so the body is read as a whole,
    • `tagAt?_text` — and the tag is found with all its parts.

  A body (`Body`) consists of quoted runs, comments and other characters; a
  closing delimiter stands only inside the first two.
-/
import TagTemplate.Proofs.Scan.Span
import TagTemplate.Scan.Parse

namespace TagTemplate

open Text

/-! ## §1. Tags as they are written. -/

/-- The delimiters and prefix characters that are used when nothing else is asked for. -/
def Delimiters.standard : Delimiters := ⟨['<', '%'], ['%', '>'], ['=', '~']⟩

/-- The body of a tag: complete quoted runs, complete comments and other characters. -/
inductive Body : List Char → Prop where
  /-- Nothing more. -/
  | nil : Body []
  /-- A quoted run. -/
  | quoted {q : Char} {run s : List Char} (hq : isQuote q = true) (hrun : RunRest q run)
      (hs : Body s) : Body (q :: (run ++ s))
  /-- A comment. -/
  | comment {rest s : List Char} (hrest : CommentRest rest) (hs : Body s) :
      Body ('/' :: '*' :: (rest ++ s))
  /-- A character that opens neither of them and no closing delimiter. -/
  | char {c : Char} {s : List Char} (hq : isQuote c = false)
      (hcomment : c = '/' → s.head? ≠ some '*') (hclose : c = '%' → s.head? ≠ some '>')
      (hs : Body s) : Body (c :: s)

/-- The prefix character of a kind; execute tags have none. -/
def TagKind.standardMark : TagKind → Option Char
  | .raw => some '~'
  | .interpolate => some '='
  | .execute => none

/-- A tag that can be written. -/
structure TagPiece where
  /-- The kind. -/
  kind : TagKind
  /-- The left trim marker. -/
  left : Option Char
  /-- The body. -/
  body : List Char
  /-- The right trim marker. -/
  right : Option Char
  /-- The left trim marker is one. -/
  left_isMarker : ∀ c ∈ left, isMarker c = true
  /-- The right trim marker is one. -/
  right_isMarker : ∀ c ∈ right, isMarker c = true
  /-- The body neither starts nor ends with a blank. -/
  body_trimmed : IsTrimmed body
  /-- The body consists of runs, comments and other characters. -/
  body_steps : Body body
  /-- The body of an execute tag does not start like another kind of tag. -/
  body_unmarked : kind = .execute → ∀ c ∈ body.head?, c ∉ Delimiters.standard.marks

/-- The end of a tag and the text behind it. -/
def tagClose (right : Option Char) (rest : List Char) : List Char :=
  right.toList ++ ['%', '>'] ++ rest

/-- A tag as it is written. -/
def TagPiece.text (t : TagPiece) : List Char :=
  ['<', '%'] ++ t.left.toList ++ t.kind.standardMark.toList ++ ' ' :: t.body
    ++ ' ' :: tagClose t.right []

/-! ## §2. Where the end of a tag is read. -/

section
variable {right : Option Char} {rest : List Char}

theorem tagClose_head (hright : ∀ c ∈ right, isMarker c = true) :
    ∀ c ∈ (tagClose right rest).head?, isMarker c = true ∨ c = '%' := by
  cases right with
  | none => simp [tagClose]
  | some m => simpa [tagClose] using Or.inl (hright m rfl)

theorem tagClose_head_not_blank (hright : ∀ c ∈ right, isMarker c = true) :
    ∀ c ∈ (tagClose right rest).head?, isBlank c = false := by
  intro c hc
  rcases tagClose_head hright c hc with h | rfl
  · rcases isMarker_cases h with rfl | rfl <;> decide
  · decide

theorem tagClose_head_unmarked (hright : ∀ c ∈ right, isMarker c = true) :
    ∀ c ∈ (tagClose right rest).head?, c ∉ Delimiters.standard.marks := by
  intro c hc
  rcases tagClose_head hright c hc with h | rfl
  · rcases isMarker_cases h with rfl | rfl <;> decide
  · decide

theorem endMarker?_tagClose (hright : ∀ c ∈ right, isMarker c = true) :
    endMarker? .standard (tagClose right rest) = some right := by
  have hclose : startsWith ['%', '>'] (['%', '>'] ++ rest) = true := startsWith_append _ _
  cases right with
  | none => rfl
  | some m =>
      have hm : (isMarker m && startsWith ['%', '>'] (['%', '>'] ++ rest)) = true := by
        rw [hright m rfl, hclose]
        rfl
      show (if isMarker m && startsWith ['%', '>'] (['%', '>'] ++ rest) then some (some m)
        else _) = _
      rw [if_pos hm]

/-- **The end of a tag is read where it stands**, with the blanks in front of it. -/
theorem tagEnd?_tagClose (hright : ∀ c ∈ right, isMarker c = true) (blanks : List Char)
    (hb : allBlank blanks = true) :
    tagEnd? .standard (blanks ++ tagClose right rest) = some ⟨blanks, right⟩ := by
  have hend : endMarker? .standard (tagClose right rest) = some right := endMarker?_tagClose hright
  unfold tagEnd?
  rw [takeWhile_append_blanks hb (tagClose_head_not_blank hright)]
  cases blanks with
  | nil =>
      show (endMarker? .standard (tagClose right rest)).map _ = _
      rw [hend]
      rfl
  | cons b blanks =>
      have hdrop : (b :: blanks ++ tagClose right rest).drop (blanks.length + 1)
          = tagClose right rest := by
        rw [List.cons_append, List.drop_succ_cons, List.drop_left]
      have htake : (b :: blanks ++ tagClose right rest).take (blanks.length + 1) = b :: blanks := by
        rw [List.cons_append, List.take_succ_cons, List.take_left]
      show endBehind? .standard (b :: blanks ++ tagClose right rest) (blanks.length + 1) = _
      unfold endBehind?
      rw [hdrop, hend, htake]

/-! ## §3. Nothing is read as the end in front of it. -/

/-- Behind a character that opens nothing a body goes on. -/
theorem Body.tail {c : Char} {s : List Char} (h : Body (c :: s)) (hq : isQuote c = false)
    (hc : c ≠ '/') : Body s ∧ (c = '%' → s.head? ≠ some '>') := by
  cases h with
  | quoted hq' _ _ => exact absurd hq' (by simp [hq])
  | comment _ _ => exact absurd rfl hc
  | char _ _ hclose hs => exact ⟨hs, hclose⟩

theorem Body.ne_closing {b s t : List Char} (h : Body b) :
    b ++ ' ' :: s ≠ '%' :: '>' :: t := by
  intro heq
  -- the `%` would be a character of the body, and the `>` the next one or the blank behind it
  cases b with
  | nil => exact absurd (List.cons.inj heq).1 (by decide)
  | cons c b =>
      obtain ⟨rfl, htail⟩ := List.cons.inj heq
      obtain ⟨_, hclose⟩ := h.tail (by decide) (by decide)
      cases b with
      | nil => exact absurd (List.cons.inj htail).1 (by decide)
      | cons c b => exact hclose rfl (congrArg some (List.cons.inj htail).1)

theorem Body.ne_marker {b s t : List Char} {m : Char} (h : Body b) (hne : b ≠ [])
    (hm : isMarker m = true) : b ++ ' ' :: s ≠ m :: '%' :: '>' :: t := by
  intro heq
  cases b with
  | nil => exact hne rfl
  | cons c b =>
      obtain ⟨rfl, htail⟩ := List.cons.inj heq
      -- the marker would be a character of the body with a closing delimiter behind it
      have hchar : isQuote c = false ∧ c ≠ '/' := by
        rcases isMarker_cases hm with rfl | rfl <;> decide
      exact (h.tail hchar.1 hchar.2).1.ne_closing htail

/-- A body with a last character that is no blank holds no end of a tag behind its blanks. -/
theorem Body.ne_tagEnd {s t : List Char} {marker : Option Char}
    (hmarker : ∀ c ∈ marker, isMarker c = true) :
    ∀ {blanks b : List Char}, allBlank blanks = true → Body b → b ≠ [] →
      (∀ c ∈ b.getLast?, isBlank c = false) →
      b ++ ' ' :: s ≠ blanks ++ tagClose marker t
  | [], b, _, h, hne, _ => by
      cases marker with
      | none => exact h.ne_closing
      | some m => exact h.ne_marker hne (hmarker m rfl)
  | blank :: blanks, b, hb, h, hne, hlast => by
      intro heq
      have hblank : isBlank blank = true := allBlank_iff.mp hb blank List.mem_cons_self
      have hblanks : allBlank blanks = true :=
        allBlank_iff.mpr fun c hc => allBlank_iff.mp hb c (List.mem_cons_of_mem _ hc)
      cases b with
      | nil => exact hne rfl
      | cons c b =>
          obtain ⟨rfl, htail⟩ := List.cons.inj heq
          -- a blank of the end would be one of the body, and more of the body would follow
          have hne' : b ≠ [] := by
            rintro rfl
            exact absurd hblank (by simp [hlast c rfl])
          exact ne_tagEnd hmarker hblanks (h.tail (isQuote_of_blank hblank)
            (ne_slash_of_blank hblank)).1 hne' (last_of_append (s := [c]) hlast) htail

/-- **The end of a tag is not read inside its body.** -/
theorem Body.tagEnd?_eq_none {b s : List Char} (h : Body b) (hne : b ≠ [])
    (hlast : ∀ c ∈ b.getLast?, isBlank c = false) :
    tagEnd? .standard (b ++ ' ' :: s) = none := by
  cases hend : tagEnd? .standard (b ++ ' ' :: s) with
  | none => rfl
  | some stop =>
      obtain ⟨⟨hblanks, hmarker⟩, t, htext⟩ := tagEnd?_sound hend
      refine absurd (htext.trans ?_) (h.ne_tagEnd (t := t) hmarker hblanks hne hlast)
      simp [TagEnd.text, tagClose, Delimiters.standard]

/-! ## §4. The body is read as a whole. -/

/-- **The body is read as a whole**, whatever stands behind the tag. -/
theorem Body.bodyEnd? (hright : ∀ c ∈ right, isMarker c = true) {b : List Char} (h : Body b)
    (hlast : ∀ c ∈ b.getLast?, isBlank c = false) :
    bodyEnd? .standard (b ++ ' ' :: tagClose right rest) = some (b, ⟨[' '], right⟩) := by
  -- on the steps of the body: none of them starts with an end, so each is read and left behind
  have hbody := h
  induction h with
  | nil => exact bodyEnd?_of_tagEnd? (tagEnd?_tagClose hright [' '] rfl)
  | @quoted q run s hq hrun hs ih =>
      have hnone := hbody.tagEnd?_eq_none (s := tagClose right rest) (by simp) hlast
      rw [List.cons_append, List.append_assoc] at hnone ⊢
      rw [bodyEnd?_cons hnone, stepTail_quoted hq hrun, List.drop_left, List.take_left,
          ih (last_of_append (s := q :: run) hlast) hs]
      rfl
  | @comment text s hrest hs ih =>
      have hnone := hbody.tagEnd?_eq_none (s := tagClose right rest) (by simp) hlast
      rw [List.cons_append, List.cons_append, List.append_assoc] at hnone ⊢
      rw [bodyEnd?_cons hnone, stepTail_comment hrest, List.drop_succ_cons, List.take_succ_cons,
          List.drop_left, List.take_left, ih (last_of_append (s := '/' :: '*' :: text) hlast) hs]
      rfl
  | @char c s hq hcomment hclose hs ih =>
      have hnone := hbody.tagEnd?_eq_none (s := tagClose right rest) (by simp) hlast
      have hstep : stepTail c (s ++ ' ' :: tagClose right rest) = 0 := by
        -- at the end of the body the next character is the blank, and no star
        refine stepTail_char hq fun hslash => ?_
        cases s with
        | nil => simp
        | cons a s => exact hcomment hslash
      rw [List.cons_append] at hnone ⊢
      rw [bodyEnd?_cons hnone, hstep, List.drop_zero, ih (last_of_append (s := [c]) hlast) hs]
      rfl

/-! ## §5. The head of a tag. -/

/-- A countdown that succeeds at once. -/
theorem findSome?_countdown_first {α β : Type} {g : Nat → α} {f : α → Option β} {x : β} {n : Nat}
    (h : f (g n) = some x) : ((List.range (n + 1)).reverse.map g).findSome? f = some x := by
  rw [List.range_succ, List.reverse_append, List.reverse_singleton, List.singleton_append,
      List.map_cons, List.findSome?_cons, h]

section
variable {d : Delimiters} {blanks tail body : List Char} {stop : TagEnd}

/-- A head in front of a body is completed to a tag. -/
theorem complete?_of_bodyEnd? (hbody : bodyEnd? d tail = some (body, stop))
    (marker : Option Char) (lead : List Char) (mark : Option Char) (gap : List Char) :
    TagHead.complete? d ⟨marker, lead, mark, gap, tail⟩
      = some ⟨marker, lead, mark, gap, body, stop.blanks, stop.marker⟩ := by
  unfold TagHead.complete?
  rw [hbody]
  rfl

/-- Behind all blanks and no prefix character stands the body. -/
theorem headsAfter_plain (marker : Option Char) (hblanks : allBlank blanks = true)
    (hhead : ∀ c ∈ tail.head?, isBlank c = false) (hunmarked : ∀ c ∈ tail.head?, c ∉ d.marks)
    (hbody : bodyEnd? d tail = some (body, stop)) :
    (headsAfter d marker (blanks ++ tail)).findSome? (·.complete? d)
      = some ⟨marker, blanks, none, [], body, stop.blanks, stop.marker⟩ := by
  have hplain : ((List.range (blanks.length + 1)).reverse.map fun k =>
      (⟨marker, blanks.take k, none, [], (blanks ++ tail).drop k⟩ : TagHead)).findSome?
        (·.complete? d) = some ⟨marker, blanks, none, [], body, stop.blanks, stop.marker⟩ := by
    refine findSome?_countdown_first ?_
    rw [List.take_length, List.drop_left]
    exact complete?_of_bodyEnd? hbody marker blanks none []
  unfold headsAfter
  simp only
  rw [takeWhile_append_blanks hblanks hhead, List.drop_left, List.findSome?_append, hplain]
  -- a way with a prefix character would be tried before, but there is no such character
  cases tail with
  | nil => rfl
  | cons c tail =>
      have hc : d.marks.contains c = false := by
        have := hunmarked c rfl
        simpa using this
      simp only [hc]
      rfl

/-- Behind a prefix character and all blanks stands the body. -/
theorem headsAfter_marked (marker : Option Char) {c : Char} (hc : isBlank c = false)
    (hmem : c ∈ d.marks) (hblanks : allBlank blanks = true)
    (hhead : ∀ c ∈ tail.head?, isBlank c = false) (hbody : bodyEnd? d tail = some (body, stop)) :
    (headsAfter d marker (c :: (blanks ++ tail))).findSome? (·.complete? d)
      = some ⟨marker, [], some c, blanks, body, stop.blanks, stop.marker⟩ := by
  have hnone : (c :: (blanks ++ tail)).takeWhile isBlank = [] :=
    List.takeWhile_cons_of_neg (by simp [hc])
  have hcontains : d.marks.contains c = true := List.contains_iff_mem.mpr hmem
  have hmarked : ((List.range (blanks.length + 1)).reverse.map fun k =>
      (⟨marker, [], some c, blanks.take k, (blanks ++ tail).drop k⟩ : TagHead)).findSome?
        (·.complete? d) = some ⟨marker, [], some c, blanks, body, stop.blanks, stop.marker⟩ := by
    refine findSome?_countdown_first ?_
    rw [List.take_length, List.drop_left]
    exact complete?_of_bodyEnd? hbody marker [] (some c) blanks
  unfold headsAfter
  simp only
  rw [hnone, List.findSome?_append]
  simp only [List.length_nil, List.drop_zero, hcontains, if_true,
    takeWhile_append_blanks hblanks hhead]
  rw [hmarked, Option.some_or]

end

/-- The blanks in front of a written body and the text from there on; behind an empty body both
blanks are read at once. -/
theorem blanks_before_body (t : TagPiece) (rest : List Char) :
    ∃ (blanks tail : List Char) (stop : TagEnd),
      ' ' :: t.body ++ ' ' :: tagClose t.right rest = blanks ++ tail
        ∧ allBlank blanks = true ∧ (∀ c ∈ tail.head?, isBlank c = false)
        ∧ (t.kind = .execute → ∀ c ∈ tail.head?, c ∉ Delimiters.standard.marks)
        ∧ bodyEnd? .standard tail = some (t.body, stop) ∧ stop.marker = t.right
        ∧ blanks ++ t.body ++ stop.blanks = ' ' :: t.body ++ [' '] := by
  cases hb : t.body with
  | nil =>
      refine ⟨[' ', ' '], tagClose t.right rest, ⟨[], t.right⟩, rfl, rfl,
        tagClose_head_not_blank t.right_isMarker,
        fun _ => tagClose_head_unmarked t.right_isMarker, ?_, rfl, rfl⟩
      exact bodyEnd?_of_tagEnd? (tagEnd?_tagClose t.right_isMarker [] rfl)
  | cons c b =>
      have hhead : (c :: b ++ ' ' :: tagClose t.right rest).head? = t.body.head? := by rw [hb]; rfl
      refine ⟨[' '], c :: b ++ ' ' :: tagClose t.right rest, ⟨[' '], t.right⟩, rfl, rfl, ?_, ?_, ?_,
        rfl, rfl⟩
      · rw [hhead]
        exact t.body_trimmed.head
      · rw [hhead]
        exact t.body_unmarked
      · rw [← hb]
        exact t.body_steps.bodyEnd? t.right_isMarker t.body_trimmed.last

theorem standardMark_mem {kind : TagKind} {c : Char} (h : kind.standardMark = some c) :
    c ∈ Delimiters.standard.marks ∧ isBlank c = false := by
  cases kind with
  | raw => injection h with h; subst h; decide
  | interpolate => injection h with h; subst h; decide
  | execute => exact absurd h (by simp [TagKind.standardMark])

/-- The span that is found for a written tag. -/
structure TagPiece.Spans (t : TagPiece) (span : TagSpan) : Prop where
  /-- The left trim marker. -/
  left : span.left = t.left
  /-- The prefix character. -/
  mark : span.mark = t.kind.standardMark
  /-- The body. -/
  body : span.body = t.body
  /-- The right trim marker. -/
  right : span.right = t.right
  /-- The text. -/
  text : span.text .standard = t.text

/-- The parts of a written tag are the tag again, however its blanks are shared out. -/
theorem TagPiece.text_of_parts (t : TagPiece) {blanks tail : List Char}
    (h : blanks ++ t.body ++ tail = ' ' :: t.body ++ [' ']) :
    ['<', '%'] ++ t.left.toList ++ t.kind.standardMark.toList ++ blanks ++ t.body ++ tail
      ++ t.right.toList ++ ['%', '>'] = t.text := by
  calc _ = ['<', '%'] ++ t.left.toList ++ t.kind.standardMark.toList
            ++ (blanks ++ t.body ++ tail) ++ t.right.toList ++ ['%', '>'] := by
        simp only [List.append_assoc]
    _ = t.text := by
        rw [h]
        simp [TagPiece.text, tagClose]

/-- The greediest way to read the head is the one that was written. -/
theorem headsAfter_text (t : TagPiece) (rest : List Char) :
    ∃ span, (headsAfter .standard t.left
        (t.kind.standardMark.toList ++ (' ' :: t.body ++ ' ' :: tagClose t.right rest))).findSome?
          (·.complete? .standard) = some span ∧ t.Spans span := by
  obtain ⟨blanks, tail, stop, hsplit, hblanks, hhead, hunmarked, hbody, hmarker, hparts⟩ :=
    blanks_before_body t rest
  have htext := t.text_of_parts hparts
  rw [hsplit]
  cases hm : t.kind.standardMark with
  | none =>
      have hkind : t.kind = .execute := by
        cases hk : t.kind with
        | execute => rfl
        | raw => exact absurd (hk ▸ hm) (by simp [TagKind.standardMark])
        | interpolate => exact absurd (hk ▸ hm) (by simp [TagKind.standardMark])
      have hspan := headsAfter_plain t.left hblanks hhead (hunmarked hkind) hbody
      refine ⟨_, hspan, rfl, hm.symm, rfl, hmarker, ?_⟩
      rw [← htext, hm, ← hmarker]
      simp [TagSpan.text, Delimiters.standard]
  | some c =>
      obtain ⟨hmem, hc⟩ := standardMark_mem hm
      have hspan := headsAfter_marked t.left hc hmem hblanks hhead hbody
      refine ⟨_, hspan, rfl, hm.symm, rfl, hmarker, ?_⟩
      rw [← htext, hm, ← hmarker]
      simp [TagSpan.text, Delimiters.standard]

/-- A text that starts with no marker is read without one. -/
theorem heads_unmarked {d : Delimiters} {s : List Char} (h : ∀ c ∈ s.head?, isMarker c = false) :
    heads d s = headsAfter d none s := by
  unfold heads
  cases s with
  | nil => rfl
  | cons c s => simp only [h c rfl, Bool.false_eq_true, if_false]

/-- **A tag that is written is found**, whatever stands behind it. -/
theorem tagAt?_text (t : TagPiece) (rest : List Char) :
    ∃ span, tagAt? .standard (t.text ++ rest) = some span ∧ t.Spans span := by
  obtain ⟨span, hspan, hspans⟩ := headsAfter_text t rest
  refine ⟨span, ?_, hspans⟩
  have htext : t.text ++ rest = ['<', '%'] ++ (t.left.toList ++ (t.kind.standardMark.toList
      ++ (' ' :: t.body ++ ' ' :: tagClose t.right rest))) := by
    simp [TagPiece.text, tagClose]
  unfold tagAt?
  rw [htext, show Delimiters.standard.opening = ['<', '%'] from rfl, dropStart?_append]
  simp only
  cases hl : t.left with
  | none =>
      rw [hl] at hspan
      -- the prefix character or the blank comes first, and neither is a marker
      have hunmarked : ∀ c ∈ (t.kind.standardMark.toList
          ++ (' ' :: t.body ++ ' ' :: tagClose t.right rest)).head?, isMarker c = false := by
        intro c hc
        cases hk : t.kind with
        | raw => rw [hk] at hc; injection hc with hc; subst hc; decide
        | interpolate => rw [hk] at hc; injection hc with hc; subst hc; decide
        | execute => rw [hk] at hc; injection hc with hc; subst hc; decide
      rw [Option.toList_none, List.nil_append, heads_unmarked hunmarked, hspan]
  | some m =>
      rw [hl] at hspan
      rw [Option.toList_some, List.singleton_append]
      unfold heads
      simp only
      rw [if_pos (t.left_isMarker m hl), List.findSome?_append, hspan, Option.some_or]

end

end TagTemplate
