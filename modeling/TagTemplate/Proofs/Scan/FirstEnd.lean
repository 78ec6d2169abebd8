/-
  TagTemplate.Proofs.Scan.FirstEnd
  ────────────────────────────────
  **A TAG ENDS AT THE FIRST PLACE WHERE IT CAN.**

  The scanner tries many ways to read the head of a tag and looks behind each
  of them for an end.  Here it is compared with one pass that never goes back:
  the head takes what it can (`greedyHead`), and the tag ends at the first
  boundary between the steps behind it where it can.

    • `findSome?_heads` — where the greedy head is not completed no other head
      is, so nothing is ever given back,
    • `scanFrom_first` — every tag of a cut ends at its first boundary, and no
      opening delimiter that is left in a gap has one,
    • `CutFirst.unique` — a text is cut in one such way only.

  They need delimiters that do not run into the head of a tag
  (`Delimiters.Clear`).
-/
import TagTemplate.Proofs.Scan.Boundary
import TagTemplate.Proofs.Scan.Lossless

namespace TagTemplate

open Text

/-! ## §1. The head of a tag. -/

/-- The first character of a text if it has a property, and the text behind it. -/
def takeOne (p : Char → Bool) : List Char → Option Char × List Char
  | c :: s => if p c then (some c, s) else (none, c :: s)
  | [] => (none, [])

/-- Blanks, a prefix character and blanks, behind a marker: all that stand there. -/
def greedyFrom (d : Delimiters) (marker : Option Char) (s : List Char) : TagHead :=
  let found := takeOne d.marks.contains (stripStart s)
  ⟨marker, s.takeWhile isBlank, found.1, found.2.takeWhile isBlank, stripStart found.2⟩

/-- The head of a tag in which every part takes what it can. -/
def greedyHead (d : Delimiters) (s : List Char) : TagHead :=
  let found := takeOne isMarker s
  greedyFrom d found.1 found.2

/-- Delimiters that do not run into the head of a tag: the closing one starts like none of its parts,
and no prefix character starts a run or a comment. -/
structure Delimiters.Clear (d : Delimiters) : Prop where
  /-- The closing delimiter is not empty. -/
  closing_ne : d.closing ≠ []
  /-- It starts with no blank, no marker and no prefix character. -/
  closing : ∀ c ∈ d.closing.head?, isBlank c = false ∧ isMarker c = false ∧ c ∉ d.marks
  /-- Prefix characters are no quotes and no slashes. -/
  marks : ∀ c ∈ d.marks, isQuote c = false ∧ c ≠ '/'

/-- A character of the head of a tag. -/
def Delimiters.IsHeadChar (d : Delimiters) (c : Char) : Prop :=
  isBlank c = true ∨ isMarker c = true ∨ c ∈ d.marks

section Head

variable {d : Delimiters}

theorem takeOne_append (p : Char → Bool) (s : List Char) :
    s = (takeOne p s).1.toList ++ (takeOne p s).2 ∧ ∀ c ∈ (takeOne p s).1, p c = true := by
  unfold takeOne
  split
  next c t =>
    split
    next hp => exact ⟨rfl, fun x hx => Option.mem_some.mp hx ▸ hp⟩
    next => exact ⟨rfl, nofun⟩
  next => exact ⟨rfl, nofun⟩

/-- The parts of the greedy head are the text again. -/
theorem greedyFrom_text (marker : Option Char) (s : List Char) :
    s = (greedyFrom d marker s).lead ++ ((greedyFrom d marker s).mark.toList
      ++ ((greedyFrom d marker s).gap ++ (greedyFrom d marker s).rest)) := by
  show s = s.takeWhile isBlank ++ ((takeOne d.marks.contains (stripStart s)).1.toList
    ++ ((takeOne d.marks.contains (stripStart s)).2.takeWhile isBlank
      ++ (takeOne d.marks.contains (stripStart s)).2.dropWhile isBlank))
  rw [List.takeWhile_append_dropWhile, ← (takeOne_append _ (stripStart s)).1]
  exact List.takeWhile_append_dropWhile.symm

theorem greedyHead_text (s : List Char) :
    s = (greedyHead d s).marker.toList ++ ((greedyHead d s).lead
      ++ ((greedyHead d s).mark.toList ++ ((greedyHead d s).gap ++ (greedyHead d s).rest))) := by
  conv => lhs; rw [(takeOne_append isMarker s).1]
  unfold greedyHead
  rw [← greedyFrom_text]
  rfl

/-- A text is another one behind characters of the head of a tag, which were given back. -/
inductive Delimiters.GivesBack (d : Delimiters) (left : List Char) : List Char → Prop where
  /-- Nothing is given back. -/
  | none : d.GivesBack left left
  /-- One character more. -/
  | char {c : Char} {s : List Char} (hc : d.IsHeadChar c) (h : d.GivesBack left s) :
      d.GivesBack left (c :: s)

theorem Delimiters.GivesBack.append {left s : List Char} (h : d.GivesBack left s) :
    ∀ {back : List Char}, (∀ c ∈ back, d.IsHeadChar c) → d.GivesBack left (back ++ s)
  | [], _ => h
  | _ :: _, hback => by
      obtain ⟨hc, hback⟩ := List.forall_mem_cons.mp hback
      exact .char hc (h.append hback)

theorem Delimiters.GivesBack.trans {left s t : List Char} (h : d.GivesBack left s)
    (h' : d.GivesBack s t) : d.GivesBack left t := by
  induction h' with
  | none => exact h
  | char hc _ ih => exact .char hc ih

/-- Some of the blanks at the start of a text are given back. -/
theorem Delimiters.GivesBack.drop {left s : List Char} (h : d.GivesBack left (stripStart s))
    {k : Nat} (hk : k ≤ (s.takeWhile isBlank).length) : d.GivesBack left (s.drop k) := by
  have hcut : s.drop k = (s.takeWhile isBlank).drop k ++ stripStart s := by
    rw [← List.drop_append_of_le_length hk]
    exact congrArg (List.drop k) List.takeWhile_append_dropWhile.symm
  rw [hcut]
  refine h.append fun c hc => .inl ?_
  exact allBlank_iff.mp (takeWhile_isBlank_allBlank s) c (List.mem_of_mem_drop hc)

/-- All that the greedy head takes behind the first blanks can be given back. -/
theorem givesBack_greedyFrom (marker : Option Char) (s : List Char) :
    d.GivesBack (greedyFrom d marker s).rest (stripStart s) := by
  show d.GivesBack (stripStart (takeOne d.marks.contains (stripStart s)).2) (stripStart s)
  obtain ⟨htext, hmark⟩ := takeOne_append d.marks.contains (stripStart s)
  generalize takeOne d.marks.contains (stripStart s) = found at htext hmark ⊢
  have hrest : d.GivesBack (stripStart found.2) found.2 := Delimiters.GivesBack.none.drop (Nat.zero_le _)
  rw [htext]
  refine hrest.append fun c hc => .inr (.inr ?_)
  exact List.contains_iff_mem.mp (hmark c (Option.mem_toList.mp hc))

theorem head?_countdown {α : Type} (g : Nat → α) (n : Nat) :
    ((List.range (n + 1)).reverse.map g).head? = some (g n) := by
  rw [List.range_succ, List.reverse_append, List.reverse_singleton, List.singleton_append,
      List.map_cons, List.head?_cons]

/-- The first head that is tried behind a marker is the greedy one. -/
theorem head?_headsAfter (marker : Option Char) (s : List Char) :
    (headsAfter d marker s).head? = some (greedyFrom d marker s) := by
  unfold headsAfter greedyFrom
  simp only
  rw [drop_blanks, List.head?_append, head?_countdown, List.take_length, drop_blanks]
  have hblank := stripStart_head s
  cases hs : stripStart s with
  | nil => rfl
  | cons c t =>
      rw [hs] at hblank
      simp only [takeOne]
      split
      next => rw [head?_countdown, List.take_length, drop_blanks]; rfl
      next =>
        -- behind the blanks nothing is left to take
        have hc : isBlank c = false := hblank c rfl
        rw [List.takeWhile_cons_of_neg (by simp [hc]), stripStart_eq_self (by simpa using hc)]
        rfl

/-- The other ones give back what it takes. -/
theorem givesBack_headsAfter (marker marker' : Option Char) (s : List Char) :
    ∀ h ∈ headsAfter d marker s, d.GivesBack (greedyFrom d marker' s).rest h.rest := by
  intro h hh
  unfold headsAfter at hh
  simp only [drop_blanks] at hh
  rcases List.mem_append.mp hh with hh | hh
  · split at hh
    next c t hs =>
      split at hh
      next hc =>
        obtain ⟨k, hk, rfl⟩ := List.mem_map.mp hh
        have hrest : (greedyFrom d marker' s).rest = stripStart t := by
          show stripStart (takeOne d.marks.contains (stripStart s)).2 = stripStart t
          rw [hs, takeOne, if_pos hc]
        rw [hrest]
        refine Delimiters.GivesBack.none.drop ?_
        simpa [Nat.lt_succ_iff] using hk
      next => exact absurd hh List.not_mem_nil
    next => exact absurd hh List.not_mem_nil
  · obtain ⟨k, hk, rfl⟩ := List.mem_map.mp hh
    refine (givesBack_greedyFrom marker' s).drop ?_
    simpa [Nat.lt_succ_iff] using hk

/-- A marker is given back with everything behind it. -/
theorem givesBack_marker {c : Char} (hc : isMarker c = true) (marker : Option Char) (s : List Char) :
    d.GivesBack (greedyFrom d marker s).rest (greedyFrom d none (c :: s)).rest := by
  have hsolid : stripStart (c :: s) = c :: s :=
    stripStart_eq_self fun x hx => by
      rcases isMarker_cases (Option.mem_some.mp hx ▸ hc) with rfl | rfl <;> decide
  have hrest := givesBack_greedyFrom (d := d) marker s
  show d.GivesBack _ (stripStart (takeOne d.marks.contains (stripStart (c :: s))).2)
  rw [hsolid, takeOne]
  split
  next => exact hrest
  next =>
    rw [hsolid]
    exact .char (.inr (.inl hc)) (hrest.drop (Nat.zero_le _))

theorem head?_heads (s : List Char) : (heads d s).head? = some (greedyHead d s) := by
  unfold heads greedyHead
  split
  next c t =>
    rw [takeOne]
    split
    next => rw [List.head?_append, head?_headsAfter]; rfl
    next => exact head?_headsAfter none (c :: t)
  next => exact head?_headsAfter none []

theorem givesBack_heads (s : List Char) :
    ∀ h ∈ heads d s, d.GivesBack (greedyHead d s).rest h.rest := by
  intro h hh
  unfold heads at hh
  unfold greedyHead
  split at hh
  next c t =>
    rw [takeOne]
    split at hh
    next hc =>
      rw [if_pos hc]
      rcases List.mem_append.mp hh with hh | hh
      · exact givesBack_headsAfter _ _ t h hh
      · exact (givesBack_marker hc (some c) t).trans (givesBack_headsAfter _ none (c :: t) h hh)
    next hc =>
      rw [if_neg hc]
      exact givesBack_headsAfter _ _ (c :: t) h hh
  next => exact givesBack_headsAfter _ _ [] h hh

variable (clear : d.Clear)

include clear in
/-- Characters of the head are steps of their own. -/
theorem Delimiters.IsHeadChar.plain {c : Char} (hc : d.IsHeadChar c) :
    isQuote c = false ∧ c ≠ '/' := by
  rcases hc with hc | hc | hc
  · exact ⟨isQuote_of_blank hc, ne_slash_of_blank hc⟩
  · rcases isMarker_cases hc with rfl | rfl <;> decide
  · exact clear.marks c hc

include clear in
/-- An end that can be read in front of a character of the head can be read behind it. -/
theorem CanEnd.of_cons {c : Char} {s : List Char} (hc : d.IsHeadChar c) (h : CanEnd d (c :: s)) :
    CanEnd d s := by
  obtain ⟨⟨blanks, marker⟩, ⟨hblanks, hmarker⟩, rest, htext⟩ := h
  cases blanks with
  | cons b blanks =>
      obtain ⟨_, hs⟩ := List.cons.inj htext
      refine ⟨⟨blanks, marker⟩, ⟨allBlank_iff.mpr fun x hx => ?_, hmarker⟩, rest, hs⟩
      exact allBlank_iff.mp hblanks x (List.mem_cons_of_mem _ hx)
  | nil =>
      cases marker with
      | some m =>
          obtain ⟨_, hs⟩ := List.cons.inj htext
          exact ⟨⟨[], none⟩, ⟨rfl, nofun⟩, rest, hs⟩
      | none =>
          -- the closing delimiter would start with the character
          have hclosing : d.closing ++ rest = c :: s := htext
          cases hd : d.closing with
          | nil => exact absurd hd clear.closing_ne
          | cons a closing =>
              obtain ⟨hblank, hunmarked, hplain⟩ := clear.closing a (by rw [hd]; rfl)
              rw [hd] at hclosing
              rw [(List.cons.inj hclosing).1] at hblank hunmarked hplain
              rcases hc with hc | hc | hc
              · exact absurd hc (by simp [hblank])
              · exact absurd hc (by simp [hunmarked])
              · exact absurd hc hplain

include clear in
/-- **Nothing is found by giving back.** -/
theorem bodyEnd?_givesBack {left s : List Char} (h : d.GivesBack left s)
    (hnone : bodyEnd? d left = none) : bodyEnd? d s = none := by
  induction h with
  | none => exact hnone
  | @char c s hc _ ih =>
      have hend : tagEnd? d (c :: s) = none :=
        tagEnd?_eq_none_iff.mpr fun hcan =>
          neverEnds_of_bodyEnd? d s ih [] s .none (hcan.of_cons clear hc)
      obtain ⟨hquote, hslash⟩ := hc.plain clear
      rw [bodyEnd?_cons hend, stepTail_char hquote fun h => absurd h hslash, List.drop_zero, ih]
      rfl

include clear in
/-- **The greedy head is completed or none is.** -/
theorem findSome?_heads (s : List Char) :
    (heads d s).findSome? (·.complete? d) = (greedyHead d s).complete? d := by
  have hhead := head?_heads (d := d) s
  have hback := givesBack_heads (d := d) s
  cases hheads : heads d s with
  | nil => rw [hheads] at hhead; exact nomatch hhead
  | cons first others =>
      rw [hheads] at hhead hback
      rw [show first = greedyHead d s from Option.some.inj hhead, List.findSome?_cons]
      cases hfirst : (greedyHead d s).complete? d with
      | some span => rfl
      | none =>
          have hnone : bodyEnd? d (greedyHead d s).rest = none := Option.map_eq_none_iff.mp hfirst
          simp only
          rw [List.findSome?_eq_none_iff]
          intro h hh
          have hrest := bodyEnd?_givesBack clear (hback h (List.mem_cons_of_mem _ hh)) hnone
          exact Option.map_eq_none_iff.mpr hrest

end Head

/-! ## §2. Tags. -/

/-- Behind an opening delimiter that stands here, and the head of a tag, no end can be read. -/
def Unclosed (d : Delimiters) (s : List Char) : Prop :=
  ∀ after, s = d.opening ++ after → NeverEnds d (greedyHead d after).rest

/-- The end of a tag. -/
def TagSpan.stop (t : TagSpan) : TagEnd := ⟨t.tail, t.right⟩

/-- The text of a tag from its body on, and the text behind it. -/
def TagSpan.fromBody (d : Delimiters) (t : TagSpan) (rest : List Char) : List Char :=
  t.body ++ (t.stop.text d ++ rest)

/-- The text of a tag behind its opening delimiter, and the text behind it. -/
def TagSpan.fromHead (d : Delimiters) (t : TagSpan) (rest : List Char) : List Char :=
  t.left.toList ++ (t.lead ++ (t.mark.toList ++ (t.gap ++ t.fromBody d rest)))

/-- A tag in front of some text has the greedy head, and ends at the first boundary where it can. -/
structure TagSpan.ClosesFirst (d : Delimiters) (t : TagSpan) (rest : List Char) : Prop where
  /-- Its parts are what parts of a tag should be. -/
  wellFormed : t.WellFormed d
  /-- Before the body every part takes what it can. -/
  head : greedyHead d (t.fromHead d rest) = ⟨t.left, t.lead, t.mark, t.gap, t.fromBody d rest⟩
  /-- The body ends at the first boundary behind which the end of a tag can be read. -/
  body : EndsFirst d (t.fromBody d rest) t.body (t.stop.text d ++ rest)
  /-- A marker directly before the closing delimiter is no part of the body. -/
  unmarked : t.tail = [] → t.right = none → ∀ c ∈ t.body.getLast?, isMarker c = false

/-- A text falls into gaps, each with a tag behind it, and the text behind the last tag: every tag ends
at its first boundary, and an opening delimiter that stands in a gap or behind the last tag has none. -/
inductive CutFirst (d : Delimiters) :
    List Char → List (List Char × TagSpan) → List Char → Prop where
  /-- Behind the last tag. -/
  | trailing {gap : List Char} (hgap : ∀ s, s <:+ gap → s ≠ [] → Unclosed d s) :
      CutFirst d gap [] gap
  /-- A gap and a tag. -/
  | tag {gap rest : List Char} {span : TagSpan} {tags : List (List Char × TagSpan)}
      {trailing : List Char}
      (hgap : ∀ s, s <:+ gap → s ≠ [] → Unclosed d (s ++ (span.text d ++ rest)))
      (hspan : span.ClosesFirst d rest) (hrest : CutFirst d rest tags trailing) :
      CutFirst d (gap ++ (span.text d ++ rest)) ((gap, span) :: tags) trailing

section Tags

variable {d : Delimiters}

theorem TagSpan.text_append (t : TagSpan) (rest : List Char) :
    t.text d ++ rest = d.opening ++ t.fromHead d rest := by
  simp [TagSpan.text, TagSpan.fromHead, TagSpan.fromBody, TagSpan.stop, TagEnd.text]

variable (clear : d.Clear)

include clear in
theorem tagAt?_opening (after : List Char) :
    tagAt? d (d.opening ++ after) = (greedyHead d after).complete? d := by
  unfold tagAt?
  rw [dropStart?_append]
  exact findSome?_heads clear after

include clear in
/-- Where no tag is found, none is closed. -/
theorem unclosed_of_tagAt? {s : List Char} (h : tagAt? d s = none) : Unclosed d s := by
  rintro after rfl
  rw [tagAt?_opening clear] at h
  exact neverEnds_of_bodyEnd? d _ (Option.map_eq_none_iff.mp h)

include clear in
/-- **A tag that is found ends at its first boundary.** -/
theorem closesFirst_of_tagAt? {s : List Char} {span : TagSpan} (h : tagAt? d s = some span) :
    ∃ rest, s = span.text d ++ rest ∧ span.ClosesFirst d rest := by
  have hwf := (tagAt?_sound h).1
  obtain ⟨after, rfl⟩ : ∃ after, s = d.opening ++ after := by
    obtain ⟨_, rest, htext⟩ := tagAt?_sound h
    exact ⟨_, htext.trans (span.text_append rest)⟩
  rw [tagAt?_opening clear] at h
  obtain ⟨⟨body, stop⟩, hbody, hspan⟩ := Option.map_eq_some_iff.mp h
  obtain ⟨rest, hfirst⟩ := endsFirst_of_bodyEnd? d _ body stop hbody
  have hrest : (greedyHead d after).rest = span.fromBody d rest := by
    rw [hfirst.steps.text, ← hspan]
    rfl
  have hafter : after = span.fromHead d rest := by
    conv => lhs; rw [greedyHead_text (d := d) after, hrest]
    rw [← hspan]
    rfl
  refine ⟨rest, by rw [TagSpan.text_append, hafter], hwf, ?_, ?_, ?_⟩
  · rw [← hafter, ← hrest, ← hspan]
  · rw [← hrest, ← hspan]
    exact hfirst
  · rw [← hspan]
    intro htail hright
    have hclosing : stop.text d ++ rest = d.closing ++ rest := by
      show stop.blanks ++ stop.marker.toList ++ d.closing ++ rest = _
      rw [show stop.blanks = [] from htail, show stop.marker = none from hright]
      rfl
    rw [hclosing] at hfirst
    exact hfirst.unmarked

include clear in
/-- **Every tag that is cut out ends at its first boundary, and none is left out.** -/
theorem scanFrom_first (hopen : d.opening ≠ []) (gap s : List Char) :
    (∀ t, t <:+ gap.reverse → t ≠ [] → Unclosed d (t ++ s)) →
      CutFirst d (gap.reverse ++ s) (scanFrom d gap s).1 (scanFrom d gap s).2 := by
  fun_induction scanFrom d gap s with
  | case1 gap =>
      intro hgap
      rw [List.append_nil]
      refine .trailing fun t ht hne => ?_
      have := hgap t ht hne
      rwa [List.append_nil] at this
  | case2 gap c s span hspan more ih =>
      intro hgap
      obtain ⟨rest, htext, hcloses⟩ := closesFirst_of_tagAt? clear hspan
      rw [htext] at hgap ⊢
      refine .tag hgap hcloses ?_
      have ih := ih fun t ht hne => absurd (List.suffix_nil.mp ht) hne
      have hdrop := drop_text_length (span.text_ne_nil hopen) htext
      rw [List.reverse_nil, List.nil_append, hdrop] at ih
      show CutFirst d rest (scanFrom d [] _).1 (scanFrom d [] _).2
      rwa [hdrop]
  | case3 gap c s hnone ih =>
      -- the opening delimiters of the gap are those that were there, and perhaps one more
      intro hgap
      have hgap' : ∀ t, t <:+ (c :: gap).reverse → t ≠ [] → Unclosed d (t ++ s) := by
        intro t ht hne
        rw [List.reverse_cons] at ht
        obtain rfl | ⟨t', rfl, ht'⟩ := List.suffix_concat_iff.mp ht
        · exact absurd rfl hne
        · rw [List.append_assoc]
          by_cases hempty : t' = []
          · subst hempty
            exact unclosed_of_tagAt? clear hnone
          · exact hgap t' ht' hempty
      have ih := ih hgap'
      rwa [List.reverse_cons, List.append_assoc] at ih

end Tags

/-! ## §3. There is one such cut. -/

section Unique

variable {d : Delimiters} (clear : d.Clear)

include clear in
/-- A marker and the closing delimiter start with no blank, and are read in one way. -/
theorem marker_closing_inj {marker marker' : Option Char} {rest rest' : List Char}
    (h : marker.toList ++ (d.closing ++ rest) = marker'.toList ++ (d.closing ++ rest'))
    (hmarker : ∀ c ∈ marker, isMarker c = true) (hmarker' : ∀ c ∈ marker', isMarker c = true) :
    marker = marker' ∧ rest = rest' := by
  obtain ⟨c, closing, hd⟩ := List.exists_cons_of_ne_nil clear.closing_ne
  have hunmarked : isMarker c = false := (clear.closing c (by rw [hd]; rfl)).2.1
  cases marker with
  | none =>
      cases marker' with
      | none => exact ⟨rfl, List.append_cancel_left h⟩
      | some m =>
          -- the closing delimiter would start with the marker
          rw [hd] at h
          obtain rfl : c = m := (List.cons.inj h).1
          exact absurd (hmarker' c rfl) (by rw [hunmarked]; decide)
  | some m =>
      cases marker' with
      | none =>
          rw [hd] at h
          obtain rfl : m = c := (List.cons.inj h).1
          exact absurd (hmarker m rfl) (by rw [hunmarked]; decide)
      | some m' =>
          obtain ⟨rfl, hrest⟩ := List.cons.inj h
          exact ⟨rfl, List.append_cancel_left hrest⟩

include clear in
/-- The blanks of an end are all that stand there. -/
theorem TagEnd.WellFormed.blanks_eq {stop : TagEnd} (h : stop.WellFormed) (rest : List Char) :
    (stop.text d ++ rest).takeWhile isBlank = stop.blanks := by
  have htext : stop.text d ++ rest = stop.blanks ++ (stop.marker.toList ++ (d.closing ++ rest)) := by
    simp [TagEnd.text]
  have hsolid : (stop.marker.toList ++ (d.closing ++ rest)).takeWhile isBlank = [] := by
    obtain ⟨c, closing, hd⟩ := List.exists_cons_of_ne_nil clear.closing_ne
    cases hmarker : stop.marker with
    | none =>
        have hblank : isBlank c = false := (clear.closing c (by rw [hd]; rfl)).1
        rw [hd]
        exact List.takeWhile_cons_of_neg (by rw [hblank]; decide)
    | some m =>
        have hblank : isBlank m = false := by
          rcases isMarker_cases (h.marker m (by rw [hmarker]; rfl)) with rfl | rfl <;> decide
        exact List.takeWhile_cons_of_neg (by rw [hblank]; decide)
  rw [htext, List.takeWhile_append_of_pos (allBlank_iff.mp h.blanks), hsolid, List.append_nil]

include clear in
/-- The end of a tag is read in one way. -/
theorem TagEnd.text_inj {stop stop' : TagEnd} {rest rest' : List Char} (hwf : stop.WellFormed)
    (hwf' : stop'.WellFormed) (h : stop.text d ++ rest = stop'.text d ++ rest') :
    stop = stop' ∧ rest = rest' := by
  have hblanks : stop.blanks = stop'.blanks := by
    rw [← hwf.blanks_eq clear rest, h, hwf'.blanks_eq clear rest']
  obtain ⟨blanks, marker⟩ := stop
  obtain ⟨blanks', marker'⟩ := stop'
  obtain rfl : blanks = blanks' := hblanks
  simp only [TagEnd.text, List.append_assoc, List.append_cancel_left_eq] at h
  obtain ⟨rfl, hrest⟩ := marker_closing_inj clear h hwf.marker hwf'.marker
  exact ⟨rfl, hrest⟩

/-- The end of a well formed tag is well formed. -/
theorem TagSpan.WellFormed.stop {t : TagSpan} (h : t.WellFormed d) : t.stop.WellFormed :=
  ⟨h.tail, h.right⟩

/-- Where a tag ends, its opening delimiter is not left open. -/
theorem TagSpan.ClosesFirst.not_unclosed {t : TagSpan} {rest : List Char}
    (h : t.ClosesFirst d rest) : ¬ Unclosed d (t.text d ++ rest) := by
  intro hopen
  have hnever := hopen _ (t.text_append rest)
  rw [h.head] at hnever
  exact hnever _ _ h.body.steps h.body.here

include clear in
/-- The tag that starts at a place is one. -/
theorem TagSpan.ClosesFirst.unique {t t' : TagSpan} {rest rest' : List Char}
    (h : t.ClosesFirst d rest) (h' : t'.ClosesFirst d rest')
    (htext : t.text d ++ rest = t'.text d ++ rest') : t = t' ∧ rest = rest' := by
  rw [t.text_append, t'.text_append] at htext
  have hhead := congrArg (greedyHead d) (List.append_cancel_left htext)
  rw [h.head, h'.head] at hhead
  obtain ⟨hleft, hlead, hmark, hgap, hbody⟩ := TagHead.mk.inj hhead
  have hfirst := h'.body
  rw [← hbody] at hfirst
  obtain ⟨hsame, hstop⟩ := h.body.unique hfirst
  obtain ⟨hstop, hrest⟩ := TagEnd.text_inj clear h.wellFormed.stop h'.wellFormed.stop hstop
  obtain ⟨htail, hright⟩ := TagEnd.mk.inj hstop
  cases t
  cases t'
  simp only at hleft hlead hmark hgap hsame htail hright
  subst hleft hlead hmark hgap hsame htail hright
  exact ⟨rfl, hrest⟩

/-- A tag starts where the gap in front of it ends, and not in the gap before another tag. -/
theorem TagSpan.ClosesFirst.gap_prefix {t : TagSpan} {gap gap' rest s : List Char}
    (h : t.ClosesFirst d rest) (hgap : ∀ u, u <:+ gap' → u ≠ [] → Unclosed d (u ++ s))
    (htext : gap ++ (t.text d ++ rest) = gap' ++ s) : gap' <+: gap := by
  rcases List.append_eq_append_iff.mp htext with ⟨more, rfl, hmore⟩ | ⟨more, rfl, _⟩
  · by_cases hempty : more = []
    · simp [hempty]
    · exact absurd (hmore ▸ hgap more (List.suffix_append _ _) hempty) h.not_unclosed
  · exact List.prefix_append _ _

include clear in
/-- **A text is cut in one way only.** -/
theorem CutFirst.unique (hopen : d.opening ≠ []) {s : List Char}
    {tags : List (List Char × TagSpan)} {trailing : List Char} (h : CutFirst d s tags trailing) :
    ∀ {tags' : List (List Char × TagSpan)} {trailing' : List Char},
      CutFirst d s tags' trailing' → tags = tags' ∧ trailing = trailing' := by
  induction h with
  | @trailing gap hgap =>
      intro tags' trailing' h'
      cases h' with
      | trailing => exact ⟨rfl, rfl⟩
      | @tag gap' rest' span' _ _ _ hspan' _ =>
          have hne : span'.text d ++ rest' ≠ [] := by simp [span'.text_ne_nil hopen]
          exact absurd (hgap _ (List.suffix_append _ _) hne) hspan'.not_unclosed
  | @tag gap rest span tags trailing hgap hspan _ ih =>
      intro tags' trailing' h'
      generalize htext : gap ++ (span.text d ++ rest) = text at h'
      cases h' with
      | trailing hgap' =>
          have hne : span.text d ++ rest ≠ [] := by simp [span.text_ne_nil hopen]
          exact absurd (hgap' _ (htext ▸ List.suffix_append _ _) hne) hspan.not_unclosed
      | @tag gap' rest' span' tags' _ hgap' hspan' hrest' =>
          -- neither tag starts inside the gap before the other one
          have hsame : gap = gap' := (hspan'.gap_prefix hgap htext.symm).eq_of_length_le
            (hspan.gap_prefix hgap' htext).length_le
          subst hsame
          obtain ⟨rfl, rfl⟩ := hspan.unique clear hspan' (List.append_cancel_left htext)
          obtain ⟨rfl, rfl⟩ := ih hrest'
          exact ⟨rfl, rfl⟩

end Unique

/-! ## §4. THE THEOREM. -/

/-- **A TAG IS CLOSED AT THE FIRST PLACE WHERE IT CAN BE, AND NOWHERE ELSE**: for all accepted
settings whose closing delimiter begins with no blank, marker or prefix character and whose prefix
characters are no quotes and no slashes, and every source, the source consists in one way only of gaps
and tags where every tag ends at the first boundary between the steps of its body at which it can and
every opening delimiter that is left in a gap has no such boundary; and the nodes represent exactly
these gaps and tags. -/
theorem scan_closes_first (o : ScanOptions) (settings : ScanSettings)
    (accepted : o.check = .ok settings)
    (closing : ∀ c ∈ settings.delimiters.closing.head?,
      isBlank c = false ∧ isMarker c = false ∧ c ∉ settings.delimiters.marks)
    (marks : ∀ c ∈ settings.delimiters.marks, isQuote c = false ∧ c ≠ '/')
    (source : String) :
    ∃ (tags : List (List Char × TagSpan)) (trailing : List Char) (nodes : List Node),
      CutFirst settings.delimiters source.toList tags trailing
        ∧ (∀ tags' trailing', CutFirst settings.delimiters source.toList tags' trailing' →
            tags = tags' ∧ trailing = trailing')
        ∧ Represents settings [] .free tags trailing nodes
        ∧ ∀ j, ∃ j', (parse settings source).run.run j
            = (runNodePlugins settings.plugins nodes).run.run j' := by
  obtain ⟨hopening, hclosing⟩ := ScanOptions.check_delimiters accepted
  have hopen : settings.delimiters.opening ≠ [] := fun h => hopening (String.toList_eq_nil_iff.mp h)
  have clear : settings.delimiters.Clear :=
    ⟨fun h => hclosing (String.toList_eq_nil_iff.mp h), closing, marks⟩
  have hwf := (scanFrom_sound hopen [] source.toList).2
  -- before the first character no opening delimiter is left
  have hcut := scanFrom_first clear hopen [] source.toList
    fun t ht hne => absurd (List.suffix_nil.mp ht) hne
  exact ⟨_, _, nodesOf settings source.toList, hcut, fun _ _ => hcut.unique clear hopen,
    nodesFrom_represents settings _ [] .free _ hwf, parse_run settings source⟩

/-- A marker before a blank and one before the closing delimiter, a closing delimiter inside a quoted
run and one inside a comment, and an opening delimiter whose only closing one stands in a run. -/
theorem scan_closes_first_question_marks :
    let o : ScanOptions :=
      { tags := .list [.str "<?", .str "?>"], executeMark := .str "!", interpolateMark := .str "" }
    let settings : ScanSettings :=
      { opening := "<?", closing := "?>", executeMark := some '!', interpolateMark := none }
    let source := "it's <?- ! f('?>') - /* ?> */ --?> <? '?>' ?"
    o.check = .ok settings
      ∧ (∀ c ∈ settings.delimiters.closing.head?,
          isBlank c = false ∧ isMarker c = false ∧ c ∉ settings.delimiters.marks)
      ∧ (∀ c ∈ settings.delimiters.marks, isQuote c = false ∧ c ≠ '/')
      ∧ ∃ (tags : List (List Char × TagSpan)) (trailing : List Char) (nodes : List Node),
          CutFirst settings.delimiters source.toList tags trailing
            ∧ (∀ tags' trailing', CutFirst settings.delimiters source.toList tags' trailing' →
                tags = tags' ∧ trailing = trailing')
            ∧ Represents settings [] .free tags trailing nodes
            ∧ ∀ j, ∃ j', (parse settings source).run.run j
                = (runNodePlugins settings.plugins nodes).run.run j' := by
  intro o settings source
  have hclosing : settings.delimiters.closing = ['?', '>'] := by decide
  have hmarks : settings.delimiters.marks = ['!', '~'] := by decide
  have closing : ∀ c ∈ settings.delimiters.closing.head?,
      isBlank c = false ∧ isMarker c = false ∧ c ∉ settings.delimiters.marks := by
    rw [hclosing, hmarks]
    intro c hc
    obtain rfl : '?' = c := Option.some.inj hc
    exact ⟨by decide, by decide, by decide⟩
  have marks : ∀ c ∈ settings.delimiters.marks, isQuote c = false ∧ c ≠ '/' := by
    rw [hmarks, List.forall_mem_cons, List.forall_mem_singleton]
    decide
  exact ⟨rfl, closing, marks, scan_closes_first o settings rfl closing marks source⟩

end TagTemplate
