/-
  TagTemplate.Proofs.Code.MovedMargins
  ────────────────────────────────
  **IS A BODY INDENTED ALIKE WHEREVER IT STANDS?**

  The code of a body is read twice: by itself, and with every line four spaces
  to the right, inside of its function.  Behind spaces alone a line is four
  columns further to the right, in both measures of the lexer, and so are all
  lines around it.  Each line then opens and closes the same blocks, and is
  refused in both places or in none.  Behind a tab a line moves by eight
  columns or not at all:

      margin           by itself        four to the right
      tab              8                8
      4 spaces, tab    8                16

    • `columnAfter_moved_iff` — a line moves by four columns exactly if there is
      no tab before it,
    • `place_moved` — one line among the open indentations,
    • `placeAll_moved`, `placeAll_body` — line after line.
-/
import TagTemplate.Proofs.Code.Columns

namespace TagTemplate

open Text

/-! ## §1. The column of a moved line. -/

/-- Eight columns further to the right, all columns behind are eight further to the right. -/
theorem columnAfter_eight (blanks : List Char) (col : Nat) :
    columnAfter (col + 8) blanks = columnAfter col blanks + 8 := by
  induction blanks generalizing col with
  | nil => rfl
  | cons b blanks ih =>
      rw [columnAfter, columnAfter]
      split
      · rw [show ((col + 8) / 8 + 1) * 8 = (col / 8 + 1) * 8 + 8 by omega, ih]
      · rw [show col + 8 + 1 = col + 1 + 8 by omega, ih]

/-- Behind spaces alone a line is as many columns further to the right as it is moved. -/
theorem columnAfter_moved {blanks : List Char} (h : '\t' ∉ blanks) (k col : Nat) :
    columnAfter (col + k) blanks = columnAfter col blanks + k := by
  induction blanks generalizing col with
  | nil => rfl
  | cons b blanks ih =>
      have hb : ¬ (b == '\t') = true := fun heq => h (beq_iff_eq.mp heq ▸ List.mem_cons_self)
      rw [columnAfter, columnAfter, if_neg hb, if_neg hb,
        show col + k + 1 = col + 1 + k by omega,
        ih fun hmem => h (List.mem_cons_of_mem _ hmem)]

/-- Behind a tab it is in the same column or eight columns further to the right. -/
theorem columnAfter_moved_tab {blanks : List Char} (h : '\t' ∈ blanks) (col : Nat) :
    columnAfter (col + 4) blanks = columnAfter col blanks
      ∨ columnAfter (col + 4) blanks = columnAfter col blanks + 8 := by
  induction blanks generalizing col with
  | nil => cases h
  | cons b blanks ih =>
      rw [columnAfter, columnAfter]
      by_cases hb : (b == '\t') = true
      · rw [if_pos hb, if_pos hb]
        by_cases hnear : (col + 4) / 8 = col / 8
        · exact .inl (by rw [hnear])
        · refine .inr ?_
          rw [show ((col + 4) / 8 + 1) * 8 = (col / 8 + 1) * 8 + 8 by omega, columnAfter_eight]
      · rw [if_neg hb, if_neg hb, show col + 4 + 1 = col + 1 + 4 by omega]
        refine ih ?_ (col + 1)
        rcases List.mem_cons.mp h with rfl | h
        · exact absurd rfl hb
        · exact h

/-- **A line moves by four columns exactly if there is no tab before it.** -/
theorem columnAfter_moved_iff (blanks : List Char) (col : Nat) :
    columnAfter (col + 4) blanks = columnAfter col blanks + 4 ↔ '\t' ∉ blanks := by
  constructor
  · intro h htab
    rcases columnAfter_moved_tab htab col with heq | heq <;> omega
  · exact fun h => columnAfter_moved h 4 col

namespace Script.Lexer

/-! ## §2. One line. -/

/-- A margin that is further to the right. -/
def Margin.right (k : Nat) (m : Margin) : Margin := { m with wide := m.wide + k, narrow := m.narrow + k }

/-- Without tabs the margin of a moved line is the moved margin. -/
theorem marginOf_moved {blanks : List Char} (h : '\t' ∉ blanks) (k : Nat) :
    marginOf k blanks = (marginOf 0 blanks).right k := by
  unfold marginOf Margin.right
  have hwide := columnAfter_moved h k 0
  rw [Nat.zero_add] at hwide
  rw [hwide, Nat.zero_add, Nat.add_comm k]

/-- An open indentation that is further to the right. -/
def further (k : Nat) (i : Nat × Nat) : Nat × Nat := (i.1 + k, i.2 + k)

/-- A lexer has the open indentations of another one, further to the right, inside of one more. -/
structure Inside (k : Nat) (l l' : Lexer) : Prop where
  /-- The open indentations. -/
  indents : l'.indents = l.indents.map (further k) ++ [(k, k)]
  /-- The indentation tokens that are due. -/
  queue : l'.queue = l.queue

/-- Two lexers are refused, or one is inside of the other. -/
inductive Alike (k : Nat) : Except Ending Lexer → Except Ending Lexer → Prop
  /-- Both go on. -/
  | ok {l l' : Lexer} (h : Inside k l l') : Alike k (.ok l) (.ok l')
  /-- Both are refused. -/
  | error (e e' : Ending) : Alike k (.error e) (.error e')

theorem Alike.ite {k : Nat} {c : Prop} [Decidable c] {x y x' y' : Except Ending Lexer}
    (hx : Alike k x x') (hy : Alike k y y') :
    Alike k (if c then x else y) (if c then x' else y') := by
  split
  · exact hx
  · exact hy

theorem Alike.bind {k : Nat} {x x' : Except Ending Lexer} {f f' : Lexer → Except Ending Lexer}
    (hx : Alike k x x') (hf : ∀ l l', x = .ok l → Inside k l l' → Alike k (f l) (f' l')) :
    Alike k (x >>= f) (x' >>= f') := by
  cases hx with
  | ok h => exact hf _ _ rfl h
  | error e e' => exact .error e e'

/-- Of two lexers that are alike, both go on or none does. -/
theorem Alike.iff {k : Nat} {x x' : Except Ending Lexer} (h : Alike k x x') :
    (∃ next, x = .ok next) ↔ ∃ next, x' = .ok next := by
  cases h with
  | ok h => exact ⟨fun _ => ⟨_, rfl⟩, fun _ => ⟨_, rfl⟩⟩
  | error e e' => exact ⟨nofun, nofun⟩

theorem headD_further (k : Nat) (is : List (Nat × Nat)) :
    (is.map (further k) ++ [(k, k)]).headD (0, 0) = further k (is.headD (0, 0)) := by
  cases is with
  | nil =>
      show (k, k) = (0 + k, 0 + k)
      rw [Nat.zero_add]
  | cons i is => rfl

theorem leave_further (k wide : Nat) (is : List (Nat × Nat)) :
    leave (wide + k) (is.map (further k) ++ [(k, k)])
      = ((leave wide is).1.map (further k) ++ [(k, k)], (leave wide is).2) := by
  induction is with
  | nil =>
      have hnot : ¬ wide + k < k := by omega
      rw [List.map_nil, List.nil_append, leave, if_neg hnot]
      rfl
  | cons i is ih =>
      obtain ⟨w, n⟩ := i
      have hiff : wide + k < w + k ↔ wide < w := by omega
      rw [List.map_cons, List.cons_append, further, leave, leave]
      simp only [hiff]
      split
      · rw [ih]
      · rfl

/-- **A line finds its place further to the right exactly as it does at the margin.** -/
theorem place_moved {k : Nat} {l l' : Lexer} (h : Inside k l l') {m : Margin} (hfixed : m.fixed = 0)
    (hroom : l.indents.length + 2 < maxIndents) : Alike k (place l m) (place l' (m.right k)) := by
  obtain ⟨wide, narrow, fixed⟩ := m
  obtain rfl : fixed = 0 := hfixed
  -- both measures of both lines are compared with those of the same indentation
  have hsame : ∀ a b : Nat, (a + k == b + k) = (a == b) := fun a b => by simp [Bool.beq_eq_decide_eq]
  have hwider : ∀ a b : Nat, a + k > b + k ↔ a > b := fun a b => by omega
  have hnarrower : ∀ a b : Nat, a + k ≤ b + k ↔ a ≤ b := fun a b => by omega
  have hlength : l'.indents.length = l.indents.length + 1 := by
    rw [h.indents, List.length_append, List.length_map, List.length_singleton]
  have hfull : ¬ l.indents.length + 1 ≥ maxIndents := by omega
  have hfull' : ¬ l'.indents.length + 1 ≥ maxIndents := by omega
  unfold place Margin.right
  simp only [beq_self_eq_true, if_true, if_neg hfull, if_neg hfull']
  rw [h.indents, headD_further, leave_further]
  simp only [further, bne, hsame, hwider, hnarrower, headD_further]
  refine .ite (.ite (.ok h) (.error _ _)) (.ite ?deeper ?shallower)
  case deeper => exact .ite (.error _ _) (.ok ⟨rfl, rfl⟩)
  case shallower => exact .ite (.error _ _) (.ite (.error _ _) (.ok ⟨rfl, rfl⟩))

/-! ## §3. Line after line. -/

/-- The lexer after lines with some margins. -/
def placeAll (l : Lexer) (ms : List Margin) : Except Ending Lexer := ms.foldlM place l

/-- Blocks may still be opened at each of the lines. -/
def HasRoom (l : Lexer) (ms : List Margin) : Prop :=
  ∀ before, before <+: ms → ∀ next, placeAll l before = .ok next →
    next.indents.length + 2 < maxIndents

/-- **LINES FIND THEIR PLACES FURTHER TO THE RIGHT EXACTLY AS THEY DO AT THE MARGIN**, as long as all of
them are moved alike. -/
theorem placeAll_moved {k : Nat} (ms : List Margin) {l l' : Lexer} (h : Inside k l l')
    (hfixed : ∀ m ∈ ms, m.fixed = 0) (hroom : HasRoom l ms) :
    Alike k (placeAll l ms) (placeAll l' (ms.map (Margin.right k))) := by
  induction ms generalizing l l' with
  | nil => exact .ok h
  | cons m ms ih =>
      obtain ⟨hm, hms⟩ := List.forall_mem_cons.mp hfixed
      have hfirst : l.indents.length + 2 < maxIndents := hroom [] List.nil_prefix l rfl
      unfold placeAll
      rw [List.map_cons, List.foldlM_cons, List.foldlM_cons]
      refine (place_moved h hm hfirst).bind fun next next' hnext hinside => ih hinside hms ?_
      intro before hbefore last hlast
      refine hroom (m :: before) ((List.prefix_cons_inj m).mpr hbefore) last ?_
      unfold placeAll
      rw [List.foldlM_cons, hnext]
      exact hlast

/-- **Without tabs a body is indented as it should be in its function exactly if it is by itself.** -/
theorem placeAll_body {lines : List (List Char)} (htabs : ∀ blanks ∈ lines, '\t' ∉ blanks)
    {l l' : Lexer} (h : Inside 4 l l') (hroom : HasRoom l (lines.map (marginOf 0))) :
    (∃ next, placeAll l (lines.map (marginOf 0)) = .ok next)
      ↔ ∃ next, placeAll l' (lines.map (marginOf 4)) = .ok next := by
  have hmoved : lines.map (marginOf 4) = (lines.map (marginOf 0)).map (Margin.right 4) := by
    rw [List.map_map]
    exact List.map_congr_left fun blanks hb => marginOf_moved (htabs blanks hb) 4
  rw [hmoved]
  exact (placeAll_moved _ h (List.forall_mem_map.mpr fun _ _ => rfl) hroom).iff

/-- With tabs it may be refused by itself and taken in its function. -/
example :
    let lines := [[], ['\t'], [' ', ' ', ' ', ' ', '\t']]
    (placeAll { rest := [] } (lines.map (marginOf 0))).isOk = false
      ∧ (placeAll { rest := [], indents := [(4, 4)] } (lines.map (marginOf 4))).isOk = true := by
  decide

end Script.Lexer

end TagTemplate
