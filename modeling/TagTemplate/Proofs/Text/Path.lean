/-
  TagTemplate.Proofs.Text.Path
  ────────────────────────────────
  **PATHS AND THEIR PIECES.**

  A path is its pieces with slashes between them.  What joining, taking the
  directory and normalizing do is said once in terms of pieces; nothing
  beyond this module looks at the characters of a path.

    • `pieces_intercalate` — pieces joined by slashes are found again,
    • `directory_pieces` — the directory of a path, without its last piece,
    • `append_pieces` — a path below another,
    • `spelled_path` — a path spelled from its components.
-/
import TagTemplate.Proofs.Text.Pieces
import TagTemplate.Text.Path

namespace TagTemplate.Text.Path

/-! ## §1. Pieces. -/

theorem pieces_eq (p : String) : pieces p = (p.toList.splitOn '/').map String.ofList := by
  rw [pieces, splitOn_eq_splitOnP]
  rfl

theorem pieces_ne_nil (p : String) : pieces p ≠ [] := by
  rw [pieces_eq]
  simp [List.splitOn, List.splitOnP_ne_nil]

theorem slash_not_mem_pieces {p c : String} (h : c ∈ pieces p) : '/' ∉ c.toList := by
  rw [pieces_eq] at h
  obtain ⟨l, hl, rfl⟩ := List.mem_map.mp h
  rw [String.toList_ofList]
  intro hslash
  have := not_ends_of_mem_splitOnP p.toList l hl '/' hslash
  simp at this

/-- The pieces of two paths with a slash between them. -/
theorem pieces_append (a b : List Char) :
    pieces (String.ofList (a ++ '/' :: b))
      = pieces (String.ofList a) ++ pieces (String.ofList b) := by
  simp only [pieces_eq, String.toList_ofList, List.splitOn]
  rw [List.splitOnP_append_cons a b (by rfl), List.map_append]

theorem pieces_join (a b : String) : pieces (a ++ "/" ++ b) = pieces a ++ pieces b := by
  have h := pieces_append a.toList b.toList
  have htext : String.ofList (a.toList ++ '/' :: b.toList) = a ++ "/" ++ b :=
    String.toList_injective (by simp)
  rw [htext, String.ofList_toList, String.ofList_toList] at h
  exact h

/-- A path without slashes is one piece. -/
theorem pieces_single {p : String} (h : '/' ∉ p.toList) : pieces p = [p] := by
  have hnone : ∀ c ∈ p.toList, (c == '/') = false := by
    intro c hc
    rw [beq_eq_false_iff_ne]
    rintro rfl
    exact h hc
  rw [pieces_eq, List.splitOn, List.splitOnP_eq_singleton hnone, List.map_singleton,
    String.ofList_toList]

theorem pieces_slashes : ∀ k : Nat,
    pieces (String.ofList (List.replicate k '/')) = List.replicate (k + 1) ""
  | 0 => rfl
  | k + 1 => by
      have h := pieces_append [] (List.replicate k '/')
      rw [List.nil_append, pieces_slashes k] at h
      exact h

/-- Every slash behind a text is one more empty piece. -/
theorem pieces_slashes_end (s : List Char) (k : Nat) :
    pieces (String.ofList (s ++ List.replicate k '/'))
      = pieces (String.ofList s) ++ List.replicate k "" := by
  cases k with
  | zero => simp
  | succ k => rw [List.replicate_succ, pieces_append, pieces_slashes]

/-- **Pieces joined by slashes are found again.** -/
theorem pieces_intercalate {parts : List String} (hne : parts ≠ [])
    (h : ∀ c ∈ parts, '/' ∉ c.toList) : pieces ("/".intercalate parts) = parts := by
  have hsplit : (['/'].intercalate (parts.map String.toList)).splitOn '/'
      = parts.map String.toList := by
    refine List.splitOn_intercalate '/' (fun l hl => ?_) (by simpa using hne)
    obtain ⟨c, hc, rfl⟩ := List.mem_map.mp hl
    exact h c hc
  rw [pieces_eq, String.toList_intercalate]
  show ((['/'].intercalate (parts.map String.toList)).splitOn '/').map String.ofList = parts
  rw [hsplit, List.map_map]
  exact (List.map_congr_left fun c _ => String.ofList_toList).trans (List.map_id parts)

/-- A path is its pieces with slashes between them. -/
theorem intercalate_pieces (p : String) : "/".intercalate (pieces p) = p := by
  refine String.toList_injective ?_
  rw [pieces_eq, String.toList_intercalate, List.map_map]
  have hid : (String.toList ∘ String.ofList) = id := funext fun _ => String.toList_ofList
  rw [hid, List.map_id]
  exact List.intercalate_splitOn '/'

/-! ## §2. Paths that start at the root. -/

theorem isAbsolute_iff {p : String} : isAbsolute p = true ↔ ∃ rest, p.toList = '/' :: rest := by
  rw [isAbsolute, String.startsWith_string_iff]
  exact ⟨fun ⟨rest, h⟩ => ⟨rest, h.symm⟩, fun ⟨rest, h⟩ => ⟨rest, h.symm⟩⟩

/-- An absolute path is one that starts with an empty piece and has more. -/
theorem isAbsolute_iff_pieces {p : String} :
    isAbsolute p = true ↔ ∃ rest, rest ≠ [] ∧ pieces p = "" :: rest := by
  rw [isAbsolute_iff]
  constructor
  · rintro ⟨rest, h⟩
    refine ⟨pieces (String.ofList rest), pieces_ne_nil _, ?_⟩
    have hpieces := pieces_append [] rest
    rw [List.nil_append, ← h, String.ofList_toList] at hpieces
    exact hpieces
  · rintro ⟨rest, hne, h⟩
    obtain ⟨c, more, rfl⟩ := List.exists_cons_of_ne_nil hne
    refine ⟨("/".intercalate (c :: more)).toList, ?_⟩
    rw [← intercalate_pieces p, h]
    simp

/-- A path below nothing starts with a component, unless it is empty. -/
theorem exists_pieces {p : String} (hne : p ≠ "") (h : isAbsolute p = false) :
    ∃ c rest, pieces p = c :: rest ∧ c ≠ "" := by
  obtain ⟨c, rest, hpieces⟩ := List.exists_cons_of_ne_nil (pieces_ne_nil p)
  refine ⟨c, rest, hpieces, ?_⟩
  rintro rfl
  cases rest with
  | nil =>
      refine hne ?_
      rw [← intercalate_pieces p, hpieces]
      rfl
  | cons d rest =>
      rw [isAbsolute_iff_pieces.mpr ⟨_, List.cons_ne_nil d rest, hpieces⟩] at h
      cases h

theorem isAbsolute_eq_false_of_pieces {p c : String} {rest : List String}
    (h : pieces p = c :: rest) (hc : c ≠ "") : isAbsolute p = false := by
  refine Bool.eq_false_iff.mpr fun habsolute => hc ?_
  obtain ⟨more, _, hmore⟩ := isAbsolute_iff_pieces.mp habsolute
  exact (List.cons.inj (h.symm.trans hmore)).1

theorem rootOf_eq_empty {p : String} (h : isAbsolute p = false) : rootOf p = "" := by
  have hno : ∀ start : String, "/".toList <+: start.toList → p.startsWith start = false := by
    intro start hstart
    refine Bool.eq_false_iff.mpr fun hp => ?_
    rw [isAbsolute, Bool.eq_false_iff, ne_eq, String.startsWith_string_iff] at h
    exact h (hstart.trans (String.startsWith_string_iff.mp hp))
  unfold rootOf
  rw [hno "///" (by decide), hno "//" (by decide), hno "/" (by decide)]
  rfl

/-! ## §3. Directories. -/

/-- A text without the slashes that end it. -/
theorem exists_without_slashes (s : List Char) : ∃ k, s = (s.reverse.dropWhile (· == '/')).reverse
    ++ List.replicate k '/' := by
  have hcut : s.reverse.takeWhile (· == '/') ++ s.reverse.dropWhile (· == '/') = s.reverse :=
    List.takeWhile_append_dropWhile
  have hslashes : s.reverse.takeWhile (· == '/')
      = List.replicate (s.reverse.takeWhile (· == '/')).length '/' := by
    refine List.eq_replicate_iff.mpr ⟨rfl, fun c hc => ?_⟩
    simpa using List.all_eq_true.mp List.all_takeWhile c hc
  refine ⟨(s.reverse.takeWhile (· == '/')).length, ?_⟩
  calc s = (s.reverse.takeWhile (· == '/') ++ s.reverse.dropWhile (· == '/')).reverse := by
        rw [hcut, List.reverse_reverse]
    _ = _ := by
        rw [List.reverse_append, hslashes, List.reverse_replicate, List.length_replicate]

theorem directory_of_not_mem {p : String} (h : '/' ∉ p.toList) : directory p = "" := by
  have hhead : p.toList.reverse.dropWhile (· != '/') = [] := by
    have hall : ∀ c ∈ p.toList.reverse, (c != '/') = true := by
      intro c hc
      rw [bne_iff_ne]
      rintro rfl
      exact h (List.mem_reverse.mp hc)
    rw [← List.append_nil p.toList.reverse, List.dropWhile_append_of_pos hall]
    rfl
  unfold directory
  rw [hhead]
  rfl

/-- A path with slashes, cut at the last one and at those next to it. -/
theorem directory_cut {p : String} (h : isAbsolute p = false) (hslash : '/' ∈ p.toList) :
    ∃ k last, p.toList = (directory p).toList ++ List.replicate k '/' ++ '/' :: last
      ∧ '/' ∉ last ∧ directory p ≠ "" ∧ (directory p).toList.getLast? ≠ some '/' := by
  rcases exists_first (· == '/') p.toList.reverse with hnone | ⟨f, c, a, hcut, hf, hc⟩
  · have := hnone '/' (List.mem_reverse.mpr hslash)
    simp at this
  · obtain rfl := beq_iff_eq.mp hc
    -- the text before the last slash, that slash, and the last piece
    have hp : p.toList = a.reverse ++ '/' :: f.reverse := by
      rw [← List.reverse_reverse p.toList, hcut]
      simp
    have hstart : ∃ b d, a.reverse = b :: d ∧ b ≠ '/' := by
      cases hba : a.reverse with
      | nil =>
          rw [hba] at hp
          rw [isAbsolute_iff.mpr ⟨_, hp⟩] at h
          cases h
      | cons b d =>
          refine ⟨b, d, rfl, ?_⟩
          rintro rfl
          rw [hba] at hp
          rw [isAbsolute_iff.mpr ⟨_, hp⟩] at h
          cases h
    obtain ⟨b, d, hba, hb⟩ := hstart
    have hdirectory : (directory p).toList = (a.dropWhile (· == '/')).reverse := by
      have hhead : p.toList.reverse.dropWhile (· != '/') = '/' :: a := by
        rw [hcut, List.dropWhile_append_of_pos fun d hd => by simpa [bne] using hf d hd]
        rfl
      have hsome : (a.reverse ++ ['/']).all (· == '/') = false := by
        rw [hba]
        simp [hb]
      unfold directory
      rw [hhead]
      dsimp only
      rw [List.reverse_cons, hsome, List.reverse_concat, List.reverse_reverse]
      exact String.toList_ofList
    obtain ⟨k, hk⟩ := exists_without_slashes a.reverse
    rw [List.reverse_reverse, ← hdirectory] at hk
    refine ⟨k, f.reverse, by rw [hp, ← hk], fun hmem => ?_, fun hempty => ?_, fun hlast => ?_⟩
    · simpa using hf '/' (List.mem_reverse.mp hmem)
    · rw [hempty, hba] at hk
      cases k with
      | zero => cases hk
      | succ k => exact hb (List.cons.inj hk).1
    · rw [hdirectory, List.getLast?_reverse] at hlast
      have hnot := List.head?_dropWhile_not (· == '/') a
      rw [hlast] at hnot
      cases hnot

/-- **The directory of a path** is what stands before its last piece, without the empty pieces
there; a path of one piece has none. -/
theorem directory_pieces {p : String} (h : isAbsolute p = false) :
    (pieces p = [p] ∧ directory p = "")
      ∨ ∃ k f, pieces p = pieces (directory p) ++ List.replicate k "" ++ [f]
        ∧ directory p ≠ "" ∧ (directory p).toList.getLast? ≠ some '/' := by
  by_cases hslash : '/' ∈ p.toList
  · obtain ⟨k, last, hp, hlast, hends⟩ := directory_cut h hslash
    refine .inr ⟨k, String.ofList last, ?_, hends⟩
    have hpieces := pieces_append ((directory p).toList ++ List.replicate k '/') last
    rw [← hp, pieces_slashes_end, String.ofList_toList, String.ofList_toList] at hpieces
    rw [hpieces, pieces_single (p := String.ofList last) (by rwa [String.toList_ofList])]
  · exact .inl ⟨pieces_single hslash, directory_of_not_mem hslash⟩

/-! ## §4. Paths below others. -/

theorem endsWith_slash_iff {p : String} : p.endsWith "/" = true ↔ p.toList.getLast? = some '/' := by
  have h : p.endsWith "/" = true ↔ "/".toList <:+ p.toList := by
    rw [← String.endsWith_toSlice, String.Slice.endsWith_string_iff, String.copy_toSlice]
  rw [h]
  constructor
  · rintro ⟨front, hfront⟩
    exact List.getLast?_eq_some_iff.mpr ⟨front, hfront.symm⟩
  · intro hlast
    obtain ⟨front, hfront⟩ := List.getLast?_eq_some_iff.mp hlast
    exact ⟨front, hfront.symm⟩

/-- **The pieces of a path below another** are those of both. -/
theorem append_pieces {base p : String} (hp : isAbsolute p = false)
    (hbase : base ≠ "") (hlast : base.toList.getLast? ≠ some '/') :
    pieces (append base p) = pieces base ++ pieces p := by
  have hends : base.endsWith "/" = false :=
    Bool.eq_false_iff.mpr fun h => hlast (endsWith_slash_iff.mp h)
  have hempty : base.isEmpty = false := by
    rw [Bool.eq_false_iff, ne_eq, String.isEmpty_iff]
    exact hbase
  unfold append
  rw [isAbsolute] at hp
  rw [hp, hends, hempty]
  exact pieces_join base p

theorem append_nothing {p : String} : append "" p = p := by
  unfold append
  split <;> simp

/-! ## §5. Components. -/

theorem mem_components_iff {name c : String} :
    c ∈ components name ↔ c ∈ pieces name ∧ c ≠ "" ∧ c ≠ "." := by
  simp [components, List.mem_filter]

theorem up_mem_components_iff {name : String} : ".." ∈ components name ↔ ".." ∈ pieces name := by
  rw [mem_components_iff]
  exact and_iff_left (by decide)

theorem components_slash (p : String) : components ("/" ++ p) = components p := by
  have h := pieces_append [] p.toList
  rw [List.nil_append, String.ofList_toList] at h
  have htext : String.ofList ('/' :: p.toList) = "/" ++ p := String.toList_injective (by simp)
  rw [htext] at h
  unfold components
  rw [h]
  rfl

theorem components_intercalate {parts : List String}
    (hparts : ∀ c ∈ parts, c ≠ "" ∧ c ≠ "." ∧ '/' ∉ c.toList) :
    components ("/".intercalate parts) = parts := by
  by_cases hnil : parts = []
  · rw [hnil]
    rfl
  · rw [components, pieces_intercalate hnil fun c hc => (hparts c hc).2.2]
    refine List.filter_eq_self.mpr fun c hc => ?_
    simp [(hparts c hc).1, (hparts c hc).2.1]

theorem isAbsolute_slash (p : String) : isAbsolute ("/" ++ p) = true :=
  isAbsolute_iff.mpr ⟨p.toList, by simp⟩

/-- **A path is read as it was spelled.** -/
theorem spelled_path {root : String} (hroot : root = "" ∨ root = "/" ∨ root = "//")
    {parts : List String} (hparts : ∀ c ∈ parts, c ≠ "" ∧ c ≠ "." ∧ '/' ∉ c.toList) :
    spelled root parts ≠ "" ∧ isAbsolute (spelled root parts) = (root != "")
      ∧ components (spelled root parts) = parts := by
  by_cases hempty : root = "" ∧ parts = []
  · rw [hempty.1, hempty.2]
    decide +kernel
  · have hcomponents := components_intercalate hparts
    have hspelled : spelled root parts = root ++ "/".intercalate parts := by
      refine if_neg fun htext => hempty ?_
      obtain ⟨h₁, h₂⟩ := String.append_eq_empty_iff.mp (String.isEmpty_iff.mp htext)
      rw [h₂] at hcomponents
      exact ⟨h₁, hcomponents.symm⟩
    rw [hspelled]
    rcases hroot with rfl | rfl | rfl
    · rw [String.empty_append]
      obtain ⟨c, rest, rfl⟩ := List.exists_cons_of_ne_nil fun h => hempty ⟨rfl, h⟩
      have hpieces := pieces_intercalate (List.cons_ne_nil c rest) fun c hc => (hparts c hc).2.2
      have hc := (hparts c List.mem_cons_self).1
      refine ⟨fun htext => ?_, isAbsolute_eq_false_of_pieces hpieces hc, hcomponents⟩
      rw [htext] at hcomponents
      cases hcomponents
    · refine ⟨by simp, isAbsolute_slash _, ?_⟩
      rw [components_slash, hcomponents]
    · have htwo : "//" ++ "/".intercalate parts = "/" ++ ("/" ++ "/".intercalate parts) := by
        rw [← String.append_assoc]
        rfl
      rw [htwo]
      refine ⟨by simp, isAbsolute_slash _, ?_⟩
      rw [components_slash, components_slash, hcomponents]

end TagTemplate.Text.Path
