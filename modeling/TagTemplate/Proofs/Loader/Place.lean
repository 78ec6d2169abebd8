/-
  TagTemplate.Proofs.Loader.Place
  ────────────────────────────────
  **WHERE RELATIVE NAMES LEAD.**

  A name is a walk: from the directory of the template that asks, one
  component after the other.  Where the walk ends is a place, some steps up
  and then names going down, and a relative name is resolved to the one
  spelling of the place it leads to.

    • `walk_isPlace` — every walk ends at a place,
    • `normalize_eq` — normalizing a path is walking along it,
    • `resolveName_canonical` — relative names are resolved by walking.
-/
import TagTemplate.Loader
import TagTemplate.Proofs.Text.Path

namespace TagTemplate

open Text

namespace Text.Path

/-! ## §1. Walks. -/

/-- Go along one component: a step up leaves the last component, unless there is none that could be
left. -/
def follow (here : List String) (c : String) : List String :=
  if c = "" ∨ c = "." then here
  else if c = ".." then
    match here.getLast? with
    | none => [".."]
    | some last => if last = ".." then here ++ [".."] else here.dropLast
  else here ++ [c]

/-- Go along several components. -/
def walk (here components : List String) : List String := components.foldl follow here

/-- The name of a file or directory. -/
structure IsName (c : String) : Prop where
  /-- There is something in it. -/
  ne_empty : c ≠ ""
  /-- It does not stand for the directory it is in. -/
  ne_here : c ≠ "."
  /-- It is no step up. -/
  ne_up : c ≠ ".."
  /-- It is one piece. -/
  single : '/' ∉ c.toList

/-- Some steps up, and then names. -/
def IsPlace (place : List String) : Prop :=
  ∃ up names, place = List.replicate up ".." ++ names ∧ ∀ c ∈ names, IsName c

/-- How a place is spelled. -/
def spelling (place : List String) : String :=
  if place = [] then "." else "/".intercalate place

theorem follow_blank {c : String} (h : c = "" ∨ c = ".") (here : List String) :
    follow here c = here := if_pos h

theorem follow_name {c : String} (h : IsName c) (here : List String) :
    follow here c = here ++ [c] := by
  rw [follow, if_neg (not_or.mpr ⟨h.ne_empty, h.ne_here⟩), if_neg h.ne_up]

theorem follow_back {c : String} (h : c ≠ "..") (here : List String) :
    follow (here ++ [c]) ".." = here := by
  simp [follow, h]

theorem follow_up (up : Nat) :
    follow (List.replicate up "..") ".." = List.replicate (up + 1) ".." := by
  cases up with
  | zero => rfl
  | succ up => simp [follow, List.getLast?_replicate, ← List.replicate_succ']

theorem walk_append (here a b : List String) : walk here (a ++ b) = walk (walk here a) b :=
  List.foldl_append

theorem walk_empty (here : List String) (k : Nat) : walk here (List.replicate k "") = here := by
  induction k with
  | zero => rfl
  | succ k ih =>
      rw [List.replicate_succ]
      exact (congrArg (walk · _) (follow_blank (.inl rfl) here)).trans ih

theorem walk_names {names : List String} (h : ∀ c ∈ names, IsName c) (here : List String) :
    walk here names = here ++ names := by
  induction names generalizing here with
  | nil => exact (List.append_nil here).symm
  | cons c names ih =>
      rw [List.forall_mem_cons] at h
      show walk (follow here c) names = _
      rw [follow_name h.1, ih h.2, List.append_assoc]
      rfl

/-! ## §2. Places. -/

/-- A step from a place leads to a place. -/
theorem follow_isPlace {here : List String} (h : IsPlace here) {c : String}
    (hc : '/' ∉ c.toList) : IsPlace (follow here c) := by
  obtain ⟨up, names, rfl, hnames⟩ := h
  by_cases hblank : c = "" ∨ c = "."
  · rw [follow_blank hblank]
    exact ⟨up, names, rfl, hnames⟩
  · by_cases hup : c = ".."
    · subst hup
      rcases List.eq_nil_or_concat names with rfl | ⟨names, last, rfl⟩
      · rw [List.append_nil, follow_up]
        exact ⟨up + 1, [], (List.append_nil _).symm, by simp⟩
      · rw [List.concat_eq_append, List.forall_mem_append] at hnames
        rw [List.concat_eq_append, ← List.append_assoc,
          follow_back (hnames.2 last List.mem_cons_self).ne_up]
        exact ⟨up, names, rfl, hnames.1⟩
    · have hname : IsName c := ⟨fun h => hblank (.inl h), fun h => hblank (.inr h), hup, hc⟩
      rw [follow_name hname, List.append_assoc]
      refine ⟨up, names ++ [c], rfl, List.forall_mem_append.mpr ⟨hnames, ?_⟩⟩
      exact fun d hd => List.mem_singleton.mp hd ▸ hname

/-- **Every walk from a place ends at a place.** -/
theorem walk_isPlace {here : List String} (h : IsPlace here) {components : List String}
    (hpieces : ∀ c ∈ components, '/' ∉ c.toList) : IsPlace (walk here components) := by
  induction components generalizing here with
  | nil => exact h
  | cons c components ih =>
      rw [List.forall_mem_cons] at hpieces
      exact ih (follow_isPlace h hpieces.1) hpieces.2

theorem isPlace_nil : IsPlace [] := ⟨0, [], rfl, by simp⟩

/-- A walk along the components of a place ends there. -/
theorem IsPlace.walk_self {place : List String} (h : IsPlace place) : walk [] place = place := by
  obtain ⟨up, names, rfl, hnames⟩ := h
  have hup : walk [] (List.replicate up "..") = List.replicate up ".." := by
    induction up with
    | zero => rfl
    | succ up ih =>
        rw [List.replicate_succ', walk_append, ih]
        exact (follow_up up).trans List.replicate_succ'
  rw [walk_append, hup, walk_names hnames]

/-- The components of a place. -/
theorem IsPlace.component {place : List String} (h : IsPlace place) :
    ∀ c ∈ place, c ≠ "" ∧ c ≠ "." ∧ '/' ∉ c.toList := by
  obtain ⟨up, names, rfl, hnames⟩ := h
  refine List.forall_mem_append.mpr ⟨fun c hc => ?_, fun c hc => ?_⟩
  · rw [List.eq_of_mem_replicate hc]
    decide
  · exact ⟨(hnames c hc).ne_empty, (hnames c hc).ne_here, (hnames c hc).single⟩

theorem IsPlace.ne_here {place : List String} (h : IsPlace place) : place ≠ ["."] := by
  rintro rfl
  exact (h.component "." List.mem_cons_self).2.1 rfl

theorem IsPlace.intercalate_ne_empty {place : List String} (h : IsPlace place) (hne : place ≠ []) :
    "/".intercalate place ≠ "" := by
  intro hempty
  have hpieces := pieces_intercalate hne fun c hc => (h.component c hc).2.2
  rw [hempty] at hpieces
  refine (h.component "" ?_).1 rfl
  rw [← hpieces]
  decide

/-- The pieces of the spelling of a place. -/
theorem IsPlace.pieces_spelling {place : List String} (h : IsPlace place) :
    pieces (spelling place) = if place = [] then ["."] else place := by
  unfold spelling
  split
  · exact pieces_single (by decide)
  next hne => exact pieces_intercalate hne fun c hc => (h.component c hc).2.2

/-- The spelling of a place is a path that does not start at the root. -/
theorem IsPlace.spelling_path {place : List String} (h : IsPlace place) :
    spelling place ≠ "" ∧ isAbsolute (spelling place) = false := by
  obtain ⟨c, rest, hpieces⟩ := List.exists_cons_of_ne_nil (pieces_ne_nil (spelling place))
  have hc : c ≠ "" := by
    have hmem : c ∈ pieces (spelling place) := hpieces ▸ List.mem_cons_self
    rw [h.pieces_spelling] at hmem
    split at hmem
    · rw [List.mem_singleton.mp hmem]
      decide
    · exact (h.component c hmem).1
  refine ⟨fun hempty => hc ?_, isAbsolute_eq_false_of_pieces hpieces hc⟩
  rw [hempty] at hpieces
  exact (List.cons.inj hpieces).1.symm

/-- **Two places with one spelling are the same.** -/
theorem IsPlace.spelling_inj {p q : List String} (hp : IsPlace p) (hq : IsPlace q) :
    spelling p = spelling q ↔ p = q := by
  refine ⟨fun h => ?_, congrArg spelling⟩
  have hpieces := congrArg pieces h
  rw [hp.pieces_spelling, hq.pieces_spelling] at hpieces
  split at hpieces <;> split at hpieces
  next hp₀ hq₀ => rw [hp₀, hq₀]
  next => exact absurd hpieces.symm hq.ne_here
  next => exact absurd hpieces hp.ne_here
  next => exact hpieces

/-! ## §3. Normal forms. -/

/-- The components so far, newest first, are a place backwards. -/
theorem reverse_normalStep (done : List String) (c : String) :
    (normalStep false done c).reverse = follow done.reverse c := by
  unfold normalStep follow
  simp only [Bool.or_eq_true, beq_iff_eq]
  by_cases hblank : c = "" ∨ c = "."
  · rw [if_pos hblank, if_pos hblank]
  · rw [if_neg hblank, if_neg hblank]
    by_cases hup : c = ".."
    · subst hup
      cases done with
      | nil => rfl
      | cons last rest =>
          by_cases hlast : last = ".."
          · simp [hlast]
          · simp [hlast]
    · simp [hup]

theorem normalComponents_eq (parts : List String) : normalComponents false parts = walk [] parts := by
  have hfold : ∀ done : List String,
      (parts.foldl (normalStep false) done).reverse = walk done.reverse parts := by
    induction parts with
    | nil => exact fun _ => rfl
    | cons c parts ih =>
        intro done
        rw [List.foldl_cons, ih, reverse_normalStep]
        rfl
  exact hfold []

/-- **Normalizing a path is walking along it.** -/
theorem normalize_eq {p : String} (h : isAbsolute p = false) :
    normalize p = spelling (walk [] (pieces p)) := by
  have hplace : IsPlace (walk [] (pieces p)) :=
    walk_isPlace isPlace_nil fun c hc => slash_not_mem_pieces hc
  unfold normalize spelling
  have hroot : (!"".isEmpty) = false := rfl
  rw [rootOf_eq_empty h]
  dsimp only
  rw [hroot, normalComponents_eq, String.empty_append]
  by_cases hnil : walk [] (pieces p) = []
  · rw [if_pos hnil, hnil]
    rfl
  · rw [if_neg hnil, if_neg fun h => hplace.intercalate_ne_empty hnil (String.isEmpty_iff.mp h)]

end Text.Path

/-! ## §4. Relative names. -/

open Text.Path

theorem isRelative_iff {name : String} :
    isRelative name = true ↔ ∃ c rest, pieces name = c :: rest ∧ rest ≠ [] ∧ (c = "." ∨ c = "..") := by
  have hstart : ∀ start : List Char, '/' ∉ start →
      ((start ++ ['/'] <+: name.toList) ↔
        ∃ rest, pieces name = String.ofList start :: rest ∧ rest ≠ []) := by
    intro start hstart
    constructor
    · rintro ⟨rest, h⟩
      refine ⟨pieces (String.ofList rest), ?_, pieces_ne_nil _⟩
      have hpieces := pieces_append start rest
      rw [pieces_single (p := String.ofList start) (by rwa [String.toList_ofList])] at hpieces
      rw [← String.ofList_toList (s := name), ← h, List.append_assoc]
      exact hpieces
    · rintro ⟨rest, h, hne⟩
      obtain ⟨c, more, rfl⟩ := List.exists_cons_of_ne_nil hne
      refine ⟨("/".intercalate (c :: more)).toList, ?_⟩
      rw [← intercalate_pieces name, h]
      simp
  rw [isRelative, Bool.or_eq_true, String.startsWith_string_iff, String.startsWith_string_iff]
  constructor
  · rintro (h | h)
    · obtain ⟨rest, hpieces, hne⟩ := (hstart ['.'] (by decide)).mp h
      exact ⟨_, rest, hpieces, hne, .inl rfl⟩
    · obtain ⟨rest, hpieces, hne⟩ := (hstart ['.', '.'] (by decide)).mp h
      exact ⟨_, rest, hpieces, hne, .inr rfl⟩
  · rintro ⟨c, rest, hpieces, hne, rfl | rfl⟩
    · exact .inl ((hstart ['.'] (by decide)).mpr ⟨rest, hpieces, hne⟩)
    · exact .inr ((hstart ['.', '.'] (by decide)).mpr ⟨rest, hpieces, hne⟩)

theorem isAbsolute_of_isRelative {name : String} (h : isRelative name = true) :
    isAbsolute name = false := by
  obtain ⟨c, rest, hpieces, _, hc⟩ := isRelative_iff.mp h
  refine isAbsolute_eq_false_of_pieces hpieces ?_
  rcases hc with rfl | rfl <;> decide

/-- The place of the directory that a template is in. -/
def home (parent : String) : List String := walk [] (pieces parent).dropLast

/-- Where a relative name leads from a template: to the directory of the template, and then along
the name. -/
def destination (name parent : String) : List String := walk (home parent) (pieces name)

theorem home_isPlace (parent : String) : IsPlace (home parent) :=
  walk_isPlace isPlace_nil fun _ hc => slash_not_mem_pieces ((List.dropLast_prefix _).subset hc)

theorem destination_isPlace (name parent : String) : IsPlace (destination name parent) :=
  walk_isPlace (home_isPlace parent) fun _ hc => slash_not_mem_pieces hc

section Names

variable {name parent : String} (hparent : parent ≠ "") (hbelow : isAbsolute parent = false)
  (hname : isRelative name = true)

include hparent hbelow hname

/-- A relative name below the directory of a template. -/
theorem append_directory :
    isAbsolute (append (directory parent) name) = false
      ∧ walk [] (pieces (append (directory parent) name)) = destination name parent := by
  have hrelative := isAbsolute_of_isRelative hname
  rcases directory_pieces hbelow with ⟨hpieces, hnone⟩ | ⟨k, f, hpieces, hne, hlast⟩
  · rw [hnone, append_nothing, destination, home, hpieces]
    exact ⟨hrelative, rfl⟩
  · have happend := append_pieces hrelative hne hlast
    constructor
    · -- the first component is that of the template
      obtain ⟨c, rest, hfirst, hc⟩ := exists_pieces hparent hbelow
      obtain ⟨d, more, hd⟩ := List.exists_cons_of_ne_nil (pieces_ne_nil (directory parent))
      rw [hd] at happend hpieces
      rw [hpieces] at hfirst
      obtain ⟨rfl, _⟩ := List.cons.inj hfirst
      exact isAbsolute_eq_false_of_pieces happend hc
    · rw [happend, destination, home, hpieces, List.dropLast_concat, walk_append, walk_append,
        walk_empty]

/-- **A relative name is resolved by walking.** -/
theorem resolveName_eq : resolveName name (some parent) = spelling (destination name parent) := by
  obtain ⟨hpath, hwalk⟩ := append_directory hparent hbelow hname
  have hgiven : Report.given (some parent) = some parent := by
    simp [Report.given, hparent]
  rw [resolveName, hgiven]
  dsimp only
  rw [if_pos hname, normalize_eq hpath, hwalk]

omit hparent hbelow in
/-- The directory of a relative name, and a name below it. -/
theorem directory_relative (parent : String) {next : String} (hnext : isRelative next = true) :
    isRelative (append (directory name) next) = true
      ∧ destination (append (directory name) next) parent
        = walk (walk (home parent) (pieces name).dropLast) (pieces next) := by
  obtain ⟨c, rest, hpieces, hrest, hc⟩ := isRelative_iff.mp hname
  have hnextBelow := isAbsolute_of_isRelative hnext
  rcases directory_pieces (isAbsolute_of_isRelative hname) with
    ⟨hsingle, _⟩ | ⟨k, f, hcut, hne, hlast⟩
  · rw [hsingle] at hpieces
    exact absurd (List.cons.inj hpieces).2.symm hrest
  · have happend := append_pieces hnextBelow hne hlast
    obtain ⟨d, more, hd⟩ := List.exists_cons_of_ne_nil (pieces_ne_nil (directory name))
    constructor
    · rw [hd] at happend hcut
      rw [hcut] at hpieces
      obtain ⟨rfl, _⟩ := List.cons.inj hpieces
      refine isRelative_iff.mpr ⟨d, more ++ pieces next, happend, ?_, hc⟩
      simp [pieces_ne_nil]
    · rw [destination, happend, walk_append, hcut, List.dropLast_concat, walk_append, walk_empty]

/-- **A template asked for by a relative name asks for another one**: this is to ask for the name
below the directory of the first name. -/
theorem resolveName_chain {f next : String} (hfile : (pieces name).getLast? = some f)
    (hf : IsName f) (hnext : isRelative next = true) :
    resolveName next (some (resolveName name (some parent)))
      = resolveName (append (directory name) next) (some parent) := by
  obtain ⟨front, hfront⟩ := List.getLast?_eq_some_iff.mp hfile
  obtain ⟨hrelative, hdestination⟩ := directory_relative hname parent hnext
  have hplace : IsPlace (walk (home parent) front) :=
    walk_isPlace (home_isPlace parent) fun _ hc =>
      slash_not_mem_pieces (p := name) (hfront ▸ List.mem_append_left _ hc)
  -- the place of the template, and the file in it
  have hwhole : destination name parent = walk (home parent) front ++ [f] := by
    rw [destination, hfront, walk_append]
    exact follow_name hf _
  have hdestinationPlace := destination_isPlace name parent
  obtain ⟨hne, habove⟩ := hdestinationPlace.spelling_path
  have hpieces : pieces (spelling (destination name parent)) = walk (home parent) front ++ [f] := by
    rw [hdestinationPlace.pieces_spelling, if_neg (by simp [hwhole]), hwhole]
  rw [resolveName_eq hparent hbelow hname, resolveName_eq hne habove hnext,
    resolveName_eq hparent hbelow hrelative, hdestination, destination, home, hpieces, hfront,
    List.dropLast_concat, List.dropLast_concat, hplace.walk_self]

/-- **Relative names are resolved to the one spelling of the place they lead to.**  It has no empty
component, `.` only as the whole of it, and `..` only in front; names that lead to the same place,
and only these, are resolved alike; and a name that is asked for on the way through another
template is resolved as if it stood below the directory of that template's name. -/
theorem resolveName_canonical :
    resolveName name (some parent) = spelling (destination name parent)
      ∧ IsPlace (destination name parent)
      ∧ pieces (resolveName name (some parent))
          = (if destination name parent = [] then ["."] else destination name parent)
      ∧ (∀ name' parent', parent' ≠ "" → isAbsolute parent' = false → isRelative name' = true →
          (resolveName name' (some parent') = resolveName name (some parent)
            ↔ destination name' parent' = destination name parent))
      ∧ ∀ f next, (pieces name).getLast? = some f → IsName f → isRelative next = true →
          resolveName next (some (resolveName name (some parent)))
            = resolveName (append (directory name) next) (some parent) := by
  have hplace := destination_isPlace name parent
  have heq := resolveName_eq hparent hbelow hname
  refine ⟨heq, hplace, ?_, fun name' parent' hparent' hbelow' hname' => ?_, fun f next hfile hf => ?_⟩
  · rw [heq, hplace.pieces_spelling]
  · rw [heq, resolveName_eq hparent' hbelow' hname']
    exact (destination_isPlace name' parent').spelling_inj hplace
  · exact resolveName_chain hparent hbelow hname hfile hf

end Names

/-- A name that climbs out of the directory that the first template is in. -/
theorem resolveName_canonical_climbing :
    let parent := "pages//home.html"
    let name := "../../lib/.//nav.html"
    parent ≠ "" ∧ isAbsolute parent = false ∧ isRelative name = true
      ∧ resolveName name (some parent) = "../lib/nav.html"
      ∧ resolveName "../x.html" (some "../lib/nav.html")
          = resolveName (append (directory name) "../x.html") (some parent) := by
  have hparent : "pages//home.html" ≠ "" := by decide
  have hbelow : isAbsolute "pages//home.html" = false := by decide +kernel
  have hname : isRelative "../../lib/.//nav.html" = true := by decide +kernel
  obtain ⟨hspelled, _, _, _, hchain⟩ := resolveName_canonical hparent hbelow hname
  have hplace : spelling (destination "../../lib/.//nav.html" "pages//home.html")
      = "../lib/nav.html" := by decide +kernel
  rw [hplace] at hspelled
  have hnext := hchain "nav.html" "../x.html" (by decide +kernel)
    ⟨by decide, by decide, by decide, by decide⟩ (by decide +kernel)
  rw [hspelled] at hnext
  exact ⟨hparent, hbelow, hname, hspelled, hnext⟩

end TagTemplate
