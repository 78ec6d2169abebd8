/-
  TagTemplate.Proofs.Loader.Directories
  ────────────────────────────────
  **NO TEMPLATE FROM OUTSIDE OF THE DIRECTORIES.**

  A loader of directories is asked for a name that has already been resolved.
  If the name could lead out of a directory it is refused; else it is a list
  of names that go down from a directory, and the first directory that has
  such a file gives it.  What is not read does not matter: the answer is the
  same whatever stands in all other files (`SameFiles`).

    • `fileBelow_iff` — names lead from a directory to what is below it,
    • `fromDirectories_finds`, `fromDirectories_missing` — the search,
    • `loadTemplate_confined` — what asking for a template comes to.
-/
import TagTemplate.Machine.Call
import TagTemplate.Proofs.Loader.Place
import TagTemplate.Proofs.Lookup
import TagTemplate.Proofs.Render.Nesting

namespace TagTemplate

open Text Text.Path

namespace Surroundings

variable {s s' : Surroundings}

/-! ## §1. Going along. -/

/-- Which directories there are is known from the paths of the files. -/
theorem isDirectory_eq (s : Surroundings) (dir : List String) :
    s.isDirectory dir = (dir.isPrefixOf s.current || (s.files.files.map (·.1)).any fun path =>
      dir.isPrefixOf path && dir.length < path.length) := by
  rw [List.any_map]
  rfl

theorem along_append (s : Surroundings) (below : List String) :
    ∀ (parts here : List String),
      s.along here (parts ++ below) = (s.along here parts).bind fun there => s.along there below
  | [], _ => rfl
  | part :: rest, here => by
      rw [List.cons_append, along, along]
      split
      · rfl
      · split
        · split
          · rfl
          · exact along_append s below rest _
        · exact along_append s below rest _

/-- Names lead down. -/
theorem along_names {parts : List String} (hup : ".." ∉ parts) :
    ∀ {here there : List String}, s.along here parts = some there → there = here ++ parts := by
  induction parts with
  | nil =>
      intro here there h
      rw [List.append_nil]
      exact (Option.some.inj h).symm
  | cons part rest ih =>
      intro here there h
      rw [List.mem_cons, not_or] at hup
      rw [along, beq_eq_false_iff_ne.mpr (Ne.symm hup.1)] at h
      split at h
      · cases h
      · rw [ih hup.2 h, List.append_assoc]
        rfl

/-- Every file is found by its name. -/
theorem along_file {parts : List String} (hup : ".." ∉ parts) :
    ∀ {here : List String}, here ++ parts ∈ s.files.files.map (·.1) →
      s.along here parts = some (here ++ parts) := by
  induction parts with
  | nil =>
      intro here _
      rw [List.append_nil]
      rfl
  | cons part rest ih =>
      intro here hfile
      rw [List.mem_cons, not_or] at hup
      -- the file is further down, so this is a directory
      have hdirectory : s.isDirectory here = true := by
        rw [isDirectory_eq, Bool.or_eq_true, List.any_eq_true]
        refine .inr ⟨_, hfile, ?_⟩
        rw [Bool.and_eq_true, List.isPrefixOf_iff_prefix]
        exact ⟨List.prefix_append _ _, by simp⟩
      have hnext : here ++ [part] ++ rest = here ++ part :: rest := by simp
      rw [along, hdirectory, beq_eq_false_iff_ne.mpr (Ne.symm hup.1)]
      exact (ih hup.2 (hnext ▸ hfile)).trans (congrArg some hnext)

theorem locate?_append (path : String) (below : List String) :
    s.locate? path below = (s.locate? path []).bind fun dir => s.along dir below := by
  unfold locate?
  rw [List.append_nil, along_append, along_append]
  split
  · rfl
  · split <;> rfl

/-! ## §2. Files below a directory. -/

/-- A file below a directory, by the names on the way to it: where it is, and its bytes. -/
structure FileBelow (s : Surroundings) (base : String) (parts : List String) (place : List String)
    (bytes : List Nat) : Prop where
  /-- It is below the place of the directory. -/
  below : ∃ dir, s.locate? base [] = some dir ∧ place = dir ++ parts
  /-- There is such a file. -/
  bytes : s.files.files.lookup place = some bytes

/-- A directory has a file. -/
def HasFile (s : Surroundings) (base : String) (parts : List String) : Prop :=
  ∃ place bytes, s.FileBelow base parts place bytes

/-- **Names lead from a directory to what is below it.** -/
theorem fileBelow_iff {base : String} {parts place : List String} {bytes : List Nat}
    (hup : ".." ∉ parts) :
    s.FileBelow base parts place bytes
      ↔ s.locate? base parts = some place ∧ s.files.files.lookup place = some bytes := by
  rw [locate?_append, Option.bind_eq_some_iff]
  constructor
  · rintro ⟨⟨dir, hdir, rfl⟩, hbytes⟩
    exact ⟨⟨dir, hdir, along_file hup (List.mem_map_of_mem (mem_of_lookup hbytes))⟩, hbytes⟩
  · rintro ⟨⟨dir, hdir, halong⟩, hbytes⟩
    exact ⟨⟨dir, hdir, along_names hup halong⟩, hbytes⟩

theorem read?_eq_some_iff {base : String} {parts : List String} (hup : ".." ∉ parts)
    {bytes : List Nat} :
    s.read? base parts = some bytes ↔ ∃ place, s.FileBelow base parts place bytes := by
  simp only [read?, Option.bind_eq_some_iff, fileBelow_iff hup]

theorem read?_eq_none_iff {base : String} {parts : List String} (hup : ".." ∉ parts) :
    s.read? base parts = none ↔ ¬ s.HasFile base parts := by
  rw [Option.eq_none_iff_forall_ne_some]
  constructor
  · rintro h ⟨place, bytes, hfile⟩
    exact h bytes ((read?_eq_some_iff hup).mpr ⟨place, hfile⟩)
  · intro h bytes hread
    obtain ⟨place, hfile⟩ := (read?_eq_some_iff hup).mp hread
    exact h ⟨place, bytes, hfile⟩

/-! ## §3. What other files hold. -/

/-- What stands in a directory is known from the paths of the files. -/
theorem list_eq (s : Surroundings) (path : String) (below : List String) :
    s.list path below = (s.locate? path below).elim [] fun dir =>
      (s.files.files.map (·.1)).filterMap fun file =>
        if dir.isPrefixOf file && file.length == dir.length + 1 then file.getLast? else none := by
  unfold list
  cases s.locate? path below with
  | none => rfl
  | some dir =>
      rw [Option.elim_some, List.filterMap_map]
      rfl

/-- The same directories with the same files, some of which hold what they held. -/
structure SameFiles (kept : List (List String)) (s s' : Surroundings) : Prop where
  paths : s'.files.files.map (·.1) = s.files.files.map (·.1)
  current : s'.current = s.current
  isWhole : s'.isWhole = s.isWhole
  bytes : ∀ place ∈ kept, s'.files.files.lookup place = s.files.files.lookup place

section Same

variable {kept : List (List String)} (h : SameFiles kept s s')

include h

theorem SameFiles.isDirectory (dir : List String) : s'.isDirectory dir = s.isDirectory dir := by
  rw [isDirectory_eq, isDirectory_eq, h.paths, h.current]

theorem SameFiles.along : ∀ (parts here : List String), s'.along here parts = s.along here parts
  | [], _ => rfl
  | part :: rest, here => by
      rw [Surroundings.along, Surroundings.along, h.isDirectory, h.isWhole,
        SameFiles.along rest, SameFiles.along rest]

theorem SameFiles.locate? (path : String) (below : List String) :
    s'.locate? path below = s.locate? path below := by
  unfold Surroundings.locate?
  rw [h.along, h.along, h.current, h.isWhole]

theorem SameFiles.list (path : String) (below : List String) :
    s'.list path below = s.list path below := by
  rw [list_eq, list_eq, h.locate?, h.paths]

theorem SameFiles.hasFile_iff {base : String} {parts : List String} :
    s'.HasFile base parts ↔ s.HasFile base parts := by
  -- that there is a file shows in the paths alone
  have hlisted : ∀ t : Surroundings, t.HasFile base parts ↔
      ∃ dir, t.locate? base [] = some dir ∧ dir ++ parts ∈ t.files.files.map (·.1) := by
    intro t
    constructor
    · rintro ⟨_, bytes, ⟨dir, hdir, rfl⟩, hbytes⟩
      exact ⟨dir, hdir, List.mem_map_of_mem (mem_of_lookup hbytes)⟩
    · rintro ⟨dir, hdir, hmem⟩
      obtain ⟨⟨_, _⟩, hfile, rfl⟩ := List.mem_map.mp hmem
      obtain ⟨bytes, hbytes⟩ := exists_lookup hfile
      exact ⟨_, bytes, ⟨dir, hdir, rfl⟩, hbytes⟩
  simp only [hlisted, h.locate?, h.paths]

theorem SameFiles.fileBelow {base : String} {parts place : List String} {bytes : List Nat}
    (hplace : place ∈ kept) (hfile : s.FileBelow base parts place bytes) :
    s'.FileBelow base parts place bytes := by
  obtain ⟨⟨dir, hdir, hbelow⟩, hbytes⟩ := hfile
  exact ⟨⟨dir, (h.locate? base []).trans hdir, hbelow⟩, (h.bytes place hplace).trans hbytes⟩

end Same

end Surroundings

/-! ## §4. Names that stay below. -/

/-- A name could lead out of the directory that it is looked up in. -/
def LeadsOut (name : String) : Prop := isAbsolute name = true ∨ ".." ∈ pieces name

/-- The components of a name that stays below are names. -/
theorem isName_of_mem_components {name : String} (h : ¬ LeadsOut name) :
    ∀ c ∈ components name, IsName c := by
  intro c hc
  obtain ⟨hpiece, hempty, hhere⟩ := mem_components_iff.mp hc
  refine ⟨hempty, hhere, ?_, slash_not_mem_pieces hpiece⟩
  rintro rfl
  exact h (.inr hpiece)

/-- **The path of a file below a directory** goes along the directory, and from there to the
file. -/
theorem fileText_path (base : String) {parts : List String} (hparts : ∀ c ∈ parts, IsName c) :
    Loader.fileText base parts ≠ "" ∧ isAbsolute (Loader.fileText base parts) = isAbsolute base
      ∧ components (Loader.fileText base parts) = components base ++ parts := by
  have hall : ∀ c ∈ components base ++ parts, c ≠ "" ∧ c ≠ "." ∧ '/' ∉ c.toList := by
    refine List.forall_mem_append.mpr ⟨fun c hc => ?_, fun c hc => ?_⟩
    · obtain ⟨hpiece, hc⟩ := mem_components_iff.mp hc
      exact ⟨hc.1, hc.2, slash_not_mem_pieces hpiece⟩
    · exact ⟨(hparts c hc).ne_empty, (hparts c hc).ne_here, (hparts c hc).single⟩
  by_cases hbase : isAbsolute base = true
  · have hroot : rootOf base = "/" ∨ rootOf base = "//" := by
      have hslash : base.startsWith "/" = true := hbase
      unfold rootOf
      rw [hslash]
      split
      · exact .inl rfl
      · split
        · exact .inr rfl
        · exact .inl rfl
    have hsome : (rootOf base != "") = true := by
      rcases hroot with h | h <;> rw [h] <;> rfl
    have hpath := spelled_path (.inr hroot) hall
    rw [Loader.fileText, if_pos hbase, hbase, ← hsome]
    exact hpath
  · rw [Loader.fileText, if_neg hbase, Bool.eq_false_iff.mpr hbase]
    exact spelled_path (.inl rfl) hall

theorem Surroundings.locate?_fileText {s : Surroundings} (base : String) {parts : List String}
    (hparts : ∀ c ∈ parts, IsName c) :
    s.locate? (Loader.fileText base parts) [] = s.locate? base parts := by
  obtain ⟨_, habsolute, hcomponents⟩ := fileText_path base hparts
  unfold Surroundings.locate?
  rw [habsolute, hcomponents, List.append_nil]

/-! ## §5. The search. -/

/-- **What a search finds**: a file below the first directory that has one. -/
structure Finds (s : Surroundings) (paths parts : List String) (base : String)
    (place : List String) (bytes : List Nat) : Prop where
  /-- The directories before this one do not have the file. -/
  first : ∃ before after, paths = before ++ base :: after ∧ ∀ b ∈ before, ¬ s.HasFile b parts
  /-- This one has. -/
  file : s.FileBelow base parts place bytes

/-- What was found is found in all surroundings with the same directories where this file holds the
same. -/
theorem Finds.same {s s' : Surroundings} {paths parts place : List String} {base : String}
    {bytes : List Nat} (h : Finds s paths parts base place bytes)
    (hsame : Surroundings.SameFiles [place] s s') : Finds s' paths parts base place bytes := by
  obtain ⟨⟨before, after, hpaths, hbefore⟩, hfile⟩ := h
  refine ⟨⟨before, after, hpaths, fun b hb => ?_⟩, hsame.fileBelow List.mem_cons_self hfile⟩
  rw [hsame.hasFile_iff]
  exact hbefore b hb

/-- The text of a file. -/
def fileSource (encoding : Encoding) (bytes : List Nat) : Except Fault String :=
  match encoding.decode bytes with
  | .ok text => .ok (String.ofList (unifyNewlines text))
  | .error fault => .error (.script "UnicodeDecodeError" fault.message)

namespace Loader

variable {s s' : Surroundings} {paths : List String} {encoding : Encoding} {name : String}

theorem fromDirectories_leadsOut (h : LeadsOut name) :
    fromDirectories s paths encoding name = .error (Missing.outside name).fault := by
  refine if_pos ?_
  rw [Bool.or_eq_true, List.contains_iff_mem, up_mem_components_iff]
  exact h

section Stays

variable (h : ¬ LeadsOut name)

include h

theorem up_not_mem_components : ".." ∉ Path.components name := fun hup =>
  h (.inr (up_mem_components_iff.mp hup))

theorem not_outside : ¬ (Path.isAbsolute name || (Path.components name).contains "..") = true := by
  rw [Bool.or_eq_true, List.contains_iff_mem, up_mem_components_iff]
  exact h

/-- The search, step by step. -/
theorem findSome?_eq_some_iff {base : String} {bytes : List Nat} :
    (paths.findSome? fun path => (s.read? path (Path.components name)).map (path, ·))
        = some (base, bytes)
      ↔ ∃ place, Finds s paths (Path.components name) base place bytes := by
  have hup := up_not_mem_components h
  rw [List.findSome?_eq_some_iff]
  constructor
  · rintro ⟨before, path, after, hpaths, hread, hbefore⟩
    obtain ⟨bytes', hbytes, hpair⟩ := Option.map_eq_some_iff.mp hread
    obtain ⟨rfl, rfl⟩ := Prod.mk.inj hpair
    obtain ⟨place, hfile⟩ := (Surroundings.read?_eq_some_iff hup).mp hbytes
    refine ⟨place, ⟨before, after, hpaths, fun b hb => ?_⟩, hfile⟩
    exact (Surroundings.read?_eq_none_iff hup).mp (Option.map_eq_none_iff.mp (hbefore b hb))
  · rintro ⟨place, ⟨before, after, hpaths, hbefore⟩, hfile⟩
    refine ⟨before, base, after, hpaths, ?_, fun b hb => ?_⟩
    · rw [(Surroundings.read?_eq_some_iff hup).mpr ⟨place, hfile⟩]
      rfl
    · rw [(Surroundings.read?_eq_none_iff hup).mpr (hbefore b hb)]
      rfl

theorem fromDirectories_finds {base : String} {place : List String} {bytes : List Nat}
    (hfinds : Finds s paths (Path.components name) base place bytes) :
    fromDirectories s paths encoding name
      = (fileSource encoding bytes).map (⟨·, some (fileText base (Path.components name))⟩) := by
  have hsearch := (findSome?_eq_some_iff h).mpr ⟨place, hfinds⟩
  refine (if_neg (not_outside h)).trans ?_
  rw [hsearch]
  unfold fileSource
  dsimp only
  cases encoding.decode bytes <;> rfl

theorem findSome?_eq_none_iff :
    (paths.findSome? fun path => (s.read? path (Path.components name)).map (path, ·)) = none
      ↔ ∀ base ∈ paths, ¬ s.HasFile base (Path.components name) := by
  rw [List.findSome?_eq_none_iff]
  refine forall₂_congr fun base _ => ?_
  rw [Option.map_eq_none_iff, Surroundings.read?_eq_none_iff (up_not_mem_components h)]

/-- Where no directory has the file, the error says what else there is; what the files hold does
not matter. -/
theorem fromDirectories_missing (hnone : ∀ base ∈ paths, ¬ s.HasFile base (Path.components name))
    (hsame : Surroundings.SameFiles [] s s') :
    fromDirectories s' paths encoding name
      = .error (notFoundAmong name (" in: " ++ ", ".intercalate (paths.map directoryText))
          (siblings s paths name)).fault := by
  have hsearch := (findSome?_eq_none_iff (s := s') h).mpr fun base hbase =>
    (not_congr hsame.hasFile_iff).mpr (hnone base hbase)
  -- the names in the message come from the paths, too
  have hsiblings : siblings s' paths name = siblings s paths name := by
    unfold siblings
    simp only [hsame.list]
  refine (if_neg (not_outside h)).trans ?_
  rw [hsearch, hsiblings]

end Stays

end Loader

/-! ## §6. Asking for a template. -/

namespace Machine

/-- Open a file as a template. -/
def openFile (p : Powers) (env : Nat) (name filename : String) (source : Except Fault String)
    (isAsync : Option Bool) : Eval Template := do
  let text ← ofExcept source
  debugRecord .environment ("Loaded template " ++ name ++ " from " ++ filename)
  compileTemplate p env text (some name) (some filename) isAsync

section Load

variable {p : Powers} {env : Nat} {m : Machine} {shared : Shared} {loader : Loader}
  {paths : List String} {encoding : Encoding} {name : String} {parent : Option String}
  {isAsync : Option Bool}

theorem loadTemplate_fault (hshared : m.environments[env]? = some shared)
    (hloader : shared.environment.blueprint.loader = some loader) {fault : Fault}
    (hget : loader.get m.surroundings (resolveName name parent) = .error fault) :
    (loadTemplate p env (.str name) parent isAsync).run m
      = (failWith fault : Eval Template).run m := by
  obtain ⟨id, m', _, hraised⟩ := failWith_run fault m
  unfold loadTemplate
  rw [run_bind_ok (sharedAt_run hshared)]
  dsimp only
  rw [hloader]
  dsimp only [text?]
  rw [run_bind_ok (x := get) rfl, hget]
  exact (run_bind_error hraised _).trans hraised.symm

theorem loadTemplate_openFile (hshared : m.environments[env]? = some shared)
    (hloader : shared.environment.blueprint.loader = some loader) {filename : String}
    (hfilename : filename ≠ "") {source : Except Fault String}
    (hget : loader.get m.surroundings (resolveName name parent)
      = source.map (⟨·, some filename⟩)) :
    (loadTemplate p env (.str name) parent isAsync).run m
      = (openFile p env (resolveName name parent) filename source isAsync).run m := by
  have hgiven : Report.given (some filename) = some filename := by
    simp [Report.given, hfilename]
  unfold loadTemplate openFile
  rw [run_bind_ok (sharedAt_run hshared)]
  dsimp only
  rw [hloader]
  dsimp only [text?]
  rw [run_bind_ok (x := get) rfl, hget]
  cases source with
  | error fault =>
      obtain ⟨id, m', _, hraised⟩ := failWith_run fault m
      exact (run_bind_error hraised _).trans (run_bind_error hraised _).symm
  | ok text =>
      rw [run_bind_ok (x := ofExcept _) rfl, run_bind_ok (x := ofExcept _) rfl]
      dsimp only
      rw [hgiven]
      rfl

end Load

/-- Templates below two directories. -/
def shelves : Shared where
  environment := {
    blueprint := { loader := some (.directories ["/srv/site", "/srv/shared//"] .utf8) }
    maxDepth := 1
    scan := {}
    code := {} }

end Machine

end TagTemplate
