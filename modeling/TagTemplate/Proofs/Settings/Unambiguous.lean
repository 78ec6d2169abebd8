/-
  TagTemplate.Proofs.Settings.Unambiguous
  ────────────────────────────────
  **OPTIONS OF THE SCANNER ARE ACCEPTED IF THEY ARE UNAMBIGUOUS.**

  Options are checked one after the other, and each check either lets them
  pass or refuses them as a configuration (`Checks`).  What the checks come
  to is said without them: `ScanOptions.Unambiguous`.

    • `Checks.bind` — one check after another checks both conditions,
    • `checkMark_checks` — a prefix character, given those before it,
    • `ScanOptions.check_checks` — the whole chain,
    • `ScanOptions.check_unambiguous` — what is accepted, and what it means.
-/
import Mathlib.Data.List.Basic
import TagTemplate.Proofs.Scan.Lossless

namespace TagTemplate

open Text

/-! ## §1. Checks. -/

/-- **A computation checks a condition**: it succeeds if the condition holds, and refuses a
configuration if it does not. -/
inductive Checks {α : Type} : Except Fault α → Prop → Prop
  /-- The condition holds. -/
  | accepted {P : Prop} (a : α) (h : P) : Checks (.ok a) P
  /-- It does not. -/
  | refused {P : Prop} (cause : ConfigCause) (h : ¬ P) : Checks (.error cause.fault) P

namespace Checks

variable {α β : Type} {x : Except Fault α} {P Q : Prop}

theorem congr (h : Checks x P) (hiff : P ↔ Q) : Checks x Q := by
  cases h with
  | accepted a h => exact .accepted a (hiff.mp h)
  | refused cause h => exact .refused cause fun hQ => h (hiff.mpr hQ)

/-- One check after another. -/
theorem bind {f : α → Except Fault β} (hx : Checks x P)
    (hf : ∀ a, x = .ok a → Checks (f a) Q) : Checks (x >>= f) (P ∧ Q) := by
  cases hx with
  | refused cause h => exact .refused cause fun hboth => h hboth.1
  | accepted a h =>
      show Checks (f a) (P ∧ Q)
      exact (hf a rfl).congr (and_iff_right h).symm

/-- What a check gives may be used. -/
theorem map (h : Checks x P) (f : α → β) : Checks (x >>= fun a => .ok (f a)) P := by
  cases h with
  | accepted a h => exact .accepted (f a) h
  | refused cause h => exact .refused cause h

theorem ok_iff (h : Checks x P) : (∃ a, x = .ok a) ↔ P := by
  cases h with
  | accepted a h => exact ⟨fun _ => h, fun _ => ⟨a, rfl⟩⟩
  | refused cause h => exact ⟨fun ⟨_, hok⟩ => (nomatch hok), fun hP => absurd hP h⟩

theorem exists_cause (h : Checks x P) (hnot : ¬ P) : ∃ cause : ConfigCause, x = .error cause.fault := by
  cases h with
  | accepted a h => exact absurd h hnot
  | refused cause _ => exact ⟨cause, rfl⟩

end Checks

/-! ## §2. Unambiguous options. -/

/-- A datum stands for a trim mode. -/
def IsTrimMode (d : Datum) : Prop :=
  (∃ mode, d = .trim mode) ∨ d = .none ∨ d = .bool false
    ∨ ∃ word, d.text? = some word ∧ (word = "off" ∨ word = "nl" ∨ word = "slurp")

/-- A datum stands for one trim mode, or for two. -/
def IsTrimSetting (d : Datum) : Prop :=
  IsTrimMode d ∨ ∃ before after, (d = .list [before, after] ∨ d = .tuple [before, after])
    ∧ IsTrimMode before ∧ IsTrimMode after

/-- Two texts, neither of them empty. -/
def AreDelimiters (entries : List Datum) : Prop :=
  entries.length = 2 ∧ ∀ e ∈ entries, ∃ text, e.text? = some text ∧ text ≠ ""

/-- A text of at most one character, which is neither a trim marker nor blank. -/
def IsPrefix (d : Datum) : Prop :=
  ∃ text, d.text? = some text ∧ text.length ≤ 1
    ∧ ∀ c ∈ text.toList, c ≠ '-' ∧ c ≠ '_' ∧ isBlank c = false

namespace ScanOptions

/-- What selects a kind of tag. -/
def mark (o : ScanOptions) : TagKind → Datum
  | .execute => o.executeMark
  | .interpolate => o.interpolateMark
  | .raw => o.rawMark

/-- **Options that leave nothing open**, given the entries of the delimiters. -/
structure Unambiguous (o : ScanOptions) (entries : List Datum) : Prop where
  /-- There are two delimiters. -/
  delimiters : AreDelimiters entries
  /-- It is known how to trim. -/
  trim : IsTrimSetting o.autoTrim
  /-- Every kind of tag has a prefix. -/
  prefixes : ∀ kind, IsPrefix (o.mark kind)
  /-- A prefix that is not empty selects one kind. -/
  distinct : ∀ kind kind' text, text ≠ "" → (o.mark kind).text? = some text →
    (o.mark kind').text? = some text → kind = kind'
  /-- So does the empty one. -/
  oneEmpty : ∀ kind kind', (o.mark kind).text? = some "" → (o.mark kind').text? = some "" →
    kind = kind'
  /-- A default that is asked for is the kind with the empty prefix, if there is one. -/
  default : ∀ kind given, (o.mark kind).text? = some "" → o.defaultKind = some given →
    given = kind

end ScanOptions

/-! ## §3. Trim modes and delimiters. -/

theorem ofWord?_isSome_iff {word : String} :
    (∃ m, TrimMode.ofWord? word = some m) ↔ word = "off" ∨ word = "nl" ∨ word = "slurp" := by
  constructor
  · rintro ⟨m, h⟩
    unfold TrimMode.ofWord? at h
    split at h
    · exact .inl rfl
    · exact .inr (.inl rfl)
    · exact .inr (.inr rfl)
    · cases h
  · rintro (rfl | rfl | rfl) <;> exact ⟨_, rfl⟩

theorem trimModeOf_checks (d : Datum) : Checks (trimModeOf d) (IsTrimMode d) := by
  unfold trimModeOf
  split
  next m => exact .accepted m (.inl ⟨m, rfl⟩)
  next => exact .accepted _ (.inr (.inl rfl))
  next => exact .accepted _ (.inr (.inr (.inl rfl)))
  next hmode hnone hfalse =>
    split
    next m hword =>
      obtain ⟨word, htext, hword⟩ := Option.bind_eq_some_iff.mp hword
      exact .accepted m (.inr (.inr (.inr ⟨word, htext, ofWord?_isSome_iff.mp ⟨m, hword⟩⟩)))
    next hword =>
      refine .refused _ ?_
      rintro (⟨m, rfl⟩ | rfl | rfl | ⟨word, htext, hone⟩)
      · exact hmode m rfl
      · exact hnone rfl
      · exact hfalse rfl
      · obtain ⟨m, hm⟩ := ofWord?_isSome_iff.mpr hone
        rw [htext, Option.bind_some, hm] at hword
        cases hword

theorem isTrimMode_ne_items {d : Datum} (h : IsTrimMode d) (items : List Datum) :
    d ≠ .list items ∧ d ≠ .tuple items := by
  rcases h with ⟨m, rfl⟩ | rfl | rfl | ⟨word, htext, _⟩
  · exact ⟨nofun, nofun⟩
  · exact ⟨nofun, nofun⟩
  · exact ⟨nofun, nofun⟩
  · constructor <;> rintro rfl <;> cases htext

section Pair

variable {d : Datum} {items : List Datum} (hd : d = .list items ∨ d = .tuple items)

include hd

/-- A list or a tuple is a setting if it has two entries that are trim modes. -/
theorem isTrimSetting_pair_iff : IsTrimSetting d ↔
    ∃ before after, items = [before, after] ∧ IsTrimMode before ∧ IsTrimMode after := by
  have hnot : ¬ IsTrimMode d := by
    intro h
    obtain ⟨hlist, htuple⟩ := isTrimMode_ne_items h items
    exact hd.elim hlist htuple
  rcases hd with rfl | rfl <;> simp [IsTrimSetting, hnot]

theorem trimPairOf_refused (hlength : items.length ≠ 2) :
    trimPairOf d = .error ConfigCause.badTrimPair.fault := by
  match items with
  | [] => rcases hd with rfl | rfl <;> rfl
  | [_] => rcases hd with rfl | rfl <;> rfl
  | [_, _] => exact absurd rfl hlength
  | _ :: _ :: _ :: _ => rcases hd with rfl | rfl <;> rfl

theorem trimPairOf_pair_checks : Checks (trimPairOf d) (IsTrimSetting d) := by
  refine Checks.congr ?_ (isTrimSetting_pair_iff hd).symm
  by_cases hlength : items.length = 2
  · obtain ⟨before, after, rfl⟩ := List.length_eq_two.mp hlength
    have hpair : trimPairOf d = trimModeOf before >>= fun a => trimModeOf after >>= fun b =>
        .ok (a, b) := by
      rcases hd with rfl | rfl <;> rfl
    rw [hpair]
    have hboth := (trimModeOf_checks before).bind fun a _ =>
      (trimModeOf_checks after).map fun b => (a, b)
    refine hboth.congr ?_
    exact ⟨fun h => ⟨before, after, rfl, h⟩, fun ⟨_, _, heq, h⟩ => by cases heq; exact h⟩
  · rw [trimPairOf_refused hd hlength]
    refine .refused _ ?_
    rintro ⟨before, after, rfl, _⟩
    exact hlength rfl

end Pair

theorem trimPairOf_checks (d : Datum) : Checks (trimPairOf d) (IsTrimSetting d) := by
  by_cases hitems : ∃ items, d = .list items ∨ d = .tuple items
  · obtain ⟨items, hd⟩ := hitems
    exact trimPairOf_pair_checks hd
  · have hone : trimPairOf d = trimModeOf d >>= fun m => .ok (m, m) := by
      unfold trimPairOf
      split
      · exact absurd ⟨_, .inl rfl⟩ hitems
      · exact absurd ⟨_, .inr rfl⟩ hitems
      · rfl
    rw [hone]
    refine ((trimModeOf_checks d).map fun m => (m, m)).congr ?_
    constructor
    · exact .inl
    · rintro (h | ⟨before, after, hd, _⟩)
      · exact h
      · exact absurd ⟨_, hd⟩ hitems

theorem areDelimiters_iff {entries : List Datum} :
    AreDelimiters entries ↔ ∃ opening closing,
      entries.map Datum.text? = [some opening, some closing] ∧ opening ≠ "" ∧ closing ≠ "" := by
  constructor
  · rintro ⟨hlength, htexts⟩
    obtain ⟨a, b, rfl⟩ := List.length_eq_two.mp hlength
    obtain ⟨opening, hopening, hopen⟩ := htexts a (by simp)
    obtain ⟨closing, hclosing, hclose⟩ := htexts b (by simp)
    exact ⟨opening, closing, by simp [hopening, hclosing], hopen, hclose⟩
  · rintro ⟨opening, closing, hmap, hopen, hclose⟩
    have hlength : entries.length = 2 := by simpa using congrArg List.length hmap
    obtain ⟨a, b, rfl⟩ := List.length_eq_two.mp hlength
    obtain ⟨ha, hb, _⟩ : a.text? = some opening ∧ b.text? = some closing ∧ True := by
      simpa using hmap
    refine ⟨rfl, ?_⟩
    simp [ha, hb, hopen, hclose]

theorem delimitersOf_checks (entries : List Datum) :
    Checks (delimitersOf entries) (AreDelimiters entries) := by
  refine Checks.congr ?_ areDelimiters_iff.symm
  unfold delimitersOf
  dsimp only
  split
  next opening closing hmap =>
    rw [hmap]
    split
    next hempty =>
      refine .refused _ ?_
      rintro ⟨_, _, heq, hopen, hclose⟩
      cases heq
      simp [hopen, hclose] at hempty
    next hempty =>
      refine .accepted _ ⟨opening, closing, rfl, ?_⟩
      simpa using hempty
  next hother =>
    refine .refused _ ?_
    rintro ⟨opening, closing, hmap, _⟩
    exact hother opening closing hmap

/-! ## §4. Prefixes. -/

/-- A prefix differs from those before it, unless it is empty. -/
def IsFresh (d : Datum) (before : List Datum) : Prop :=
  ∀ text, text ≠ "" → d.text? = some text → ∀ b ∈ before, b.text? ≠ some text

/-- The characters seen so far are the prefixes so far. -/
def Records (before : List Datum) (seen : List (Char × TagKind)) : Prop :=
  ∀ c, seen.lookup c = none ↔ ∀ b ∈ before, b.text? ≠ some (String.singleton c)

theorem Records.nil : Records [] [] := fun _ => by simp

/-- **A prefix character is checked against those before it.** -/
theorem checkMark_checks (kind : TagKind) (d : Datum) {before : List Datum}
    {seen : List (Char × TagKind)} (hseen : Records before seen) :
    Checks (checkMark kind d seen) (IsPrefix d ∧ IsFresh d before) := by
  unfold checkMark
  split
  next hempty =>
    obtain ⟨text, htext, hnil⟩ := Option.map_eq_some_iff.mp hempty
    obtain rfl : text = "" := String.toList_eq_nil_iff.mp hnil
    -- an empty prefix need not differ from others here; they are counted at the end
    refine .accepted _ ⟨⟨"", htext, by simp⟩, fun text hne h => ?_⟩
    exact absurd (Option.some.inj (h.symm.trans htext)) hne
  next c hsingle =>
    obtain ⟨text, htext, hchar⟩ := Option.map_eq_some_iff.mp hsingle
    obtain rfl : text = String.singleton c := String.toList_injective (hchar.trans (by simp))
    have hwhole : IsPrefix d ↔ c ≠ '-' ∧ c ≠ '_' ∧ isBlank c = false := by
      simp [IsPrefix, htext]
    have hfresh : IsFresh d before ↔ seen.lookup c = none := by
      rw [hseen c]
      constructor
      · exact fun h => h _ (by simp) htext
      · intro h text _ hd
        rw [← Option.some.inj (htext.symm.trans hd)]
        exact h
    rw [hwhole, hfresh]
    split
    next hbad =>
      refine .refused _ ?_
      rintro ⟨⟨hdash, hline, hblank⟩, _⟩
      simp [isMarker, hdash, hline, hblank] at hbad
    next hgood =>
      have hchars : c ≠ '-' ∧ c ≠ '_' ∧ isBlank c = false := by
        simpa [isMarker, and_assoc] using hgood
      split
      next other hother =>
        refine .refused _ fun h => ?_
        rw [h.2] at hother
        cases hother
      next hnone => exact .accepted _ ⟨hchars, hnone⟩
  next hnone hsingle =>
    refine .refused _ ?_
    rintro ⟨⟨text, htext, hlength, _⟩, _⟩
    match hchars : text.toList with
    | [] => exact hnone (by rw [htext, Option.map_some, hchars])
    | [c] => exact hsingle c (by rw [htext, Option.map_some, hchars])
    | c :: c' :: rest =>
        rw [← String.length_toList, hchars] at hlength
        simp at hlength

/-- The text of an accepted prefix. -/
theorem checkMark_text {kind : TagKind} {d : Datum} {seen : List (Char × TagKind)}
    {mark : Option Char} (h : checkMark kind d seen = .ok mark) :
    d.text? = some (String.ofList mark.toList) := by
  have hof : ∀ l, d.text?.map String.toList = some l → d.text? = some (String.ofList l) := by
    intro l hl
    obtain ⟨text, htext, rfl⟩ := Option.map_eq_some_iff.mp hl
    rw [htext, String.ofList_toList]
  unfold checkMark at h
  split at h
  next hempty =>
    cases h
    exact hof [] hempty
  next c hsingle =>
    split at h
    · cases h
    · split at h
      · cases h
      · cases h
        exact hof [c] hsingle
  next => cases h

/-- One more prefix. -/
theorem Records.append {d : Datum} {before : List Datum} {seen : List (Char × TagKind)}
    {mark : Option Char} (h : Records before seen) (kind : TagKind)
    (hmark : d.text? = some (String.ofList mark.toList)) :
    Records (before ++ [d]) (seen ++ seenMark kind mark) := by
  intro c
  have hlast : (seenMark kind mark).lookup c = none ↔ d.text? ≠ some (String.singleton c) := by
    rw [hmark]
    cases mark with
    | none => simp [seenMark]
    | some c' =>
        by_cases hc : c = c'
        · simp [seenMark, hc]
        · simp [seenMark, hc, Ne.symm hc]
  rw [List.lookup_append, Option.or_eq_none_iff, h c, hlast]
  simp [or_imp, forall_and]

/-! ## §5. The empty prefix. -/

namespace ScanSettings

/-- The prefix character of a kind. -/
def mark (s : ScanSettings) : TagKind → Option Char
  | .execute => s.executeMark
  | .interpolate => s.interpolateMark
  | .raw => s.rawMark

/-- The kinds without a prefix character. -/
def unmarked (s : ScanSettings) : List TagKind := (s.marks.filter (·.2.isNone)).map (·.1)

theorem mem_marks_iff {s : ScanSettings} {kind : TagKind} {mark : Option Char} :
    (kind, mark) ∈ s.marks ↔ s.mark kind = mark := by
  cases kind <;> simp [marks, ScanSettings.mark, eq_comm]

theorem mem_unmarked_iff {s : ScanSettings} {kind : TagKind} :
    kind ∈ s.unmarked ↔ s.mark kind = none := by
  simp [unmarked, mem_marks_iff]

theorem unmarked_nodup (s : ScanSettings) : s.unmarked.Nodup := by
  have hkinds : (s.marks.map (·.1)).Nodup := by
    show [TagKind.execute, .interpolate, .raw].Nodup
    decide
  exact hkinds.sublist (List.filter_sublist.map _)

end ScanSettings

/-- Settings with the prefixes and the default of some options. -/
structure ScanOptions.Gives (o : ScanOptions) (s : ScanSettings) : Prop where
  mark : ∀ kind, (o.mark kind).text? = some (String.ofList (s.mark kind).toList)
  defaultKind : s.defaultKind = o.defaultKind

theorem ScanOptions.Gives.of_texts {o : ScanOptions} {s : ScanSettings}
    (hexecute : o.executeMark.text? = some (String.ofList s.executeMark.toList))
    (hinterpolate : o.interpolateMark.text? = some (String.ofList s.interpolateMark.toList))
    (hraw : o.rawMark.text? = some (String.ofList s.rawMark.toList))
    (hdefault : s.defaultKind = o.defaultKind) : o.Gives s where
  mark := fun kind => by cases kind <;> assumption
  defaultKind := hdefault

theorem ScanOptions.Gives.mark_iff {o : ScanOptions} {s : ScanSettings} (h : o.Gives s)
    {kind : TagKind} {mark : Option Char} :
    s.mark kind = mark ↔ (o.mark kind).text? = some (String.ofList mark.toList) := by
  rw [h.mark]
  cases s.mark kind <;> cases mark <;> simp

/-- At most one prefix is empty, and it belongs to the default that is asked for. -/
structure ScanOptions.HasPlain (o : ScanOptions) : Prop where
  oneEmpty : ∀ kind kind', (o.mark kind).text? = some "" → (o.mark kind').text? = some "" →
    kind = kind'
  default : ∀ kind given, (o.mark kind).text? = some "" → o.defaultKind = some given →
    given = kind

/-- The last step of the check. -/
def checkPlain (s : ScanSettings) : Except Fault ScanSettings :=
  match s.unmarked with
  | [] => .ok s
  | [kind] =>
    match s.defaultKind with
    | some given =>
      if given == kind then .ok s else .error (ConfigCause.kindConflict given kind).fault
    | none => .ok s
  | kinds => .error (ConfigCause.manyUnmarked kinds).fault

theorem checkPlain_checks {o : ScanOptions} {s : ScanSettings} (h : o.Gives s) :
    Checks (checkPlain s) o.HasPlain := by
  have hempty : ∀ kind, (o.mark kind).text? = some "" ↔ kind ∈ s.unmarked := by
    intro kind
    rw [ScanSettings.mem_unmarked_iff, h.mark_iff]
    rfl
  have hnodup := s.unmarked_nodup
  unfold checkPlain
  match hunmarked : s.unmarked with
  | [] =>
      rw [hunmarked] at hempty
      refine .accepted s ⟨fun kind _ hkind => ?_, fun kind _ hkind => ?_⟩
      · exact absurd ((hempty kind).mp hkind) List.not_mem_nil
      · exact absurd ((hempty kind).mp hkind) List.not_mem_nil
  | [plain] =>
      have hone : ∀ kind, (o.mark kind).text? = some "" ↔ kind = plain := by
        intro kind
        rw [hempty, hunmarked, List.mem_singleton]
      have hplain : o.HasPlain ↔ ∀ given, o.defaultKind = some given → given = plain := by
        constructor
        · exact fun h given => h.default plain given ((hone plain).mpr rfl)
        · refine fun hdefault => ⟨fun kind kind' hkind hkind' => ?_, fun kind given hkind => ?_⟩
          · rw [(hone kind).mp hkind, (hone kind').mp hkind']
          · rw [(hone kind).mp hkind]
            exact hdefault given
      rw [hplain, ← h.defaultKind]
      dsimp only
      split
      next given hgiven =>
        split
        next heq =>
          refine .accepted s fun given' h => ?_
          rw [← Option.some.inj (hgiven.symm.trans h)]
          exact beq_iff_eq.mp heq
        next hne => exact .refused _ fun h => hne (beq_iff_eq.mpr (h given hgiven))
      next hnone => exact .accepted s fun given h => by rw [hnone] at h; cases h
  | a :: b :: rest =>
      -- the kinds in the list differ, but only one may be there
      rw [hunmarked] at hempty hnodup
      refine .refused _ fun h => ?_
      have hsame := h.oneEmpty a b ((hempty a).mpr (by simp)) ((hempty b).mpr (by simp))
      simp [hsame] at hnodup

theorem checkPlain_eq {s s' : ScanSettings} (h : checkPlain s = .ok s') : s = s' := by
  unfold checkPlain at h
  split at h
  · exact Except.ok.inj h
  · split at h
    · split at h
      · exact Except.ok.inj h
      · cases h
    · exact Except.ok.inj h
  · cases h

/-! ## §6. The chain. -/

namespace ScanOptions

variable {o : ScanOptions} {entries : List Datum}

/-- The check, step by step. -/
theorem check_eq (hentries : entriesOf o.tags = .ok entries) :
    o.check = trimPairOf o.autoTrim >>= fun trim => delimitersOf entries >>= fun tags =>
      checkMark .execute o.executeMark [] >>= fun e =>
      checkMark .interpolate o.interpolateMark (seenMark .execute e) >>= fun i =>
      checkMark .raw o.rawMark (seenMark .execute e ++ seenMark .interpolate i) >>= fun r =>
      checkPlain
        { opening := tags.1, closing := tags.2, executeMark := e, interpolateMark := i, rawMark := r,
          defaultKind := o.defaultKind, trimBefore := trim.1, trimAfter := trim.2, debug := o.debug,
          plugins := o.plugins } := by
  unfold check
  rw [hentries]
  rfl

/-- What the steps of the check come to. -/
theorem unambiguous_iff :
    (IsTrimSetting o.autoTrim ∧ AreDelimiters entries
        ∧ (IsPrefix o.executeMark ∧ IsFresh o.executeMark [])
        ∧ (IsPrefix o.interpolateMark ∧ IsFresh o.interpolateMark [o.executeMark])
        ∧ (IsPrefix o.rawMark ∧ IsFresh o.rawMark [o.executeMark, o.interpolateMark])
        ∧ o.HasPlain)
      ↔ o.Unambiguous entries := by
  constructor
  · rintro ⟨htrim, hdelimiters, ⟨hexecute, _⟩, ⟨hinterpolate, hsecond⟩, ⟨hraw, hthird⟩, hplain⟩
    refine ⟨hdelimiters, htrim, fun kind => ?_, fun kind kind' text hne h h' => ?_,
      hplain.oneEmpty, hplain.default⟩
    · cases kind <;> assumption
    · -- of two kinds, the later one is fresh
      have hie := hsecond text hne
      have hr := hthird text hne
      cases kind <;> cases kind' <;> simp_all [mark]
  · intro h
    refine ⟨h.trim, h.delimiters, ⟨h.prefixes .execute, by simp [IsFresh]⟩,
      ⟨h.prefixes .interpolate, fun text hne htext b hb hsame => ?_⟩,
      ⟨h.prefixes .raw, fun text hne htext b hb hsame => ?_⟩, h.oneEmpty, h.default⟩
    · rw [List.mem_singleton.mp hb] at hsame
      cases h.distinct .interpolate .execute text hne htext hsame
    · rcases List.mem_pair.mp hb with rfl | rfl
      · cases h.distinct .raw .execute text hne htext hsame
      · cases h.distinct .raw .interpolate text hne htext hsame

/-- **Scanner options are accepted if they are unambiguous.** -/
theorem check_checks (hentries : entriesOf o.tags = .ok entries) :
    Checks o.check (o.Unambiguous entries) := by
  rw [check_eq hentries]
  refine Checks.congr ?_ unambiguous_iff
  refine (trimPairOf_checks _).bind fun trim _ => (delimitersOf_checks _).bind fun tags _ =>
    (checkMark_checks _ _ .nil).bind fun e he => ?_
  -- what has been seen grows by one prefix with every step
  have hfirst := Records.nil.append .execute (checkMark_text he)
  refine (checkMark_checks _ _ hfirst).bind fun i hi => ?_
  have hsecond := hfirst.append .interpolate (checkMark_text hi)
  refine (checkMark_checks _ _ hsecond).bind fun r hr => checkPlain_checks ?_
  exact .of_texts (checkMark_text he) (checkMark_text hi) (checkMark_text hr) rfl

/-- Accepted settings keep what was asked for. -/
theorem check_gives (hentries : entriesOf o.tags = .ok entries) {s : ScanSettings}
    (h : o.check = .ok s) : o.Gives s := by
  rw [check_eq hentries] at h
  obtain ⟨trim, _, h⟩ := bind_eq_ok h
  obtain ⟨tags, _, h⟩ := bind_eq_ok h
  obtain ⟨e, he, h⟩ := bind_eq_ok h
  obtain ⟨i, hi, h⟩ := bind_eq_ok h
  obtain ⟨r, hr, h⟩ := bind_eq_ok h
  obtain rfl := checkPlain_eq h
  exact .of_texts (checkMark_text he) (checkMark_text hi) (checkMark_text hr) rfl

end ScanOptions

/-! ## §7. What accepted settings mean. -/

namespace ScanSettings

variable {s : ScanSettings}

theorem mem_prefixes_iff {c : Char} {kind : TagKind} :
    (c, kind) ∈ s.prefixes ↔ s.mark kind = some c := by
  simp [prefixes, mem_marks_iff]

/-- Where no character selects two kinds, each selects its own. -/
theorem lookup_prefixes_iff (hdistinct : ∀ c kind kind', s.mark kind = some c →
      s.mark kind' = some c → kind = kind') {c : Char} {kind : TagKind} :
    s.prefixes.lookup c = some kind ↔ s.mark kind = some c := by
  rw [← mem_prefixes_iff]
  refine lookup_eq_some_iff_mem fun kind kind' h h' => ?_
  exact hdistinct c kind kind' (mem_prefixes_iff.mp h) (mem_prefixes_iff.mp h')

/-- Where at most one kind has no character, it is that of plain tags. -/
theorem plainKind_eq (hone : ∀ kind kind', s.mark kind = none → s.mark kind' = none → kind = kind')
    {kind : TagKind} (h : s.mark kind = none) : s.plainKind = kind := by
  unfold plainKind
  cases hfind : s.marks.find? (·.2.isNone) with
  | none =>
      have hnot := List.find?_eq_none.mp hfind _ (mem_marks_iff.mpr h)
      simp at hnot
  | some found =>
      obtain ⟨kind', mark⟩ := found
      have hnone : mark = none := by simpa using List.find?_some hfind
      exact hone kind' kind (hnone ▸ mem_marks_iff.mp (List.mem_of_find?_eq_some hfind)) h

end ScanSettings

end TagTemplate
