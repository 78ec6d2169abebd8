/-
  TagTemplate.Proofs.Text.Sequences
  ────────────────────────────────
  **COLOUR SEQUENCES IN A TEXT.**

  A terminal goes through a text once, from left to right.  An escape
  character with a bracket, parameters and an `m` behind it sets a style and
  shows nothing; every other character is shown as it is (`effects`).  What
  is left without the sequences is `uncolored`.

  A part of a text may be looked at alone if it does the same in front of any
  other text (`Does`).  Texts without an escape character and whole sequences
  are such parts, and so is what is put together from them.

    • `Does.append` — one part after another,
    • `Decorates.append`, `Decorates.lines` — decorated texts put together,
    • `Decorates.isDecorated` — what this means for a whole text.
-/
import Mathlib.Data.List.Forall2

namespace TagTemplate.Text

/-! ## §1. What a terminal does. -/

/-- The character that every sequence starts with. -/
def escapeMark : Char := '\x1b'

/-- A text that has no escape character. -/
def IsEscapeFree (text : String) : Prop := escapeMark ∉ text.toList

instance (text : String) : Decidable (IsEscapeFree text) :=
  inferInstanceAs (Decidable (escapeMark ∉ text.toList))

theorem isEscapeFree_append {text more : String} :
    IsEscapeFree (text ++ more) ↔ IsEscapeFree text ∧ IsEscapeFree more := by
  unfold IsEscapeFree
  rw [String.toList_append, List.mem_append, not_or]

/-- A character of the parameters of a sequence. -/
def isParameter (c : Char) : Bool := c.isDigit || c == ';'

/-- The parameters of the sequence that a text starts with, and the text behind the sequence. -/
def sequence? : List Char → Option (List Char × List Char)
  | '\x1b' :: '[' :: s =>
    match s.dropWhile isParameter with
    | 'm' :: rest => some (s.takeWhile isParameter, rest)
    | _ => none
  | _ => none

theorem sequence?_length {s rest parameters : List Char}
    (h : sequence? s = some (parameters, rest)) : rest.length < s.length := by
  unfold sequence? at h
  split at h
  next s =>
    split at h
    next hdrop =>
      cases h
      have hle := (List.dropWhile_suffix isParameter (l := s)).length_le
      rw [hdrop, List.length_cons] at hle
      simp only [List.length_cons]
      omega
    next => cases h
  next => cases h

/-- Something that a terminal does. -/
inductive Effect where
  /-- It shows a character. -/
  | shows (c : Char)
  /-- It sets a style. -/
  | sets (parameters : List Char)
  deriving DecidableEq

/-- What a terminal does with a text. -/
def effects : List Char → List Effect
  | [] => []
  | c :: s =>
    match _h : sequence? (c :: s) with
    | some (parameters, rest) => .sets parameters :: effects rest
    | none => .shows c :: effects s
termination_by s => s.length
decreasing_by
  · exact sequence?_length ‹_›
  · exact Nat.lt_succ_self _

theorem effects_sequence {s rest parameters : List Char}
    (h : sequence? s = some (parameters, rest)) : effects s = .sets parameters :: effects rest := by
  cases s with
  | nil => cases h
  | cons c s =>
      rw [effects]
      split <;> simp_all

theorem effects_other {s : List Char} {c : Char} (h : sequence? (c :: s) = none) :
    effects (c :: s) = .shows c :: effects s := by
  rw [effects]
  split <;> simp_all

/-- The character that is shown. -/
def Effect.shown? : Effect → Option Char
  | .shows c => some c
  | .sets _ => none

/-- A text with every sequence deleted. -/
def uncolored (s : List Char) : List Char := (effects s).filterMap Effect.shown?

/-- Whether parameters take all styles back. -/
def isReset (parameters : List Char) : Bool := parameters == ['0'] || parameters == []

/-- Whether every style that is set is taken back before the next one is set, and the last one in
the end; `styled` says that a style is in force. -/
def areReset (styled : Bool) : List Effect → Bool
  | [] => !styled
  | .shows _ :: es => areReset styled es
  | .sets parameters :: es =>
    if isReset parameters then areReset false es else !styled && areReset true es

theorem areReset_append {es : List Effect} {styled : Bool} (h : areReset styled es = true)
    (more : List Effect) : areReset styled (es ++ more) = areReset false more := by
  induction es generalizing styled with
  | nil =>
      obtain rfl : styled = false := by simpa [areReset] using h
      rfl
  | cons e es ih =>
      cases e with
      | shows c => exact ih h
      | sets parameters =>
          unfold areReset at h
          rw [List.cons_append, areReset]
          split at h
          next hreset => rw [if_pos hreset, ih h]
          next hopens =>
            rw [Bool.and_eq_true] at h
            rw [if_neg hopens, h.1, ih h.2, Bool.true_and]

theorem areReset_shows (text : List Char) (styled : Bool) (es : List Effect) :
    areReset styled (text.map .shows ++ es) = areReset styled es := by
  induction text with
  | nil => rfl
  | cons c text ih => exact ih

theorem filterMap_shows (text : List Char) :
    (text.map Effect.shows).filterMap Effect.shown? = text := by
  rw [List.filterMap_map]
  exact List.filterMap_some

/-! ## §2. Parts of a text. -/

/-- A part of a text, whatever comes behind it. -/
def Does (text : List Char) (es : List Effect) : Prop := ∀ s, effects (text ++ s) = es ++ effects s

namespace Does

variable {text more : List Char} {es es' : List Effect}

theorem nil : Does [] [] := fun _ => rfl

theorem append (h : Does text es) (h' : Does more es') : Does (text ++ more) (es ++ es') := by
  intro s
  rw [List.append_assoc, h, h', List.append_assoc]

/-- A character that starts no sequence is shown. -/
theorem char {c : Char} (h : c ≠ escapeMark) : Does [c] [.shows c] := by
  intro s
  refine effects_other ?_
  unfold sequence?
  split
  next heq => exact absurd (List.cons.inj heq).1 h
  next => rfl

/-- A text without an escape character is shown as it is. -/
theorem free (h : escapeMark ∉ text) : Does text (text.map .shows) := by
  induction text with
  | nil => exact nil
  | cons c text ih =>
      rw [List.mem_cons, not_or] at h
      exact (char (Ne.symm h.1)).append (ih h.2)

/-- A sequence sets a style. -/
theorem sequence {parameters : List Char} (h : parameters.all isParameter = true) :
    Does (escapeMark :: '[' :: parameters ++ ['m']) [.sets parameters] := by
  intro s
  rw [List.all_eq_true] at h
  have hdrop : (parameters ++ 'm' :: s).dropWhile isParameter = 'm' :: s := by
    rw [List.dropWhile_append_of_pos h]
    rfl
  have htake : (parameters ++ 'm' :: s).takeWhile isParameter = parameters := by
    rw [List.takeWhile_append_of_pos h]
    exact List.append_nil parameters
  have hshape : escapeMark :: '[' :: parameters ++ ['m'] ++ s
      = escapeMark :: '[' :: (parameters ++ 'm' :: s) := by
    simp
  rw [hshape]
  refine effects_sequence ?_
  simp only [escapeMark, sequence?, hdrop, htake]

end Does

/-! ## §3. Decorated texts. -/

/-- A text that may depend on whether there are colours is decorated by them: without the sequences
the one with colours is the one without, and every style is taken back before the next one is
set. -/
def IsDecorated (text : Bool → String) : Prop :=
  String.ofList (uncolored (text true).toList) = text false
    ∧ areReset false (effects (text true).toList) = true

/-- A part of a text decorates another one. -/
def Decorates (colored plain : String) : Prop :=
  ∃ es, Does colored.toList es ∧ es.filterMap Effect.shown? = plain.toList
    ∧ areReset false es = true

namespace Decorates

variable {colored plain colored' plain' text : String}

/-- **What decorated parts come to.** -/
theorem isDecorated (text : Bool → String) (h : Decorates (text true) (text false)) :
    IsDecorated text := by
  obtain ⟨es, hdoes, hshown, hreset⟩ := h
  have heffects : effects (text true).toList = es := by
    have hwhole := hdoes []
    rw [List.append_nil, effects, List.append_nil] at hwhole
    exact hwhole
  unfold IsDecorated uncolored
  rw [heffects, hshown, String.ofList_toList]
  exact ⟨rfl, hreset⟩

theorem append (h : Decorates colored plain) (h' : Decorates colored' plain') :
    Decorates (colored ++ colored') (plain ++ plain') := by
  obtain ⟨es, hdoes, hshown, hreset⟩ := h
  obtain ⟨es', hdoes', hshown', hreset'⟩ := h'
  refine ⟨es ++ es', ?_, ?_, ?_⟩
  · rw [String.toList_append]
    exact hdoes.append hdoes'
  · rw [List.filterMap_append, hshown, hshown', String.toList_append]
  · rw [areReset_append hreset, hreset']

/-- A text without an escape character has no sequences. -/
theorem free (h : IsEscapeFree text) : Decorates text text := by
  refine ⟨_, Does.free h, filterMap_shows _, ?_⟩
  rw [← List.append_nil (text.toList.map _), areReset_shows]
  rfl

/-- A text between a sequence that sets a style and one that takes it back. -/
theorem styled {parameters : String} (hparameters : parameters.toList.all isParameter = true)
    (hopens : isReset parameters.toList = false) (h : IsEscapeFree text) :
    Decorates ("\x1b[" ++ parameters ++ "m" ++ text ++ "\x1b[0m") text := by
  refine ⟨.sets parameters.toList :: text.toList.map .shows ++ [.sets ['0']], ?_, ?_, ?_⟩
  · have hclose : Does (escapeMark :: '[' :: ['0'] ++ ['m']) [.sets ['0']] :=
      Does.sequence (by decide)
    have hall := ((Does.sequence hparameters).append (Does.free h)).append hclose
    simpa [escapeMark] using hall
  · rw [List.cons_append, List.filterMap_cons_none rfl, List.filterMap_append, filterMap_shows]
    exact List.append_nil _
  · rw [List.cons_append, areReset, hopens, if_neg Bool.false_ne_true, areReset_shows]
    rfl

/-- Decorated lines are a decorated text. -/
theorem lines {ls ls' : List String} (h : List.Forall₂ Decorates ls ls') :
    Decorates ("\n".intercalate ls) ("\n".intercalate ls') := by
  induction h with
  | nil => exact free (by decide)
  | @cons l l' ls ls' hline hrest ih =>
      cases hrest with
      | nil => simpa using hline
      | cons hnext hrest =>
          rw [String.intercalate_cons_cons, String.intercalate_cons_cons]
          exact (hline.append (free (by decide))).append ih

end Decorates

end TagTemplate.Text
