/-
  TagTemplate.Proofs.Render.Escaping
  ────────────────────────────────
  **WHAT ESCAPING WRITES.**

  The primitive that escapes gives a text for every value.  For a value that
  brings no markup of its own, this text is safe between tags and in quoted
  attributes, and the plain form of the value is read back from it.  So two
  values with different plain forms never look the same.

    • `bringsMarkup` — the values that are written as they are,
    • `escape_lossless` — everything else is escaped, and nothing is lost.
-/
import TagTemplate.Proofs.Render.Steps
import TagTemplate.Proofs.Text.Html

namespace TagTemplate.Machine

open Text

/-- Whether a value brings its own markup. -/
def bringsMarkup (m : Machine) : Value → Bool
  | .markup _ => true
  | .ref id =>
    match m.heap.getD id default with
    | .html _ => true
    | .object _ fields => (fields.lookup "__html__").isSome
    | _ => false
  | _ => false

/-- Without markup of its own, a value is escaped as its plain form. -/
theorem escapedText_eq {m : Machine} {v : Value} (h : bringsMarkup m v = false) :
    escapedText m v = htmlEscaped (shown m v) := by
  unfold bringsMarkup at h
  unfold escapedText
  cases v with
  | markup s => cases h
  | ref id =>
      revert h
      dsimp only
      cases m.heap.getD id default with
      | html content => exact fun h => nomatch h
      | _ => exact fun _ => rfl
  | _ => rfl

theorem escape_ends {m : Machine} {v : Value} (h : bringsMarkup m v = false) :
    Ends (callPrimitive .html [v] []) m (.str (htmlEscaped (shown m v))) m := by
  rw [← escapedText_eq h]
  exact callPrimitive_html m v

/-- **Escaping is safe and loses nothing.**  The text has no `<`, `>` or quote; every `&` in it
starts one of the five references; with the references replaced by their characters it is the plain
form of the value; and no value with another plain form is escaped to it. -/
theorem escape_lossless {m : Machine} {v : Value} (h : bringsMarkup m v = false) :
    ∃ text, Ends (callPrimitive .html [v] []) m (.str text) m
      ∧ (∀ c ∈ text.toList, c ∉ ['<', '>', '"', '\''])
      ∧ (∀ before after, text.toList = before ++ '&' :: after →
          ∃ e ∈ references, e.1.toList <+: '&' :: after)
      ∧ String.ofList (decode text.toList) = shown m v
      ∧ ∀ (m' m'' : Machine) (w : Value), bringsMarkup m' w = false → shown m' w ≠ shown m v →
          ¬ Ends (callPrimitive .html [w] []) m' (.str text) m'' := by
  have hread : ∀ s : String, String.ofList (decode (htmlEscaped s).toList) = s := by
    intro s
    rw [htmlEscaped, String.toList_ofList, decode_htmlEscape, String.ofList_toList]
  refine ⟨htmlEscaped (shown m v), escape_ends h, ?_, fun before after hat => ?_, hread _, ?_⟩
  · rw [htmlEscaped, String.toList_ofList]
    exact htmlEscape_safe _
  · rw [htmlEscaped, String.toList_ofList] at hat
    exact htmlEscape_references _ hat
  · intro m' m'' w hw hne hsame
    obtain ⟨heq, _⟩ := hsame.unique (escape_ends hw)
    injection heq with heq
    refine hne ?_
    rw [← hread (shown m' w), ← heq, hread]

/-- A mapping that holds markup and a reference. -/
theorem escape_lossless_mapping :
    let m : Machine := { heap := #[.dict #[(.str "a", .str "<b>"), (.str "c", .str "&lt;")]] }
    bringsMarkup m (.ref 0) = false
      ∧ ∃ text, Ends (callPrimitive .html [.ref 0] []) m (.str text) m
        ∧ (∀ c ∈ text.toList, c ∉ ['<', '>', '"', '\''])
        ∧ (∀ before after, text.toList = before ++ '&' :: after →
            ∃ e ∈ references, e.1.toList <+: '&' :: after)
        ∧ String.ofList (decode text.toList) = shown m (.ref 0)
        ∧ ∀ (m' m'' : Machine) (w : Value), bringsMarkup m' w = false → shown m' w ≠ shown m (.ref 0) →
            ¬ Ends (callPrimitive .html [w] []) m' (.str text) m'' :=
  ⟨rfl, escape_lossless rfl⟩

end TagTemplate.Machine
