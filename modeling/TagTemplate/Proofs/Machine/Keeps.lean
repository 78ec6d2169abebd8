/-
  TagTemplate.Proofs.Machine.Keeps
  ────────────────────────────────
  **WHAT A COMPUTATION LEAVES ALONE.**

  A machine keeps another one if all cells and frames of that one are still
  what they were, whatever has been added (`Keeps`).  The text of a value is
  made of cells, so it stays the same if these cells exist (`Value.Within`,
  `IsSound`).

    • `shown_keeps`: the plain form of a value.
    • `escapedText_keeps`: its escaped form.
-/
import TagTemplate.Proofs.Machine.Ends

namespace TagTemplate.Machine

open Text

/-! ## §1. Machines that keep others. -/

/-- All cells and frames of a machine are in another one, with the same world around. -/
structure Keeps (m m' : Machine) : Prop where
  /-- The cells. -/
  cells : ∀ {id : Nat} {c : Cell}, m.heap[id]? = some c → m'.heap[id]? = some c
  /-- The frames. -/
  frames : ∀ {f : Nat} {fr : Frame}, m.frames[f]? = some fr → m'.frames[f]? = some fr
  /-- The environments. -/
  environments : m'.environments = m.environments
  /-- What loaders read from. -/
  surroundings : m'.surroundings = m.surroundings

namespace Keeps

variable {m m₁ m₂ : Machine}

theorem refl (m : Machine) : Keeps m m := ⟨id, id, rfl, rfl⟩

theorem trans (h₁ : Keeps m m₁) (h₂ : Keeps m₁ m₂) : Keeps m m₂ :=
  ⟨fun h => h₂.cells (h₁.cells h), fun h => h₂.frames (h₁.frames h),
    h₂.environments.trans h₁.environments, h₂.surroundings.trans h₁.surroundings⟩

theorem withCell (m : Machine) (c : Cell) : Keeps m (m.withCell c) :=
  ⟨withCell_old, id, rfl, rfl⟩

theorem withFrame (m : Machine) (fr : Frame) : Keeps m (m.withFrame fr) :=
  ⟨id, withFrame_old, rfl, rfl⟩

theorem withContext (m : Machine) (context : Option RenderContext) :
    Keeps m { m with context } := ⟨id, id, rfl, rfl⟩

/-- A cell that is not there yet may change. -/
theorem withContent (h : Keeps m m₁) {id : Nat} (hid : m.heap.size ≤ id) (c : Cell) :
    Keeps m (m₁.withContent id c) := by
  refine ⟨fun {other d} hother => withContent_other (h.cells hother) ?_, h.frames, h.environments,
    h.surroundings⟩
  have hlt := (Array.getElem?_eq_some_iff.mp hother).1
  omega

/-- So may a frame. -/
theorem withValue (h : Keeps m m₁) {f : Nat} (hf : m.frames.size ≤ f) (name : String) (v : Value) :
    Keeps m (m₁.withValue f name v) := by
  refine ⟨h.cells, fun {g fr} hg => withValue_other (h.frames hg) ?_ name v, h.environments,
    h.surroundings⟩
  have hlt := (Array.getElem?_eq_some_iff.mp hg).1
  omega

/-- What exists goes on existing. -/
theorem size_le (h : Keeps m m₁) : m.heap.size ≤ m₁.heap.size := by
  refine Nat.le_of_not_lt fun hlast => ?_
  have hcell := h.cells (Array.getElem?_eq_getElem hlast)
  exact Nat.lt_irrefl _ (Array.getElem?_eq_some_iff.mp hcell).1

theorem frames_size_le (h : Keeps m m₁) : m.frames.size ≤ m₁.frames.size := by
  refine Nat.le_of_not_lt fun hlast => ?_
  have hframe := h.frames (Array.getElem?_eq_getElem hlast)
  exact Nat.lt_irrefl _ (Array.getElem?_eq_some_iff.mp hframe).1

theorem getD (h : Keeps m m₁) {id : Nat} (hid : id < m.heap.size) :
    m₁.heap.getD id default = m.heap.getD id default := by
  have hcell : m.heap[id]? = some m.heap[id] := Array.getElem?_eq_getElem hid
  rw [Array.getD_eq_getD_getElem?, Array.getD_eq_getD_getElem?, hcell, h.cells hcell]

end Keeps

/-! ## §2. Values that exist. -/

mutual

/-- The cells that a value refers to are among the first `n`. -/
def Value.Within (n : Nat) : Value → Prop
  | .tuple items => Value.AllWithin n items
  | .ref id => id < n
  | .method self _ => self.Within n
  | _ => True

/-- So are those of several values. -/
def Value.AllWithin (n : Nat) : List Value → Prop
  | [] => True
  | v :: vs => v.Within n ∧ Value.AllWithin n vs

end

theorem Value.allWithin_iff {n : Nat} {vs : List Value} :
    Value.AllWithin n vs ↔ ∀ v ∈ vs, v.Within n := by
  induction vs with
  | nil => simp [Value.AllWithin]
  | cons v vs ih => simp [Value.AllWithin, ih]

/-- The cells that the text of a cell is made of are among the first `n`. -/
def Cell.Within (n : Nat) : Cell → Prop
  | .list items | .set items => ∀ v ∈ items.toList, v.Within n
  | .dict entries => ∀ e ∈ entries.toList, e.1.Within n ∧ e.2.Within n
  | .object _ fields => ∀ e ∈ fields, e.2.Within n
  | .html content => content.Within n
  | .error e => ∀ v ∈ e.args, v.Within n
  | .view id _ => id < n
  | _ => True

/-- All cells that the texts of cells are made of exist. -/
def IsSound (m : Machine) : Prop := ∀ c ∈ m.heap.toList, c.Within m.heap.size

theorem IsSound.getD {m : Machine} (h : IsSound m) (id : Nat) :
    (m.heap.getD id default).Within m.heap.size := by
  rw [Array.getD_eq_getD_getElem?]
  cases hcell : m.heap[id]? with
  | none =>
      intro v hv
      cases hv
  | some c => exact h c (Array.mem_toList_iff.mpr (Array.mem_of_getElem? hcell))

/-! ## §3. Their texts. -/

section Texts

variable {m m' : Machine} (hsound : IsSound m) (hkeeps : Keeps m m')
include hkeeps

theorem typeName_keeps {v : Value} (h : v.Within m.heap.size) : typeName m' v = typeName m v := by
  cases v with
  | ref id =>
      show (m'.heap.getD id default).typeName = (m.heap.getD id default).typeName
      rw [hkeeps.getD h]
  | method self name => cases self <;> rfl
  | primitive q => cases q <;> rfl
  | _ => rfl

include hsound

/-- The written form of a value. -/
theorem writtenIn_keeps : ∀ (fuel : Nat) (around : List Nat) {v : Value}, v.Within m.heap.size →
    writtenIn m' fuel around v = writtenIn m fuel around v
  | 0, _, _, _ => rfl
  | fuel + 1, around, v, h => by
      have hall : ∀ (around : List Nat) {vs : List Value}, (∀ v ∈ vs, v.Within m.heap.size) →
          vs.map (writtenIn m' fuel around) = vs.map (writtenIn m fuel around) :=
        fun around vs hvs => List.map_congr_left fun v hv => writtenIn_keeps fuel around (hvs v hv)
      cases v with
      | tuple items =>
          unfold writtenIn
          dsimp only
          rw [hall around (Value.allWithin_iff.mp h)]
      | method self name =>
          unfold writtenIn
          dsimp only
          rw [typeName_keeps hkeeps (v := self) h]
      | environment id =>
          unfold writtenIn
          dsimp only
          rw [hkeeps.environments]
      | ref id =>
          have hcell := hsound.getD id
          unfold writtenIn
          dsimp only
          rw [hkeeps.getD h]
          revert hcell
          cases m.heap.getD id default with
          | list items | set items =>
              intro hcell
              dsimp only
              rw [hall _ hcell]
          | dict entries =>
              intro hcell
              dsimp only
              congr 2
              exact List.map_congr_left fun e he => by
                rw [writtenIn_keeps fuel _ (hcell e he).1, writtenIn_keeps fuel _ (hcell e he).2]
          | error e =>
              intro hcell
              dsimp only
              split
              · rename_i a ha
                rw [writtenIn_keeps fuel _ (hcell a (ha ▸ List.mem_singleton_self a))]
              · rw [hall _ hcell]
          | view source side =>
              intro hcell
              have hsource := hsound.getD source
              dsimp only
              rw [hkeeps.getD hcell]
              revert hsource
              cases m.heap.getD source default with
              | dict entries =>
                  intro hsource
                  dsimp only
                  congr 3
                  refine List.map_congr_left fun e he => ?_
                  have hk := writtenIn_keeps fuel (id :: around) (hsource e he).1
                  have hw := writtenIn_keeps fuel (id :: around) (hsource e he).2
                  cases side <;> simp only [hk, hw]
              | _ => exact fun _ => rfl
          | object kind fields =>
              intro hcell
              cases kind with
              | options =>
                  dsimp only
                  congr 1
                  exact List.map_congr_left fun e he => by rw [writtenIn_keeps fuel _ (hcell e he)]
              | _ => rfl
          | _ => exact fun _ => rfl
      | _ => rfl

theorem written_keeps {v : Value} (h : v.Within m.heap.size) : written m' v = written m v :=
  writtenIn_keeps hsound hkeeps _ _ h

/-- The text of an error. -/
theorem errorText_keeps : ∀ (fuel : Nat) {e : Raised}, (∀ v ∈ e.args, v.Within m.heap.size) →
    errorText m' fuel e = errorText m fuel e
  | 0, _, _ => rfl
  | fuel + 1, e, h => by
      have hwritten : ∀ {v : Value}, v.Within m.heap.size → written m' v = written m v :=
        written_keeps hsound hkeeps
      unfold errorText
      split
      · rfl
      · split
        · rfl
        · split
          · rfl
          · rename_i a ha
            have hin : a.Within m.heap.size := h a (ha ▸ List.mem_singleton_self a)
            rw [hwritten hin]
            split
            · rfl
            · cases a with
              | ref id =>
                  have hcell := hsound.getD id
                  dsimp only
                  rw [hkeeps.getD hin]
                  revert hcell
                  cases m.heap.getD id default with
                  | error inner => exact fun hcell => errorText_keeps fuel hcell
                  | _ => exact fun _ => rfl
              | _ => rfl
          · rw [hwritten (v := .tuple e.args) (Value.allWithin_iff.mpr h)]

/-- **The plain form of a value stays the same.** -/
theorem shown_keeps {v : Value} (h : v.Within m.heap.size) : shown m' v = shown m v := by
  have hwritten := written_keeps hsound hkeeps h
  cases v with
  | ref id =>
      have hcell := hsound.getD id
      unfold shown
      dsimp only
      rw [hkeeps.getD h, hwritten]
      revert hcell
      cases m.heap.getD id default with
      | error e => exact fun hcell => errorText_keeps hsound hkeeps _ hcell
      | _ => exact fun _ => rfl
  | str s | markup s => rfl
  | _ => exact hwritten

end Texts

/-! ## §4. Escaped texts. -/

/-- What a value becomes where it is escaped: markup stays as it is, and an object that brings its
own markup becomes that. -/
def escapedText (m : Machine) (v : Value) : String :=
  match v with
  | .markup s => s
  | .ref id =>
    match m.heap.getD id default with
    | .html content => shown m content
    | _ => htmlEscaped (shown m v)
  | _ => htmlEscaped (shown m v)

/-- **The escaped form of a value stays the same.** -/
theorem escapedText_keeps {m m' : Machine} (hsound : IsSound m) (hkeeps : Keeps m m') {v : Value}
    (h : v.Within m.heap.size) : escapedText m' v = escapedText m v := by
  have hshown := shown_keeps hsound hkeeps h
  unfold escapedText
  cases v with
  | ref id =>
      have hcell := hsound.getD id
      dsimp only
      rw [hkeeps.getD h, hshown]
      revert hcell
      cases m.heap.getD id default with
      | html content => exact fun hcell => shown_keeps hsound hkeeps hcell
      | _ => exact fun _ => rfl
  | markup s => rfl
  | _ =>
      dsimp only
      rw [hshown]

end TagTemplate.Machine
