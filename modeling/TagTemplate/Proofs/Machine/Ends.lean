/-
  TagTemplate.Proofs.Machine.Ends
  ────────────────────────────────
  **COMPUTATIONS THAT END WITH A VALUE.**

  `Ends x m a m'` says that on the machine `m` the computation `x` ends with
  `a` and leaves the machine `m'`.  What a computation does to a machine is a
  chain of four changes:

      withCell     — one more cell
      withContent  — something else in a cell
      withFrame    — one more frame
      withValue    — a value for a variable
-/
import TagTemplate.Machine.Call
import TagTemplate.Proofs.Render.Nesting

namespace TagTemplate.Machine

open Script

/-! ## §1. Changes of a machine. -/

/-- The machine with one more cell. -/
def withCell (m : Machine) (c : Cell) : Machine := { m with heap := m.heap.push c }

/-- The machine with something else in a cell. -/
def withContent (m : Machine) (id : Nat) (c : Cell) : Machine :=
  { m with heap := m.heap.modify id fun _ => c }

/-- The machine with one more frame. -/
def withFrame (m : Machine) (fr : Frame) : Machine := { m with frames := m.frames.push fr }

/-- The machine with a value for a variable of a frame. -/
def withValue (m : Machine) (f : Nat) (name : String) (v : Value) : Machine :=
  { m with frames := m.frames.modify f fun fr => { fr with vars := withVar fr.vars name v } }

section Cells

variable {m : Machine} {c d : Cell} {id other : Nat}

/-- The new cell. -/
theorem withCell_new : (m.withCell c).heap[m.heap.size]? = some c := Array.getElem?_push_size

/-- A cell that was there stays. -/
theorem withCell_old (h : m.heap[id]? = some d) : (m.withCell c).heap[id]? = some d := by
  obtain ⟨hlt, hcell⟩ := Array.getElem?_eq_some_iff.mp h
  exact (Array.getElem?_push_lt hlt).trans (congrArg some hcell)

theorem withCell_size : (m.withCell c).heap.size = m.heap.size + 1 := Array.size_push _

/-- The cell that changes. -/
theorem withContent_same (h : m.heap[id]? = some d) :
    (m.withContent id c).heap[id]? = some c := by
  show (m.heap.modify id fun _ => c)[id]? = _
  rw [Array.getElem?_modify, if_pos rfl, h]
  rfl

/-- Any other cell stays. -/
theorem withContent_other (h : m.heap[other]? = some d) (hne : id ≠ other) :
    (m.withContent id c).heap[other]? = some d := by
  show (m.heap.modify id fun _ => c)[other]? = _
  rw [Array.getElem?_modify, if_neg hne, h]

end Cells

section Frames

variable {m : Machine} {fr other : Frame} {f g : Nat}

/-- The new frame. -/
theorem withFrame_new : (m.withFrame fr).frames[m.frames.size]? = some fr :=
  Array.getElem?_push_size

/-- A frame that was there stays. -/
theorem withFrame_old (h : m.frames[f]? = some other) :
    (m.withFrame fr).frames[f]? = some other := by
  obtain ⟨hlt, hframe⟩ := Array.getElem?_eq_some_iff.mp h
  exact (Array.getElem?_push_lt hlt).trans (congrArg some hframe)

/-- The frame of the variable. -/
theorem withValue_same (h : m.frames[f]? = some fr) (name : String) (v : Value) :
    (m.withValue f name v).frames[f]? = some { fr with vars := withVar fr.vars name v } := by
  show (m.frames.modify f _)[f]? = _
  rw [Array.getElem?_modify, if_pos rfl, h]
  rfl

/-- Any other frame stays. -/
theorem withValue_other (h : m.frames[g]? = some other) (hne : f ≠ g) (name : String) (v : Value) :
    (m.withValue f name v).frames[g]? = some other := by
  show (m.frames.modify f _)[g]? = _
  rw [Array.getElem?_modify, if_neg hne, h]

end Frames

/-- A variable has the value it is given, and the others keep theirs. -/
theorem lookup_withVar (vars : List (String × Value)) (name other : String) (v : Value) :
    (withVar vars name v).lookup other
      = if other == name then some v else vars.lookup other := by
  induction vars with
  | nil =>
      rw [withVar, List.lookup_cons]
      cases other == name <;> rfl
  | cons entry rest ih =>
      obtain ⟨n, w⟩ := entry
      rw [withVar]
      cases hn : n == name with
      | true =>
          rw [beq_iff_eq.mp hn, if_pos rfl, List.lookup_cons, List.lookup_cons]
          cases other == name <;> rfl
      | false =>
          rw [if_neg (by simp), List.lookup_cons, List.lookup_cons, ih]
          cases hother : other == n with
          | false => rfl
          | true => rw [beq_iff_eq.mp hother, hn]; rfl

/-! ## §2. Computations in a row. -/

/-- A computation ends with a value and leaves a machine. -/
def Ends {α : Type} (x : Eval α) (m : Machine) (a : α) (m' : Machine) : Prop :=
  x.run m = (.ok a, m')

section Ends

variable {α β : Type} {m m₁ m₂ : Machine} {a : α} {b : β}

theorem Ends.pure : Ends (Pure.pure a) m a m := rfl

theorem Ends.get : Ends MonadState.get m m m := rfl

theorem Ends.bind {x : Eval α} {f : α → Eval β} (hx : Ends x m a m₁) (hf : Ends (f a) m₁ b m₂) :
    Ends (x >>= f) m b m₂ := (run_bind_ok hx f).trans hf

/-- What runs as something else on another machine does so before anything. -/
theorem run_bind_congr {x y : Eval α} (h : x.run m = y.run m₁) (f : α → Eval β) :
    (x >>= f).run m = (y >>= f).run m₁ := by
  show ExceptT.bindCont f (x.run m).1 (x.run m).2 = _
  rw [h]
  rfl

/-- A computation that ends with a value has parts that do. -/
theorem Ends.of_bind {x : Eval α} {f : α → Eval β}
    (h : Ends (x >>= f) m b m₂) : ∃ a m₁, Ends x m a m₁ ∧ Ends (f a) m₁ b m₂ := by
  obtain ⟨r, m₁, hx⟩ : ∃ r m₁, x.run m = (r, m₁) := ⟨_, _, rfl⟩
  cases r with
  | ok a => exact ⟨a, m₁, hx, (run_bind_ok hx f).symm.trans h⟩
  | error e =>
      have hrun : ((.error e, m₁) : Except Signal β × Machine) = (.ok b, m₂) :=
        (run_bind_error hx f).symm.trans h
      cases congrArg Prod.fst hrun

/-- A computation that ends with a value has it as its outcome. -/
theorem Ends.outcome {x : Eval α} (h : Ends x m a m₁) : Ends (outcome x) m (.ok a) m₁ := by
  show (Except.ok (x.run m).1, (x.run m).2) = _
  rw [show x.run m = (.ok a, m₁) from h]

theorem Ends.withoutStop {x : Eval α} (h : Ends x m a m₁) : Ends (withoutStop x) m a m₁ :=
  Ends.bind h.outcome .pure

theorem Ends.alloc (c : Cell) : Ends (alloc c) m m.heap.size (m.withCell c) := rfl

theorem Ends.new (c : Cell) : Ends (new c) m (.ref m.heap.size) (m.withCell c) := rfl

theorem Ends.setCell {id : Nat} {c : Cell} (h : m.heap[id]? = some c) (g : Cell → Cell) :
    Ends (setCell id g) m () (m.withContent id (g c)) := by
  have hheap : m.heap.modify id g = m.heap.modify id fun _ => g c := by
    refine Array.ext_getElem? fun i => ?_
    rw [Array.getElem?_modify, Array.getElem?_modify]
    split
    · subst i; rw [h]; rfl
    · rfl
  show (Except.ok (), ({ m with heap := m.heap.modify id g } : Machine)) = _
  rw [hheap]
  rfl

theorem Ends.cell {id : Nat} {c : Cell} (h : m.heap[id]? = some c) : Ends (cell id) m c m := by
  have hget : m.heap.getD id default = c := by
    rw [Array.getD_eq_getD_getElem?, h]
    rfl
  show (Except.ok (m.heap.getD id default), m) = _
  rw [hget]

theorem Ends.cellOf {id : Nat} {c : Cell} (h : m.heap[id]? = some c) :
    Ends (cellOf? (.ref id)) m (some c) m := Ends.bind (Ends.cell h) .pure

theorem Ends.frame {f : Nat} {fr : Frame} (h : m.frames[f]? = some fr) :
    Ends (frame f) m fr m := by
  have hget : m.frames.getD f default = fr := by
    rw [Array.getD_eq_getD_getElem?, h]
    rfl
  show (Except.ok (m.frames.getD f default), m) = _
  rw [hget]

/-- An attribute of an object. -/
theorem Ends.getMember_object {id : Nat} {kind : ObjectKind} {fields : List (String × Value)}
    (h : m.heap[id]? = some (.object kind fields)) {name : String} {v : Value}
    (hv : fields.lookup name = some v) : Ends (getMember (.ref id) name) m v m := by
  have hattributes : Ends (attributesOf (.ref id)) m fields m := Ends.bind (Ends.cellOf h) .pure
  refine Ends.bind hattributes ?_
  rw [hv]
  exact .pure

/-- A member that a list of attributes does not have, but a list of methods. -/
theorem Ends.getMember_method {v : Value} {name : String} {attributes : List (String × Value)}
    {methods : List String} (hattributes : Ends (attributesOf v) m attributes m)
    (hmethods : Ends (methodsOf v) m methods m) (hnone : attributes.lookup name = none)
    (hname : methods.contains name = true) : Ends (getMember v name) m (.method v name) m := by
  refine Ends.bind hattributes ?_
  rw [hnone]
  refine Ends.bind hmethods ?_
  rw [hname]
  exact .pure

end Ends

/-! ## §3. Calls. -/

section Calls

variable {p : Powers} {f : Nat} {func : Expr} {m m₁ m₂ m₃ : Machine} {v w u : Value}

/-- A call without arguments. -/
theorem Ends.call_nil (hf : Ends (expr p f func) m v m₁) (hc : Ends (p.call v [] []) m₁ w m₂) :
    Ends (expr p f (.call func [] [])) m w m₂ :=
  Ends.bind hf (Ends.bind .pure (Ends.bind .pure hc))

/-- A call with one argument. -/
theorem Ends.call_one {e : Expr} (hstar : Machine.isStarred e = false)
    (hf : Ends (expr p f func) m v m₁) (he : Ends (expr p f e) m₁ u m₂)
    (hc : Ends (p.call v [u] []) m₂ w m₃) : Ends (expr p f (.call func [e] [])) m w m₃ := by
  have helements : Ends (elementsOf p f [e]) m₁ [u] m₂ := by
    cases e with
    | starred => cases hstar
    | _ => exact Ends.bind he (Ends.bind .pure .pure)
  cases e with
  | starred => cases hstar
  | _ => exact Ends.bind hf (Ends.bind helements (Ends.bind .pure hc))

end Calls

/-! ## §4. Elements. -/

section Elements

variable {m : Machine}

/-- All elements of a list. -/
theorem drain_list {id : Nat} {all : Array Value} (h : m.heap[id]? = some (.list all)) :
    Ends (Walk.drain (.list id 0)) m all.toList m := by
  unfold Walk.drain depthLimit drainIn
  exact Ends.bind (Ends.cell h) .pure

/-- Texts are joined. -/
theorem joinTexts_ends (sep : String) (texts : List String) :
    Ends (joinTexts sep (texts.map .str)) m (.str (sep.intercalate texts)) m := by
  refine Ends.bind (a := texts) ?_ .pure
  generalize 0 = k
  induction texts generalizing k with
  | nil => exact .pure
  | cons t texts ih =>
      rw [List.map_cons, List.zipIdx_cons, List.mapM_cons]
      exact Ends.bind .pure (Ends.bind (ih (k + 1)) .pure)

end Elements

end TagTemplate.Machine
