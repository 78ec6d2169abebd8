/-
  TagTemplate.Proofs.Render.Asking
  ────────────────────────────────
  **HOW THE LINES OF A TEMPLATE ASK FOR ANOTHER ONE.**

  The functions that a template may call were defined in its render function
  before its lines started.  Those that ask for a template have the
  environment render it; the one that asks for a layout writes down which one,
  and with what data.  Neither closes the books of a render (`Spares`).

    • `Asked.run`: asking for a template is its render, on a machine with one
      frame more.
    • `layout_ends`: asking for a layout changes the books.
-/
import TagTemplate.Proofs.Machine.Mapping
import TagTemplate.Proofs.Render.Start

namespace TagTemplate

open Script Machine

namespace RenderFunction

/-! ## §1. Renders that stay underway. -/

/-- **What the lines of a template leave alone**: every render that is underway stays underway, with
the options of its template, in the same context and in the same world. -/
structure Spares (m m' : Machine) : Prop where
  renders : ∀ {s : Stage} {b : Books} {items : Array Value}, Underway s b items m →
    ∃ b' items', Underway s b' items' m'
  options : ∀ {id : Nat} {fields : List (String × Value)},
    m.heap[id]? = some (.object .options fields) → m'.heap[id]? = some (.object .options fields)
  context : m'.context = m.context
  environments : m'.environments = m.environments
  surroundings : m'.surroundings = m.surroundings

section Spares

variable {m m₁ m₂ m' : Machine} {s : Stage} {b b' : Books} {items news : Array Value}

theorem Spares.trans (h₁ : Spares m m₁) (h₂ : Spares m₁ m₂) : Spares m m₂ where
  renders h := by
    obtain ⟨b, items, h⟩ := h₁.renders h
    exact h₂.renders h
  options h := h₂.options (h₁.options h)
  context := h₂.context.trans h₁.context
  environments := h₂.environments.trans h₁.environments
  surroundings := h₂.surroundings.trans h₁.surroundings

/-- What is added does no harm. -/
theorem Spares.ofKeeps (h : Keeps m m') (hcontext : m'.context = m.context) : Spares m m' where
  renders h' := ⟨_, _, h'.keeps h⟩
  options := h.cells
  context := hcontext
  environments := h.environments
  surroundings := h.surroundings

theorem Spares.refl (m : Machine) : Spares m m := .ofKeeps (.refl m) rfl

/-- A render inside of another one: what it adds before its lines start does no harm, and the context
before it is back behind it. -/
theorem Spares.inside (h : Keeps m m₁) (h₁ : Spares m₁ m₂) :
    Spares m { m₂ with context := m.context } where
  renders h' := by
    obtain ⟨b, items, h'⟩ := h₁.renders (h'.keeps h)
    exact ⟨b, items, h'.withContext _⟩
  options h' := h₁.options (h.cells h')
  context := rfl
  environments := h₁.environments.trans h.environments
  surroundings := h₁.surroundings.trans h.surroundings

/-- The books of a render may change. -/
theorem Underway.withBooks_spares (h : Underway s b items m) (hb : b'.output = b.output) :
    Spares m (m.withContent s.state (.object .state b'.fields)) where
  renders {t c others} ht := by
    by_cases hsame : t.state = s.state
    · have hfields : c.fields = b.fields := by
        have hcell := ht.state
        rw [hsame, h.state] at hcell
        injection hcell with hcell
        injection hcell with _ hfields
        exact hfields.symm
      have houtput : b'.output = c.output := by
        have hmember := congrArg (List.lookup "res") hfields
        injection hmember with hmember
        injection hmember with hmember
        rw [hb, hmember]
      exact ⟨b', others, hsame ▸ ht.withBooks houtput⟩
    · obtain ⟨vars, hat, hvars⟩ := ht.frame
      have hother : s.state ≠ c.output := by
        intro heq
        have hcell := ht.output
        rw [← heq, h.state] at hcell
        cases hcell
      exact ⟨c, others, ⟨vars, hat.withContent _ _,
        hvars.keeps (closure_withContent h.state (by simp))⟩,
        withContent_other ht.state (Ne.symm hsame), withContent_other ht.output hother⟩
  options h' := by
    refine withContent_other h' ?_
    rintro rfl
    rw [h.state] at h'
    cases h'
  context := rfl
  environments := rfl
  surroundings := rfl

/-- So may its output. -/
theorem Underway.withOutput_spares (h : Underway s b items m) (news : Array Value) :
    Spares m (m.withContent b.output (.list news)) where
  renders {t c others} ht := by
    obtain ⟨vars, hat, hvars⟩ := ht.frame
    have hstate : b.output ≠ t.state := by
      intro heq
      have hcell := ht.state
      rw [← heq, h.output] at hcell
      cases hcell
    by_cases hsame : b.output = c.output
    · exact ⟨c, news, hsame ▸ ht.withOutput news⟩
    · exact ⟨c, others, ⟨vars, hat.withContent _ _,
        hvars.keeps (closure_withContent h.output (by simp))⟩,
        withContent_other ht.state hstate, withContent_other ht.output hsame⟩
  options h' := by
    refine withContent_other h' ?_
    rintro rfl
    rw [h.output] at h'
    cases h'
  context := rfl
  environments := rfl
  surroundings := rfl

end Spares

/-! ## §2. Calls of functions that the render function defines. -/

/-- A name of the render function has a value. -/
def Stage.Holds (s : Stage) (name : String) (v : Value) (m : Machine) : Prop :=
  ∃ vars, s.toSite.At vars m ∧ vars.lookup name = some v

/-- The arguments of a function that needs one of them: both, or the first. -/
inductive Passes : List Value → Value → Value → Prop where
  | both {v w : Value} : Passes [v, w] v w
  | first {v : Value} : Passes [v] v .none

/-- The variables of such a function. -/
def variablesOf (ps : Parameters) (v w : Value) : List (String × Value) :=
  [(ps.first.text, v), (ps.second.text, w)]

section Functions

variable {s : Stage} {b : Books} {items : Array Value} {m : Machine} {name : Ident}
  {ps : Parameters} {body : Suite} {args : List Value} {f v w : Value}

theorem Stage.Holds.of_at {vars : List (String × Value)} (h : s.Holds name.text f m)
    (hat : s.toSite.At vars m) : vars.lookup name.text = some f := by
  obtain ⟨vars', hat', hname⟩ := h
  have hframe := hat.frame
  rw [hat'.frame] at hframe
  injection hframe with hframe
  injection hframe with hvars
  rw [← hvars]
  exact hname

/-- A frame of a call of such a function. -/
structure CallFrame (s : Stage) (ps : Parameters) (v w : Value) (g : Nat) (fr : Frame)
    (m : Machine) : Prop where
  inside : Inside s.toSite g fr m
  vars : fr.vars = variablesOf ps v w
  locals : ∀ name, fr.locals.contains name = [ps.first.text, ps.second.text].contains name

theorem CallFrame.keeps {g : Nat} {fr : Frame} {m' : Machine} (h : CallFrame s ps v w g fr m)
    (hframes : m'.frames = m.frames) : CallFrame s ps v w g fr m' :=
  { h with inside := { h.inside with frame := by rw [hframes]; exact h.inside.frame } }

theorem CallFrame.readFirst {g : Nat} {fr : Frame} (h : CallFrame s ps v w g fr m) :
    Ends (readName ps.first.text g) m v m :=
  readName_own h.inside.frame (by rw [h.locals]; simp) (by rw [h.vars]; simp [variablesOf])

theorem CallFrame.readSecond {g : Nat} {fr : Frame} (h : CallFrame s ps v w g fr m) :
    Ends (readName ps.second.text g) m w m := by
  refine readName_own h.inside.frame (by rw [h.locals]; simp) ?_
  have hother : (ps.second.text == ps.first.text) = false := by
    rw [BEq.comm]
    exact ps.distinct
  rw [h.vars]
  simp [variablesOf, List.lookup_cons, hother]

/-- A call of such a function runs its body in a frame of its own. -/
theorem Defines.call {vars : List (String × Value)}
    (h : Defines s.toSite name ps body vars m) (hf : vars.lookup name.text = some f)
    (hat : s.toSite.At vars m) (hspare : ps.spare = true) (hbinders : body.binders = [])
    (hplain : ∀ line, (Effects.block (body.lines line)).yields = false)
    (hargs : Passes args v w) (n : Nat) :
    ∃ id c line, f = .ref id ∧ m.heap[id]? = some (.closure c) ∧ c.body = .block (body.lines line)
      ∧ CallFrame s ps v w m.frames.size (c.frameOf (variablesOf ps v w) s.top)
          (m.withFrame (c.frameOf (variablesOf ps v w) s.top))
      ∧ ((powers (n + 1)).call f args []).run m = (runBody (powers n) c m.frames.size).run
          (m.withFrame (c.frameOf (variablesOf ps v w) s.top)) := by
  obtain ⟨id, line, hname, hcell⟩ := h
  obtain rfl : Value.ref id = f := Option.some.inj (hname.symm.trans hf)
  let c := closureIn s.here (s.path ++ ".<locals>." ++ name.text) false name ps body line
  have hdefaults : c.defaults = [(ps.second.text, .none)] := by
    show (if ps.spare then _ else _) = _
    rw [hspare, if_pos rfl]
  have hbind : Ends (bindArguments c args []) m (variablesOf ps v w) m := by
    cases hargs with
    | both => exact bindArguments_two rfl (by rw [hdefaults, hspare, if_pos rfl])
    | first => exact bindArguments_spare rfl hdefaults
  have hnames := namesOfFunction_suite ps body line
  have hcall : ((powers (n + 1)).call (.ref id) args []).run m
      = (callClosure (powers n) c args []).run m := run_bind_ok (Ends.cellOf hcell) _
  refine ⟨id, c, line, rfl, hcell, rfl, ⟨⟨withFrame_new, ?_, rfl, hnames.1⟩, rfl, ?_⟩,
    hcall.trans (callClosure_run hbind (hplain line) hat.frame _)⟩
  · exact (Array.getElem?_eq_some_iff.mp hat.frame).1
  · intro name
    show (namesOfFunction ps.trees (.block (body.lines line))).own.contains name = _
    rw [hnames.2, hbinders, List.append_nil]

end Functions

/-! ## §3. Asking for a template. -/

/-- The function by which a template asks for another one. -/
def inclusionName (isAsync : Bool) : Ident := if isAsync then includeAsyncName else includeName

/-- How deep calls may nest in the render that is asked for. -/
def askLevel (isAsync : Bool) (n : Nat) : Nat := if isAsync then n + 1 else n

/-- **The machine on which the environment is asked for a template**, when a render asks for it on
another one by a function. -/
structure Asked (isAsync : Bool) (s : Stage) (m : Machine) (wanted data f : Value) (m₁ : Machine) :
    Prop where
  holds : s.Holds (inclusionName isAsync).text f m
  frame : ∃ id c, f = .ref id ∧ m.heap[id]? = some (.closure c)
    ∧ m₁ = atCall isAsync m (c.frameOf (variablesOf inclusionParameters wanted data) s.top)

section Asking

variable {s : Stage} {b : Books} {items : Array Value} {m m₁ : Machine} {isAsync : Bool}
  {args : List Value} {f wanted data : Value}

theorem Asked.keeps (h : Asked isAsync s m wanted data f m₁) :
    Keeps m m₁ ∧ m₁.context = m.context := by
  obtain ⟨id, c, _, _, rfl⟩ := h.frame
  exact ⟨.atCall _ _ _, atCall_context _ _ _⟩

theorem argumentsFor_render (path : String) (u v w : Value) :
    Ends (argumentsFor path ["template", "data", "options"] 1 [u, v, w] []) m [u, v, w] m := by
  unfold argumentsFor bindArguments Closure.paramsOf
  simp [Ends, paramKind, paramName, bindKeywords, List.lookup_cons]
  rfl

/-- The body of a function that asks calls a method of the environment. -/
theorem inclusionBody_run {c : Closure} {fr : Frame} {g line : Nat} {method : Ident}
    (hbody : c.body = .block ((inclusionBody method).lines line))
    (hmethod : environmentMethods.contains method.text = true)
    (hother : ["TemplateError", "max_include_depth", "escape", "filter"].contains method.text = false)
    (hframe : CallFrame s inclusionParameters wanted data g fr m) (h : Underway s b items m)
    (p : Powers) :
    (runBody p c g).run m
      = (p.call (.method (.environment s.environment) method.text) [wanted, data, s.options] []).run
        m := by
  obtain ⟨vars, hat, hvars⟩ := h.frame
  have hfree : ∀ name, ["__kiln_name", "__kiln_data"].contains name = false →
      fr.locals.contains name = false := fun name hname => (hframe.locals name).trans hname
  have hfunction : Ends (expr p g (.attribute (.name "__kiln_env" .load) method.text)) m
      (.method (.environment s.environment) method.text) m :=
    Ends.bind (hframe.inside.readName_environment hat (hfree _ (by decide)))
      (getMember_environment hat.shared hmethod hother)
  have hoptions : Ends (readName "options" g) m s.options m :=
    hframe.inside.readName_around hat (hfree _ (by decide)) (s.owns _ (by decide)) hvars.options
  have hargs : Ends (elementsOf p g
      [.name "__kiln_name" .load, .name "__kiln_data" .load, .name "options" .load]) m
      [wanted, data, s.options] m :=
    Ends.bind hframe.readFirst (Ends.bind (Ends.bind hframe.readSecond
      (Ends.bind (Ends.bind hoptions (Ends.bind .pure .pure)) .pure)) .pure)
  have hcall : (expr p g (.call (.attribute (.name "__kiln_env" .load) method.text)
      [.name "__kiln_name" .load, .name "__kiln_data" .load, .name "options" .load] [])).run m
      = (p.call (.method (.environment s.environment) method.text) [wanted, data, s.options] []).run
        m :=
    (run_bind_ok hfunction _).trans ((run_bind_ok hargs _).trans (run_bind_ok Ends.pure _))
  have hlines : runBody p c g = expr p g (.call (.attribute (.name "__kiln_env" .load) method.text)
      [.name "__kiln_name" .load, .name "__kiln_data" .load, .name "options" .load] []) := by
    unfold runBody
    rw [hbody]
    show block p g [.mk line _] >>= _ = _
    rw [block_one]
    show (do return Flow.ret (← expr p g _)) >>= _ = _
    rw [bind_assoc]
    conv => rhs; rw [← bind_pure (expr p g _)]
    rfl
  rw [hlines]
  exact hcall

/-- **Asking for a template is its render**, with the options of the template that asks. -/
theorem Asked.run (h : Asked isAsync s m wanted data f m₁) (hunderway : Underway s b items m)
    (hargs : Passes args wanted data) (n : Nat) :
    (launch isAsync (powers (n + 2)) f args).run m
      = (renderNamed (powers (askLevel isAsync n)) s.environment isAsync wanted data s.options).run
        m₁ := by
  obtain ⟨vars, hat, hvars⟩ := hunderway.frame
  obtain ⟨id, c, rfl, hcell, rfl⟩ := h.frame
  have hname := h.holds.of_at hat
  have hunique : ∀ {id' : Nat} {c' : Closure}, Value.ref id = .ref id' →
      m.heap[id']? = some (.closure c') → c' = c := by
    intro id' c' hid hcell'
    injection hid with hid
    rw [← hid, hcell] at hcell'
    injection hcell' with hcell'
    injection hcell' with hcell'
    exact hcell'.symm
  unfold launch askLevel atCall
  cases isAsync with
  | false =>
      obtain ⟨_, c', line, hid, hcell', hbody, hframe, hrun⟩ := hvars.inclusion.call hname hat rfl rfl
        (fun _ => rfl) hargs (n + 1)
      obtain rfl := hunique hid hcell'
      rw [if_neg Bool.false_ne_true, if_neg Bool.false_ne_true, if_neg Bool.false_ne_true]
      refine hrun.trans ((inclusionBody_run hbody (by decide) (by decide) hframe
        (hunderway.keeps (.withFrame m _)) _).trans ?_)
      exact run_bind_ok (argumentsFor_render "Environment.render" _ _ _) _
  | true =>
      obtain ⟨_, c', line, hid, hcell', hbody, hframe, hrun⟩ := hvars.inclusionAsync.call hname hat rfl
        rfl (fun _ => rfl) hargs (n + 1)
      obtain rfl := hunique hid hcell'
      rw [if_pos rfl, if_pos rfl, if_pos rfl]
      let m₀ := m.withFrame (c'.frameOf (variablesOf inclusionParameters wanted data) s.top)
      let task : Task := .render s.environment wanted data s.options
      have hcall : Ends ((powers (n + 2)).call (.ref id) args []) m (.ref m₀.heap.size)
          (m₀.withCell (.coroutine (some task))) := by
        refine hrun.trans ((inclusionBody_run hbody (by decide) (by decide) hframe
          (hunderway.keeps (.withFrame m _)) _).trans ?_)
        exact Ends.bind (argumentsFor_render "Environment.render_async" _ _ _) (Ends.new _)
      have hwait : ((powers (n + 2)).wait (.ref m₀.heap.size)).run
            (m₀.withCell (.coroutine (some task)))
          = (renderNamed (powers (n + 1)) s.environment true wanted data s.options).run
            (m₀.withCell (.coroutine none)) := by
        refine (run_bind_ok (Ends.cellOf withCell_new) _).trans ?_
        refine (run_bind_ok (Ends.setCell withCell_new _) _).trans ?_
        rw [withCell_withContent]
        rfl
      exact (run_bind_ok hcall _).trans hwait

theorem Underway.exists_asked (h : Underway s b items m) (isAsync : Bool) (wanted data : Value) :
    ∃ f m₁, Asked isAsync s m wanted data f m₁ := by
  obtain ⟨vars, hat, hvars⟩ := h.frame
  cases isAsync with
  | false =>
      obtain ⟨id, line, hname, hcell⟩ := hvars.inclusion
      exact ⟨_, _, ⟨vars, hat, hname⟩, id, _, rfl, hcell, rfl⟩
  | true =>
      obtain ⟨id, line, hname, hcell⟩ := hvars.inclusionAsync
      exact ⟨_, _, ⟨vars, hat, hname⟩, id, _, rfl, hcell, rfl⟩

end Asking

/-! ## §4. Asking for a layout. -/

/-- The data of a layout, as it is handed over: a mapping, or nothing, which stands for an empty
one. -/
inductive LayoutData : Value → List (String × Value) → Machine → Prop where
  | nothing {m : Machine} : LayoutData .none [] m
  | mapping {v : Value} {fields : List (String × Value)} {m : Machine} (h : IsMapping v fields m) :
      LayoutData v fields m

section Layout

variable {s : Stage} {b : Books} {items : Array Value} {m : Machine} {args : List Value}
  {f path data : Value} {fields : List (String × Value)}

/-- A mapping is what a script takes it for. -/
theorem truthy_mapping {id : Nat} (h : m.heap[id]? = some (mappingCell fields)) :
    truthy m (.ref id) = !fields.isEmpty := by
  have hcell : m.heap.getD id default = mappingCell fields := by
    rw [Array.getD_eq_getD_getElem?, h]
    rfl
  unfold truthy
  dsimp only
  rw [hcell]
  cases fields <;> rfl

/-- Data that are nothing, or have no entries, are a new mapping. -/
theorem dataOr_ends {p : Powers} {g : Nat} (hread : Ends (readName "__kiln_data" g) m data m)
    (h : LayoutData data fields m) :
    ∃ v m₁, Ends (expr p g (.boolOp .disj [.name "__kiln_data" .load, .dict []])) m v m₁
      ∧ IsMapping v fields m₁ ∧ Keeps m m₁ ∧ m₁.context = m.context ∧ m₁.frames = m.frames := by
  have hnew : truthy m data = false →
      Ends (expr p g (.boolOp .disj [.name "__kiln_data" .load, .dict []])) m (.ref m.heap.size)
        (m.withCell (.dict #[])) := by
    intro hfalsy
    refine Ends.bind hread (Ends.bind .get ?_)
    show Ends (if (truthy m data != false) = true then pure data
      else boolOp p g .disj [.dict []]) m _ _
    rw [hfalsy]
    have hdict : Ends (expr p g (.dict [])) m (.ref m.heap.size) (m.withCell (.dict #[])) :=
      Ends.bind (Ends.alloc _) (Ends.bind .pure .pure)
    exact Ends.bind hdict (Ends.bind .get .pure)
  have hempty : IsMapping (.ref m.heap.size) [] (m.withCell (.dict #[])) :=
    ⟨⟨_, rfl, withCell_new⟩, List.nodup_nil⟩
  cases h with
  | nothing => exact ⟨_, _, hnew rfl, hempty, .withCell m _, rfl, rfl⟩
  | mapping h =>
      obtain ⟨id, rfl, hcell⟩ := h.cell
      have htruthy := truthy_mapping hcell
      cases fields with
      | nil => exact ⟨_, _, hnew htruthy, hempty, .withCell m _, rfl, rfl⟩
      | cons e fields =>
          refine ⟨.ref id, m, Ends.bind hread (Ends.bind .get ?_), h, .refl m, rfl, rfl⟩
          show Ends (if (truthy m (.ref id) != false) = true then pure (.ref id)
            else boolOp p g .disj [.dict []]) m _ _
          rw [htruthy]
          exact .pure

/-- The books are no mapping. -/
theorem IsMapping.withState (hmap : IsMapping data fields m) (h : Underway s b items m) (c : Cell) :
    IsMapping data fields (m.withContent s.state c) := by
  refine hmap.ofCells fun {id} hcell => withContent_other hcell ?_
  rintro rfl
  rw [h.state] at hcell
  cases hcell

/-- Nor is the output. -/
theorem IsMapping.withOutput (hmap : IsMapping data fields m) (h : Underway s b items m) (c : Cell) :
    IsMapping data fields (m.withContent b.output c) := by
  refine hmap.ofCells fun {id} hcell => withContent_other hcell ?_
  rintro rfl
  rw [h.output] at hcell
  cases hcell

/-- **Asking for a layout changes the books**: they hold its name and its data from then on. -/
theorem layout_ends (h : Underway s b items m) (hf : s.Holds layoutName.text f m)
    (hargs : Passes args path data) (hdata : LayoutData data fields m) (n : Nat) :
    ∃ m' ld, Ends ((powers (n + 1)).call f args []) m .none m'
      ∧ Underway s { b with layout := path, layoutData := ld } items m'
      ∧ IsMapping ld fields m' ∧ Spares m m'
      ∧ ∀ {v : Value} {others : List (String × Value)}, IsMapping v others m → IsMapping v others m' := by
  obtain ⟨vars, hat, hvars⟩ := h.frame
  obtain ⟨id, c, line, rfl, hcell, hbody, hframe, hrun⟩ :=
    hvars.layout.call (hf.of_at hat) hat rfl rfl (fun _ => rfl) hargs n
  let fr := c.frameOf (variablesOf layoutParameters path data) s.top
  let g := m.frames.size
  let m₁ := m.withFrame fr
  let b₁ : Books := { b with layout := path }
  let m₂ := m₁.withContent s.state (.object .state b₁.fields)
  have hkeeps₁ : Keeps m m₁ := .withFrame m fr
  have hunder₁ : Underway s b items m₁ := h.keeps hkeeps₁
  have hunder₂ : Underway s b₁ items m₂ := hunder₁.withBooks (show b₁.output = b.output from rfl)
  have hstate : ∀ {m'}, m'.frames = m₁.frames → (∃ b', Underway s b' items m') →
      Ends (readName "__kiln" g) m' (.ref s.state) m' := by
    intro m' hframes ⟨b', hunder⟩
    obtain ⟨vars, hat, hvars⟩ := hunder.frame
    exact (hframe.keeps hframes).inside.readName_around hat
      ((hframe.locals _).trans (by decide)) (s.owns _ (by decide)) hvars.state
  have hpath : Ends (stmt (powers n) g
      (.assign [.attribute (.name "__kiln" .load) "layout"] (.name "__kiln_path" .load))) m₁ .next
      m₂ := by
    have hset : Ends (setMember (.ref s.state) "layout" path) m₁ () m₂ :=
      Ends.bind (Ends.cellOf hunder₁.state) (Ends.setCell hunder₁.state _)
    exact Ends.bind hframe.readFirst
      (Ends.bind (Ends.bind (Ends.bind (hstate rfl ⟨_, hunder₁⟩) hset) .pure) .pure)
  have hdata₂ : LayoutData data fields m₂ := by
    cases hdata with
    | nothing => exact .nothing
    | mapping hmap =>
        exact .mapping (IsMapping.withState (hmap.ofCells hkeeps₁.cells) hunder₁ _)
  have hframe₂ : CallFrame s layoutParameters path data g fr m₂ := hframe.keeps rfl
  obtain ⟨ld, m₃, hvalue, hmapping, hkeeps₃, hcontext₃, hframes₃⟩ :=
    dataOr_ends (p := powers n) hframe₂.readSecond hdata₂
  have hunder₃ := hunder₂.keeps hkeeps₃
  let b₄ : Books := { b₁ with layoutData := ld }
  let m₄ := m₃.withContent s.state (.object .state b₄.fields)
  have hassign : Ends (stmt (powers n) g (.assign [.attribute (.name "__kiln" .load) "layout_data"]
      (.boolOp .disj [.name "__kiln_data" .load, .dict []]))) m₂ .next m₄ := by
    have hset : Ends (setMember (.ref s.state) "layout_data" ld) m₃ () m₄ :=
      Ends.bind (Ends.cellOf hunder₃.state) (Ends.setCell hunder₃.state _)
    exact Ends.bind hvalue
      (Ends.bind (Ends.bind (Ends.bind (hstate hframes₃ ⟨_, hunder₃⟩) hset) .pure) .pure)
  have hbodyRun : Ends (runBody (powers n) c g) m₁ .none m₄ := by
    unfold runBody
    rw [hbody]
    exact Ends.bind (Ends.bind hpath (Ends.bind hassign .pure)) .pure
  have houtput : b₄.output = b₁.output := rfl
  refine ⟨m₄, ld, hrun.trans hbodyRun, hunder₃.withBooks houtput,
    IsMapping.withState hmapping hunder₃ _, ?_, fun hmap => ?_⟩
  · have hspares₂ : Spares m₁ m₂ := hunder₁.withBooks_spares (show b₁.output = b.output from rfl)
    exact (((Spares.ofKeeps hkeeps₁ rfl).trans hspares₂).trans (.ofKeeps hkeeps₃ hcontext₃)).trans
      (hunder₃.withBooks_spares houtput)
  · have hmap₂ := IsMapping.withState (hmap.ofCells hkeeps₁.cells) hunder₁ (.object .state b₁.fields)
    exact IsMapping.withState (hmap₂.ofCells hkeeps₃.cells) hunder₃ _

end Layout

end RenderFunction

end TagTemplate
