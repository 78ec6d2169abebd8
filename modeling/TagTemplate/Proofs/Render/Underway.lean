/-
  TagTemplate.Proofs.Render.Underway
  ────────────────────────────────
  **A RENDER THAT IS UNDERWAY.**

  The render function first makes the state of the render, and names the
  functions that a template may call.  From then on the machine holds the
  books of the render: the state, the output so far, and those functions
  (`Underway`).

    • `opening_proceeds`: the statements before the program open the books.
-/
import TagTemplate.Proofs.Code.RenderFunction
import TagTemplate.Proofs.Machine.Site

namespace TagTemplate

open Script Machine

namespace RenderFunction

/-! ## §1. Books. -/

/-- What the state of a render holds. -/
structure Books where
  /-- What escapes. -/
  escape : Value
  /-- What filters. -/
  filter : Value
  /-- The cell of the output. -/
  output : Nat
  /-- The line of the last tag that started. -/
  line : Value
  /-- The source, if errors are reported. -/
  source : Value
  /-- The layout that is asked for. -/
  layout : Value
  /-- The data of the layout. -/
  layoutData : Value

/-- The state as an object. -/
def Books.fields (b : Books) : List (String × Value) :=
  [("e", b.escape), ("f", b.filter), ("s", .primitive .plain), ("res", .ref b.output),
    ("line", b.line), ("source", b.source), ("layout", b.layout), ("layout_data", b.layoutData)]

/-- The names that the body gives values to. -/
def bodyNames : List String := ["include", "include_async", "__kiln", "__kiln_append", "layout"]

/-- The names that the code of a render reads in its frame. -/
def ownNames : List String := ["it", "options"] ++ bodyNames

/-- Where a render runs, and with what. -/
structure Stage extends Site where
  /-- The data. -/
  data : Value
  /-- The options of the template. -/
  options : Value
  /-- The cell of the state. -/
  state : Nat
  /-- The function has a name. -/
  named : path.isEmpty = false
  /-- It owns what it reads. -/
  owns : ∀ name ∈ ownNames, locals.contains name = true

/-- A name is that of a function that was defined here. -/
def Defines (s : Site) (name : Ident) (ps : Parameters) (b : Suite) (vars : List (String × Value))
    (m : Machine) : Prop :=
  ∃ id line, vars.lookup name.text = some (.ref id)
    ∧ m.heap[id]? = some (.closure (closureIn s.here (s.path ++ ".<locals>." ++ name.text) false
        name ps b line))

/-- The variables of a render. -/
structure Variables (s : Stage) (b : Books) (vars : List (String × Value)) (m : Machine) : Prop where
  data : vars.lookup "it" = some s.data
  options : vars.lookup "options" = some s.options
  state : vars.lookup "__kiln" = some (.ref s.state)
  append : vars.lookup "__kiln_append" = some (.method (.ref b.output) "append")
  inclusion : Defines s.toSite includeName inclusionParameters (inclusionBody renderMethod) vars m
  inclusionAsync :
    Defines s.toSite includeAsyncName inclusionParameters (inclusionBody renderAsyncMethod) vars m
  layout : Defines s.toSite layoutName layoutParameters layoutBody vars m

/-- **The books of a render are open**, with an output so far. -/
structure Underway (s : Stage) (b : Books) (items : Array Value) (m : Machine) : Prop where
  /-- Its frame. -/
  frame : ∃ vars, s.toSite.At vars m ∧ Variables s b vars m
  /-- Its state. -/
  state : m.heap[s.state]? = some (.object .state b.fields)
  /-- Its output. -/
  output : m.heap[b.output]? = some (.list items)

/-! ## §2. What keeps them open. -/

section Underway

variable {s : Stage} {b : Books} {items : Array Value} {vars : List (String × Value)}
  {m m' : Machine} {name : Ident} {ps : Parameters} {body : Suite}

theorem Defines.keeps {t : Site} (h : Defines t name ps body vars m)
    (hcells : ∀ {id : Nat} {c : Closure}, m.heap[id]? = some (.closure c) →
      m'.heap[id]? = some (.closure c)) : Defines t name ps body vars m' := by
  obtain ⟨id, line, hname, hcell⟩ := h
  exact ⟨id, line, hname, hcells hcell⟩

theorem Variables.keeps (h : Variables s b vars m)
    (hcells : ∀ {id : Nat} {c : Closure}, m.heap[id]? = some (.closure c) →
      m'.heap[id]? = some (.closure c)) : Variables s b vars m' :=
  { h with inclusion := h.inclusion.keeps hcells
           inclusionAsync := h.inclusionAsync.keeps hcells
           layout := h.layout.keeps hcells }

/-- The frame of a render has one state. -/
theorem Underway.same {t : Stage} {b' : Books} {items' : Array Value} (h : Underway s b items m)
    (h' : Underway t b' items' m) (hhere : s.here = t.here) : s.state = t.state ∧ b = b' := by
  obtain ⟨vars, hat, hvars⟩ := h.frame
  obtain ⟨vars', hat', hvars'⟩ := h'.frame
  have hframe := hat.frame
  rw [hhere, hat'.frame] at hframe
  obtain rfl : vars' = vars := congrArg Frame.vars (Option.some.inj hframe)
  have hstate : s.state = t.state := by
    have hname := hvars.state.symm.trans hvars'.state
    simpa using hname
  have hcell := h.state
  rw [hstate, h'.state] at hcell
  refine ⟨hstate, ?_⟩
  cases b
  cases b'
  simp_all [Books.fields]

/-- A render has one set of books. -/
theorem Underway.unique {b' : Books} {items' : Array Value} (h : Underway s b items m)
    (h' : Underway s b' items' m) : b = b' ∧ items = items' := by
  obtain ⟨_, rfl⟩ := h.same h' rfl
  have houtput := h.output.symm.trans h'.output
  exact ⟨rfl, by simpa using houtput⟩

theorem Underway.keeps (h : Underway s b items m) (hkeeps : Keeps m m') :
    Underway s b items m' := by
  obtain ⟨vars, hat, hvars⟩ := h.frame
  exact ⟨⟨vars, hat.keeps hkeeps, hvars.keeps hkeeps.cells⟩, hkeeps.cells h.state,
    hkeeps.cells h.output⟩

theorem Underway.withContext (h : Underway s b items m) (context : Option RenderContext) :
    Underway s b items { m with context } := h.keeps (.withContext m context)

/-- A cell that is no function may change without harm to functions. -/
theorem closure_withContent {id : Nat} {c d : Cell} (hold : m.heap[id]? = some d)
    (hd : ∀ f, d ≠ .closure f) {other : Nat} {f : Closure}
    (h : m.heap[other]? = some (.closure f)) :
    (m.withContent id c).heap[other]? = some (.closure f) := by
  refine withContent_other h ?_
  rintro rfl
  rw [hold] at h
  exact hd f (Option.some.inj h)

/-- The output and the state are not the same. -/
theorem Underway.output_ne (h : Underway s b items m) : b.output ≠ s.state := by
  intro heq
  have hstate := h.state
  rw [← heq, h.output] at hstate
  cases hstate

/-- The output may change. -/
theorem Underway.withOutput (h : Underway s b items m) (news : Array Value) :
    Underway s b news (m.withContent b.output (.list news)) := by
  obtain ⟨vars, hat, hvars⟩ := h.frame
  exact ⟨⟨vars, hat.withContent _ _, hvars.keeps (closure_withContent h.output (by simp))⟩,
    withContent_other h.state h.output_ne, withContent_same h.output⟩

/-- So may what else the books hold. -/
theorem Underway.withBooks (h : Underway s b items m) {b' : Books} (hb : b'.output = b.output) :
    Underway s b' items (m.withContent s.state (.object .state b'.fields)) := by
  obtain ⟨vars, hat, hvars⟩ := h.frame
  have hkeeps : Variables s b vars (m.withContent s.state (.object .state b'.fields)) :=
    hvars.keeps (closure_withContent h.state (by simp))
  refine ⟨⟨vars, hat.withContent _ _, { hkeeps with append := ?_ }⟩, withContent_same h.state, ?_⟩
  · rw [hb]
    exact hkeeps.append
  · rw [hb]
    exact withContent_other h.output h.output_ne.symm

/-- A member of the state. -/
theorem Underway.ofState (h : Underway s b items m) (p : Powers) {member : String} {v : Value}
    (hv : b.fields.lookup member = some v) :
    Ends (expr p s.here (.attribute (.name "__kiln" .load) member)) m v m := by
  obtain ⟨vars, hat, hvars⟩ := h.frame
  exact Ends.bind (hat.readName_own (s.owns _ (by decide)) hvars.state)
    (Ends.getMember_object h.state hv)

/-- The data. -/
theorem Underway.readData (h : Underway s b items m) : Ends (readName "it" s.here) m s.data m := by
  obtain ⟨vars, hat, hvars⟩ := h.frame
  exact hat.readName_own (s.owns _ (by decide)) hvars.data

/-- The function that appends. -/
theorem Underway.readAppend (h : Underway s b items m) :
    Ends (readName "__kiln_append" s.here) m (.method (.ref b.output) "append") m := by
  obtain ⟨vars, hat, hvars⟩ := h.frame
  exact hat.readName_own (s.owns _ (by decide)) hvars.append

end Underway

/-! ## §3. How they are opened. -/

/-- What a new state is told about the source. -/
def sourceValue : Option Quotation → Value
  | some q => .str (String.ofList q.value)
  | none => .none

/-- The books of a render that begins. -/
def Books.fresh (shared : Shared) (source : Option Quotation) (output layoutData : Nat) : Books where
  escape := .primitive shared.environment.blueprint.escape
  filter := shared.filterValue
  output := output
  line := .int 1
  source := sourceValue source
  layout := .none
  layoutData := .ref layoutData

section NewState

variable {m : Machine} {env : Nat} {shared : Shared} (hshared : m.environments[env]? = some shared)

/-- The machine with the output and the data of a layout. -/
def withOutput (m : Machine) : Machine := (m.withCell (.list #[])).withCell (.dict #[])

/-- The books that a new state holds. -/
def newBooks (m : Machine) (shared : Shared) (source : Option Quotation) : Books :=
  .fresh shared source m.heap.size (m.withCell (.list #[])).heap.size

theorem argumentsFor_optional (path name : String) (source : Option Quotation) :
    Ends (argumentsFor path [name] 0 (source.map fun q => .str (String.ofList q.value)).toList [])
      m [sourceValue source] m := by
  unfold argumentsFor bindArguments Closure.paramsOf
  cases source <;> simp [Ends, paramKind, paramName, bindKeywords, sourceValue] <;> rfl

include hshared in
/-- A source may be handed to a new state. -/
theorem callMethod_newState (p : Powers) (source : Option Quotation) :
    Ends (callMethod p (.environment env) "new_state"
        (source.map fun q => .str (String.ofList q.value)).toList []) m
      (.ref (withOutput m).heap.size)
      ((withOutput m).withCell (.object .state (newBooks m shared source).fields)) := by
  have hgiven : Ends (argumentsFor "Environment.new_state" ["source"] 0 _ []) m _ m :=
    argumentsFor_optional "Environment.new_state" "source" source
  have hnew : Ends (newState env (sourceValue source)) m (.ref (withOutput m).heap.size)
      ((withOutput m).withCell (.object .state (newBooks m shared source).fields)) :=
    Ends.bind (sharedAt_run hshared) rfl
  show Ends (callEnvironment p env "new_state" _ []) m _ _
  unfold callEnvironment
  simp only
  exact Ends.bind hgiven hnew

include hshared in
/-- A method of the environment. -/
theorem getMember_environment {name : String} (hname : environmentMethods.contains name = true)
    (hother : ["TemplateError", "max_include_depth", "escape", "filter"].contains name = false) :
    Ends (getMember (.environment env) name) m (.method (.environment env) name) m := by
  have hattributes : Ends (attributesOf (.environment env)) m
      [("TemplateError", .errorClass "TemplateError"),
        ("max_include_depth", .int shared.environment.maxDepth),
        ("escape", .primitive shared.environment.blueprint.escape),
        ("filter", shared.filterValue)] m := by
    refine Ends.bind .get ?_
    rw [hshared]
    exact .pure
  refine Ends.getMember_method hattributes .pure ?_ hname
  simp only [List.contains_cons, Bool.or_eq_false_iff] at hother
  simp only [List.lookup_cons, hother]
  rfl

end NewState

/-- A machine has been made from another one by adding cells and naming them. -/
structure Adds (base m m' : Machine) : Prop where
  cells : ∀ {id : Nat} {c : Cell}, m.heap[id]? = some c → m'.heap[id]? = some c
  keeps : Keeps base m → Keeps base m'
  context : m'.context = m.context

theorem Adds.trans {base m₁ m₂ m₃ : Machine} (h : Adds base m₁ m₂) (h' : Adds base m₂ m₃) :
    Adds base m₁ m₃ :=
  ⟨fun hc => h'.cells (h.cells hc), fun hk => h'.keeps (h.keeps hk), h'.context.trans h.context⟩

section Opening

variable {s : Stage} {vars : List (String × Value)} {base m : Machine}
  (hbase : base.frames.size ≤ s.here)
include hbase

theorem Adds.name (m : Machine) (name : String) (v : Value) :
    Adds base m (m.withValue s.here name v) :=
  ⟨id, fun h => h.withValue hbase name v, rfl⟩

theorem Adds.cell (m : Machine) (c : Cell) (name : String) :
    Adds base m ((m.withCell c).withValue s.here name (.ref m.heap.size)) :=
  ⟨withCell_old, fun h => (h.trans (.withCell m c)).withValue hbase name _, rfl⟩

theorem define_performs (h : s.toSite.At vars m) {p : Powers} {name : Ident}
    {ps : Parameters} {b : Suite} (hname : name.text ∈ ownNames) :
    Performs p s.here (.define false name ps b) m .next fun m' => ∃ id,
      s.toSite.At (withVar vars name.text (.ref id)) m'
        ∧ (∀ vars', vars'.lookup name.text = some (.ref id) → Defines s.toSite name ps b vars' m')
        ∧ Adds base m m' := by
  refine Performs.define h s.named (s.owns _ hname) fun line => ⟨m.heap.size,
    (h.keeps (.withCell m _)).withValue _ _, fun vars' hvars => ⟨_, line, hvars, withCell_new⟩,
    .cell hbase m _ _⟩

/-- The call that makes the state. -/
def stateCall (source : Option Quotation) : Primary :=
  .call (.member (.name TagTemplate.environmentName) newStateMethod)
    (match source with
      | some q => .cons (.plain (.text q)) .nil
      | none => .nil)

theorem stateStart_performs (h : s.toSite.At vars m) (n : Nat) (source : Option Quotation) :
    Performs (powers (n + 1)) s.here (stateStart source) m .next fun m' =>
      s.toSite.At (withVar vars "__kiln" (.ref (withOutput m).heap.size)) m'
        ∧ m'.heap[(withOutput m).heap.size]?
            = some (.object .state (newBooks m s.shared source).fields)
        ∧ m'.heap[m.heap.size]? = some (.list #[])
        ∧ m'.heap[m.heap.size + 1]? = some (.dict #[]) ∧ Adds base m m' := by
  intro line
  have hcall := callMethod_newState h.shared (powers n) source
  let state := (withOutput m).heap.size
  let m₁ := (withOutput m).withCell (.object .state (newBooks m s.shared source).fields)
  have hkeeps : Keeps m m₁ :=
    ((Keeps.withCell m _).trans (.withCell _ _)).trans (.withCell _ _)
  have hfunction : Ends
      (expr (powers (n + 1)) s.here (.attribute (.name "__kiln_env" .load) "new_state")) m
      (.method (.environment s.environment) "new_state") m :=
    Ends.bind h.readName_environment (getMember_environment h.shared (by decide) (by decide))
  have hvalue : Ends (expr (powers (n + 1)) s.here ((stateCall source).tree line)) m
      (.ref state) m₁ := by
    cases source with
    | none => exact Ends.call_nil hfunction hcall
    | some q => exact Ends.call_one rfl hfunction .pure hcall
  have hbind : Ends (bindName "__kiln" (.ref state) s.here) m₁ () _ :=
    (h.keeps hkeeps).bindName_own (s.owns _ (by decide))
  have hdict : m₁.heap[m.heap.size + 1]? = some (.dict #[]) := by
    refine withCell_old ?_
    rw [← withCell_size (c := .list #[])]
    exact withCell_new
  refine ⟨m₁.withValue s.here "__kiln" (.ref state), ?_, (h.keeps hkeeps).withValue _ _,
    withCell_new, withCell_old (withCell_old withCell_new), hdict, ?_⟩
  · cases source <;> exact Ends.bind hvalue (Ends.bind (Ends.bind hbind .pure) .pure)
  · exact ⟨hkeeps.cells, fun hk => (hk.trans hkeeps).withValue hbase _ _, rfl⟩

theorem appendAlias_performs {p : Powers} (h : s.toSite.At vars m) {state out : Nat}
    {fields : List (String × Value)} {items : Array Value}
    (hnamed : vars.lookup "__kiln" = some (.ref state))
    (hstate : m.heap[state]? = some (.object .state fields))
    (hres : fields.lookup "res" = some (.ref out)) (hout : m.heap[out]? = some (.list items)) :
    Performs p s.here appendAlias m .next fun m' =>
      s.toSite.At (withVar vars "__kiln_append" (.method (.ref out) "append")) m'
        ∧ Adds base m m' := by
  intro line
  let append : Value := .method (.ref out) "append"
  have hmember : Ends (getMember (.ref out) "append") m append m :=
    Ends.getMember_method (Ends.bind (Ends.cellOf hout) .pure)
      (Ends.bind (Ends.cellOf hout) .pure) rfl (by decide)
  have hread := h.readName_own (s.owns "__kiln" (by decide)) hnamed
  have hvalue : Ends
      (expr p s.here (.attribute (.attribute (.name "__kiln" .load) "res") "append")) m append m :=
    Ends.bind (Ends.bind hread (Ends.getMember_object hstate hres)) hmember
  have hbind : Ends (bindName "__kiln_append" append s.here) m () _ :=
    h.bindName_own (s.owns _ (by decide))
  exact ⟨_, Ends.bind hvalue (Ends.bind (Ends.bind hbind .pure) .pure), h.withValue _ _,
    .name hbase m _ _⟩

/-- **The statements before the program open the books**, and nothing that was there before the frame
changes. -/
theorem opening_proceeds (h : s.toSite.At [("it", s.data), ("options", s.options)] m)
    (hkeeps : Keeps base m) (n : Nat) (source : Option Quotation) :
    Proceeds (powers (n + 1)) s.here (opening source) m fun m' => ∃ state out ld,
      Underway { s with state } (.fresh s.shared source out ld) #[] m'
        ∧ m'.heap[ld]? = some (.dict #[]) ∧ Keeps base m' ∧ m'.context = m.context
        ∧ base.heap.size ≤ state ∧ base.heap.size ≤ out := by
  refine .cons (define_performs hbase h (by decide)) fun m₁ ⟨i₁, h₁, hplain, a₁⟩ => ?_
  refine .cons (define_performs hbase h₁ (by decide)) fun m₂ ⟨i₂, h₂, hasync, a₂⟩ => ?_
  refine .cons (stateStart_performs hbase h₂ n source) fun m₃ ⟨h₃, hstate, hout, hld, a₃⟩ => ?_
  refine .cons (appendAlias_performs hbase h₃ rfl hstate rfl hout) fun m₄ ⟨h₄, a₄⟩ => ?_
  refine .cons (define_performs hbase h₄ (by decide)) fun m₅ ⟨i₅, h₅, hlayout, a₅⟩ => ?_
  have a₂₅ : Adds base m₂ m₅ := (a₃.trans a₄).trans a₅
  have a₃₅ : Adds base m₃ m₅ := a₄.trans a₅
  have a : Adds base m m₅ := (a₁.trans a₂).trans a₂₅
  have hsize : base.heap.size ≤ m₂.heap.size := (a₂.keeps (a₁.keeps hkeeps)).size_le
  refine .nil ⟨(withOutput m₂).heap.size, m₂.heap.size, (m₂.withCell (.list #[])).heap.size,
    ⟨⟨_, h₅, ?_⟩, a₃₅.cells hstate, a₃₅.cells hout⟩, ?_, a.keeps hkeeps, a.context, ?_, hsize⟩
  · exact
      { data := rfl, options := rfl, state := rfl, append := rfl
        inclusion := (hplain _ rfl).keeps fun hc => (a₂.trans a₂₅).cells hc
        inclusionAsync := (hasync _ rfl).keeps fun hc => a₂₅.cells hc
        layout := hlayout _ rfl }
  · rw [withCell_size]
    exact a₃₅.cells hld
  · unfold withOutput
    rw [withCell_size, withCell_size]
    omega

end Opening

end RenderFunction

end TagTemplate
