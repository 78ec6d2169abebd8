/-
  TagTemplate.Proofs.Render.Choice
  ────────────────────────────────
  **WHAT A TEMPLATE WITH A LAYOUT HANDS OVER.**

  Behind its lines a template that has asked for a layout asks for it as for
  any other template.  The data are those of the template, its own output
  under the name `body` over them, and the data of the layout over both
  (`merged`).  The text of the layout takes the place of the output.

    • `Program.choice_asks`: what the layout is rendered with.
    • `replaceOutput_ends`: what becomes of its text.
-/
import TagTemplate.Proofs.Render.Asking

namespace TagTemplate

open Script Machine

namespace RenderFunction

/-! ## §1. The data of a layout. -/

/-- **What a layout is rendered with**: the data of the template, its output over them, and the data
of the layout over both. -/
def merged (fields : List (String × Value)) (body : String) (more : List (String × Value)) :
    List (String × Value) := overlay (withVar fields "body" (.str body)) more

/-- The data of the layout win over the output, and the output over the data of the template. -/
theorem lookup_merged (fields more : List (String × Value)) (body key : String) :
    (merged fields body more).lookup key
      = (more.reverse.lookup key).or
          (if key == "body" then some (.str body) else fields.lookup key) := by
  unfold merged
  rw [lookup_overlay, lookup_withVar]

section Data

variable {s : Stage} {b : Books} {texts : List String} {m : Machine}
  {fields more : List (String × Value)}

/-- The display of the data makes a new mapping of them. -/
theorem merged_ends (h : Underway s b (texts.map .str).toArray m)
    (hdata : IsMapping s.data fields m) (hmore : IsMapping b.layoutData more m) (n line : Nat) :
    Ends (expr (powers (n + 1)) s.here (.dict
        [.spread (.name "it" .load),
          .item (.constant (.str "body" false)) (joined.tree line),
          .spread (.attribute (.name "__kiln" .load) "layout_data")])) m
      (.ref m.heap.size)
      (m.withCell (mappingCell (merged fields ("".intercalate texts) more))) := by
  let body : Value := .str ("".intercalate texts)
  have hnew : ∀ entries, Underway s b (texts.map .str).toArray (m.withCell (mappingCell entries)) :=
    fun entries => h.keeps (.withCell m _)
  obtain ⟨data, hid, hcell⟩ := hdata.cell
  obtain ⟨layout, hld, hlayout⟩ := hmore.cell
  -- each entry of the display changes the one new cell
  have hfirst : Ends (addEntries m.heap.size s.data) (m.withCell (mappingCell [])) ()
      (m.withCell (mappingCell fields)) := by
    have hover := addEntries_ends (withCell_new (m := m) (c := mappingCell []))
      (withCell_old (c := mappingCell []) hcell)
    rw [overlay_nil hdata.distinct, withCell_withContent, ← hid] at hover
    exact hover
  have hsecond : Ends (setEntries m.heap.size [(.str "body", body)])
      (m.withCell (mappingCell fields)) () (m.withCell (mappingCell (withVar fields "body" body))) := by
    have hover := setEntries_ends (withCell_new (m := m) (c := mappingCell fields)) [("body", body)]
    rw [withCell_withContent] at hover
    exact hover
  have hthird : Ends (addEntries m.heap.size b.layoutData)
      (m.withCell (mappingCell (withVar fields "body" body))) ()
      (m.withCell (mappingCell (merged fields ("".intercalate texts) more))) := by
    have hover := addEntries_ends (withCell_new (m := m) (c := mappingCell (withVar fields "body" body)))
      (withCell_old (c := mappingCell (withVar fields "body" body)) hlayout)
    rw [withCell_withContent, ← hld] at hover
    exact hover
  have hall : Ends (entries (powers (n + 1)) s.here m.heap.size []
      [.spread (.name "it" .load), .item (.constant (.str "body" false)) (joined.tree line),
        .spread (.attribute (.name "__kiln" .load) "layout_data")])
      (m.withCell (mappingCell [])) ()
      (m.withCell (mappingCell (merged fields ("".intercalate texts) more))) :=
    Ends.bind .pure (Ends.bind (hnew []).readData (Ends.bind hfirst (Ends.bind .pure
      (Ends.bind (Program.joined_ends (hnew fields) line) (Ends.bind hsecond
        (Ends.bind ((hnew _).ofState _ rfl) (Ends.bind hthird .pure)))))))
  exact Ends.bind (Ends.alloc _) (Ends.bind hall .pure)

end Data

/-! ## §2. The question. -/

/-- A text takes the place of the output. -/
def replaceOutput (p : Powers) (s : Stage) (v : Value) : Eval Flow := do
  let l ← newList [v]
  assign p s.here l
    (.subscript (.attribute (.name "__kiln" .load) "res") (.slice none none none))
  return .next

section Question

variable {P : Program} {s : Stage} {b : Books} {texts : List String} {items : Array Value}
  {m m₁ : Machine} {fields more : List (String × Value)} {f : Value}

/-- The whole of a list is replaced. -/
theorem setSlice_whole {id other : Nat} {old news : Array Value}
    (h : m.heap[id]? = some (.list old)) (hother : m.heap[other]? = some (.list news)) :
    Ends (setSlice (.ref id) ⟨.none, .none, .none⟩ (.ref other)) m ()
      (m.withContent id (.list news)) := by
  have hwalk : Ends (walkOf? (.ref other)) m (some (.list other 0)) m :=
    Ends.bind (Ends.cell hother) .pure
  have hset := Ends.setCell h fun _ => .list
    (old.toList.take 0 ++ news.toList ++ old.toList.drop (max 0 old.size)).toArray
  have hdrop : old.toList.drop (max 0 old.size) = [] := by
    rw [Nat.zero_max, ← Array.length_toList, List.drop_length]
  refine Ends.bind (Ends.cellOf h) (Ends.bind hwalk (Ends.bind (drain_list hother)
    (Ends.bind .pure (Ends.bind .pure (Ends.bind .pure ?_)))))
  refine Eq.trans hset ?_
  rw [hdrop, List.take_zero, List.nil_append, List.append_nil, Array.toArray_toList]

/-- **The text of the layout is the output from then on.** -/
theorem replaceOutput_ends (h : Underway s b items m) (p : Powers) (v : Value) :
    ∃ m', Ends (replaceOutput p s v) m .next m' ∧ Underway s b #[v] m' ∧ Spares m m' := by
  let m₀ := m.withCell (.list #[v])
  have hunder : Underway s b items m₀ := h.keeps (.withCell m _)
  have hassign := setSlice_whole hunder.output (withCell_new (m := m) (c := .list #[v]))
  refine ⟨_, Ends.bind (Ends.new _) (Ends.bind (Ends.bind (hunder.ofState p rfl)
    (Ends.bind .pure (Ends.bind .pure (Ends.bind .pure hassign)))) .pure),
    hunder.withOutput #[v], ?_⟩
  exact (Spares.ofKeeps (.withCell m _) rfl).trans (hunder.withOutput_spares #[v])

/-- Only nothing is the same as nothing. -/
theorem same_none {v : Value} (h : v ≠ .none) : same depthLimit v .none = false := by
  unfold depthLimit same
  cases v with
  | none => exact absurd rfl h
  | _ => rfl

/-- What takes the place of the output is what the call gives. -/
theorem assignOutput_eq (p : Powers) (s : Stage) (isAsync : Bool) (line : Nat) :
    stmt p s.here (.assign
        [.subscript (.attribute (.name "__kiln" .load) "res") (.slice none none none)]
        (.list [(layoutCall isAsync).tree line]))
      = expr p s.here ((layoutCall isAsync).tree line) >>= replaceOutput p s := by
  have helements : elementsOf p s.here [(layoutCall isAsync).tree line]
      = (do return [← expr p s.here ((layoutCall isAsync).tree line)]) := by
    cases isAsync <;> rfl
  show (do
    let v ← (do newList (← elementsOf p s.here [(layoutCall isAsync).tree line]))
    List.forM [Expr.subscript (.attribute (.name "__kiln" .load) "res") (.slice none none none)]
      (assign p s.here v)
    return Flow.next) = _
  have hone : ∀ (e : Expr) (g : Expr → Eval Unit), List.forM [e] g = g e :=
    fun e g => bind_pure_unit
  simp only [helements, hone, bind_assoc, pure_bind]
  rfl

/-- The question is answered where a layout has been asked for. -/
theorem Program.choice_some (h : Underway s b items m) (hlayout : b.layout ≠ .none) (p : Powers) :
    (block p s.here P.choice).run m
      = (expr p s.here ((layoutCall P.isAsync).tree (P.numbers.choice + 1)) >>= replaceOutput p s).run
          m := by
  have htest := choiceTest_ends p h
  rw [same_none hlayout] at htest
  have hblock : (block p s.here P.choice).run m
      = (block p s.here [.mk (P.numbers.choice + 1) (.assign
          [.subscript (.attribute (.name "__kiln" .load) "res") (.slice none none none)]
          (.list [(layoutCall P.isAsync).tree (P.numbers.choice + 1)]))]).run m := by
    unfold Program.choice
    rw [block_one]
    exact (run_bind_ok htest _).trans (run_bind_ok Ends.get _)
  rw [hblock, block_one, assignOutput_eq]

/-- The call in the answer asks for the layout, with the data of both. -/
theorem layoutCall_run {isAsync : Bool} (h : Underway s b (texts.map .str).toArray m)
    (hdata : IsMapping s.data fields m) (hmore : IsMapping b.layoutData more m)
    (hasked : Asked isAsync s
      (m.withCell (mappingCell (merged fields ("".intercalate texts) more))) b.layout
      (.ref m.heap.size) f m₁) (n line : Nat) :
    (expr (powers (n + 2)) s.here ((layoutCall isAsync).tree line)).run m
      = (renderNamed (powers (askLevel isAsync n)) s.environment isAsync b.layout
          (.ref m.heap.size) s.options).run m₁ := by
  let p := powers (n + 2)
  let m₀ := m.withCell (mappingCell (merged fields ("".intercalate texts) more))
  let arguments : List Expr := [.attribute (.name "__kiln" .load) "layout",
    .dict [.spread (.name "it" .load), .item (.constant (.str "body" false)) (joined.tree line),
      .spread (.attribute (.name "__kiln" .load) "layout_data")]]
  have hunder : Underway s b (texts.map .str).toArray m₀ := h.keeps (.withCell m _)
  have hfunction : Ends (expr p s.here (.name (inclusionName isAsync).text .load)) m f m := by
    obtain ⟨vars, hat, -⟩ := h.frame
    have howned : s.locals.contains (inclusionName isAsync).text = true := by
      cases isAsync <;> exact s.owns _ (by decide)
    exact hat.readName_own howned (hasked.holds.of_at (hat.keeps (.withCell m _)))
  have hargs : Ends (elementsOf p s.here arguments) m [b.layout, .ref m.heap.size] m₀ :=
    Ends.bind (h.ofState p rfl) (Ends.bind (Ends.bind (merged_ends h hdata hmore (n + 1) line)
      (Ends.bind .pure .pure)) .pure)
  have hplain : (expr p s.here (.call (.name (inclusionName isAsync).text .load) arguments [])).run m
      = (p.call f [b.layout, .ref m.heap.size] []).run m₀ :=
    (run_bind_ok hfunction _).trans ((run_bind_ok hargs _).trans (run_bind_ok Ends.pure _))
  refine Eq.trans ?_ (hasked.run hunder .both n)
  unfold launch
  cases isAsync with
  | false => exact hplain
  | true => exact run_bind_congr hplain _

/-- **A template that has asked for a layout asks for it**, with the data of both, and its text takes
the place of the output. -/
theorem Program.choice_asks (h : Underway s b (texts.map .str).toArray m) (hlayout : b.layout ≠ .none)
    (hdata : IsMapping s.data fields m) (hmore : IsMapping b.layoutData more m)
    (hasked : Asked P.isAsync s
      (m.withCell (mappingCell (merged fields ("".intercalate texts) more))) b.layout
      (.ref m.heap.size) f m₁) (n : Nat) :
    (block (powers (n + 2)) s.here P.choice).run m
      = (renderNamed (powers (askLevel P.isAsync n)) s.environment P.isAsync b.layout
          (.ref m.heap.size) s.options >>= replaceOutput (powers (n + 2)) s).run m₁ := by
  rw [Program.choice_some h hlayout]
  exact run_bind_congr (layoutCall_run h hdata hmore hasked n _) _

end Question

end RenderFunction

end TagTemplate
