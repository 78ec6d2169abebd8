/-
  TagTemplate.Proofs.Machine.Mapping
  ────────────────────────────────
  **MAPPINGS WITH NAMES AS THEIR KEYS.**

  The data of a render are a mapping whose keys are names.  Entries that are
  put over it one after the other (`overlay`) replace those of the same name
  and leave the others.

    • `lookup?_ends`: an entry is found by its name.
    • `lookup_overlay`: the entries on top win.
    • `addEntries_ends`: the machine puts one mapping over another.
-/
import TagTemplate.Proofs.Machine.Ends

namespace TagTemplate.Machine

/-! ## §1. Entries over others. -/

/-- Entries with others put over them, one after the other. -/
def overlay (fields more : List (String × Value)) : List (String × Value) :=
  more.foldl (fun all e => withVar all e.1 e.2) fields

/-- Every entry has a name of its own. -/
def HasDistinctKeys (fields : List (String × Value)) : Prop := (fields.map Prod.fst).Nodup

theorem mem_withVar {fields : List (String × Value)} {name key : String} {v : Value} :
    key ∈ (withVar fields name v).map Prod.fst ↔ key = name ∨ key ∈ fields.map Prod.fst := by
  induction fields with
  | nil => simp [withVar]
  | cons e fields ih =>
      obtain ⟨n, w⟩ := e
      rw [withVar]
      by_cases hn : n = name
      · subst hn
        simp
      · rw [if_neg (by simp [hn])]
        simp only [List.map_cons, List.mem_cons, ih]
        exact or_left_comm

theorem HasDistinctKeys.withVar {fields : List (String × Value)} (h : HasDistinctKeys fields)
    (name : String) (v : Value) : HasDistinctKeys (withVar fields name v) := by
  unfold HasDistinctKeys at h ⊢
  induction fields with
  | nil => simp [Machine.withVar]
  | cons e fields ih =>
      obtain ⟨n, w⟩ := e
      rw [List.map_cons, List.nodup_cons] at h
      rw [Machine.withVar]
      by_cases hn : n = name
      · rw [if_pos (by simp [hn]), List.map_cons, List.nodup_cons]
        exact h
      · rw [if_neg (by simp [hn]), List.map_cons, List.nodup_cons, mem_withVar]
        refine ⟨?_, ih h.2⟩
        rintro (hname | hold)
        · exact hn hname
        · exact h.1 hold

theorem HasDistinctKeys.overlay {fields : List (String × Value)} (h : HasDistinctKeys fields)
    (more : List (String × Value)) : HasDistinctKeys (overlay fields more) := by
  induction more generalizing fields with
  | nil => exact h
  | cons e more ih => exact ih (h.withVar e.1 e.2)

/-- A name that is not there yet is added at the end. -/
theorem withVar_new {fields : List (String × Value)} {name : String}
    (h : name ∉ fields.map Prod.fst) (v : Value) : withVar fields name v = fields ++ [(name, v)] := by
  induction fields with
  | nil => rfl
  | cons e fields ih =>
      obtain ⟨n, w⟩ := e
      rw [List.map_cons, List.mem_cons, not_or] at h
      rw [withVar, if_neg (by simpa using Ne.symm h.1), ih h.2]
      rfl

/-- Entries with names of their own, put over nothing, are themselves. -/
theorem overlay_nil {fields : List (String × Value)} (h : HasDistinctKeys fields) :
    overlay [] fields = fields := by
  have hall : ∀ (rest before : List (String × Value)), HasDistinctKeys (before ++ rest) →
      overlay before rest = before ++ rest := by
    intro rest
    induction rest with
    | nil => exact fun before _ => (List.append_nil _).symm
    | cons e rest ih =>
        intro before hbefore
        have hnew : e.1 ∉ before.map Prod.fst := by
          intro hmem
          unfold HasDistinctKeys at hbefore
          rw [List.map_append, List.map_cons, List.nodup_append] at hbefore
          exact hbefore.2.2 _ hmem _ List.mem_cons_self rfl
        show overlay (withVar before e.1 e.2) rest = _
        rw [withVar_new hnew]
        have hsplit : before ++ e :: rest = (before ++ [(e.1, e.2)]) ++ rest := by simp
        rw [hsplit] at hbefore ⊢
        exact ih _ hbefore
  exact hall fields [] h

/-- **The entries on top win**, the last one of a name before the others. -/
theorem lookup_overlay (fields more : List (String × Value)) (key : String) :
    (overlay fields more).lookup key = (more.reverse.lookup key).or (fields.lookup key) := by
  induction more generalizing fields with
  | nil => rfl
  | cons e more ih =>
      obtain ⟨n, v⟩ := e
      show (overlay (withVar fields n v) more).lookup key = _
      rw [ih, lookup_withVar, List.reverse_cons, List.lookup_append, Option.or_assoc]
      congr 1
      rw [List.lookup_cons, List.lookup_nil]
      cases key == n <;> rfl

/-! ## §2. On a machine. -/

/-- A mapping with names as its keys. -/
def mappingCell (fields : List (String × Value)) : Cell :=
  .dict (fields.map fun e => (.str e.1, e.2)).toArray

/-- A value is a mapping with some entries. -/
structure IsMapping (v : Value) (fields : List (String × Value)) (m : Machine) : Prop where
  cell : ∃ id, v = .ref id ∧ m.heap[id]? = some (mappingCell fields)
  distinct : HasDistinctKeys fields

theorem IsMapping.ofCells {v : Value} {fields : List (String × Value)} {m m' : Machine}
    (h : IsMapping v fields m)
    (hcells : ∀ {id : Nat}, m.heap[id]? = some (mappingCell fields) →
      m'.heap[id]? = some (mappingCell fields)) : IsMapping v fields m' := by
  obtain ⟨id, hv, hcell⟩ := h.cell
  exact ⟨⟨id, hv, hcells hcell⟩, h.distinct⟩

section Cells

variable {m : Machine} {id : Nat} {fields : List (String × Value)}

theorem equal_names (m : Machine) (key name : String) :
    equal m (.str key) (.str name) = (key == name) := rfl

theorem checkKey_name (key : String) : Ends (checkKey depthLimit (.str key)) m () m :=
  Ends.bind .pure .pure

/-- An entry of a mapping under a name. -/
theorem lookup?_ends (h : m.heap[id]? = some (mappingCell fields)) (key : String) :
    Ends (lookup? id (.str key)) m (fields.lookup key) m := by
  have hindex : ∀ fields : List (String × Value),
      ((fields.map fun e => (Value.str e.1, e.2)).findIdx? fun e => equal m (.str key) e.1).bind
        (fun i => (fields.map fun e => (Value.str e.1, e.2))[i]?.map (·.2)) = fields.lookup key := by
    intro fields
    induction fields with
    | nil => rfl
    | cons e fields ih =>
        obtain ⟨k, v⟩ := e
        rw [List.map_cons, List.findIdx?_cons, List.lookup_cons, equal_names, ← ih]
        cases key == k with
        | true => rfl
        | false =>
            rw [if_neg Bool.false_ne_true, Option.bind_map]
            rfl
  unfold lookup?
  refine Ends.bind (checkKey_name key) (Ends.bind (Ends.cell h) (Ends.bind .get ?_))
  unfold keyIndex?
  rw [List.findIdx?_toArray]
  simp only [List.getElem?_toArray]
  rw [hindex]
  exact .pure

theorem withEntry_name (m : Machine) (fields : List (String × Value)) (key : String) (v : Value) :
    withEntry m (fields.map fun e => (Value.str e.1, e.2)).toArray (.str key) v
      = ((withVar fields key v).map fun e => (Value.str e.1, e.2)).toArray := by
  let entries (fields : List (String × Value)) := fields.map fun e => (Value.str e.1, e.2)
  have hlist : ∀ fields, ((entries fields).findIdx? fun e => equal m (.str key) e.1).elim
      (entries fields ++ [(Value.str key, v)]) (fun i => (entries fields).modify i fun e => (e.1, v))
        = entries (withVar fields key v) := by
    intro fields
    induction fields with
    | nil => rfl
    | cons e fields ih =>
        obtain ⟨k, w⟩ := e
        show (((Value.str k, w) :: entries fields).findIdx? fun e => equal m (.str key) e.1).elim
          ((Value.str k, w) :: entries fields ++ [(Value.str key, v)])
          (fun i => ((Value.str k, w) :: entries fields).modify i fun e => (e.1, v)) = _
        rw [List.findIdx?_cons, equal_names, withVar]
        by_cases hk : key = k
        · subst hk
          rw [if_pos (beq_self_eq_true key), if_pos (beq_self_eq_true key)]
          rfl
        · rw [if_neg (by simpa using hk), if_neg (by simpa using Ne.symm hk)]
          show _ = (Value.str k, w) :: entries (withVar fields key v)
          rw [← ih]
          cases (entries fields).findIdx? fun e => equal m (.str key) e.1 <;> rfl
  unfold withEntry keyIndex?
  rw [List.findIdx?_toArray]
  refine Eq.trans ?_ (congrArg List.toArray (hlist fields))
  unfold entries
  cases (fields.map fun e => (Value.str e.1, e.2)).findIdx? fun e => equal m (.str key) e.1 with
  | none => exact List.push_toArray _ _
  | some i => exact List.modify_toArray

theorem setEntry_ends (h : m.heap[id]? = some (mappingCell fields)) (key : String) (v : Value) :
    Ends (setEntry id (.str key) v) m () (m.withContent id (mappingCell (withVar fields key v))) := by
  unfold setEntry
  refine Ends.bind (checkKey_name key) (Ends.bind .get (Ends.bind (Ends.cell h) ?_))
  have hset := Ends.setCell h fun _ =>
    .dict (withEntry m (fields.map fun e => (Value.str e.1, e.2)).toArray (.str key) v)
  show Ends (setCell id fun _ =>
    .dict (withEntry m (fields.map fun e => (Value.str e.1, e.2)).toArray (.str key) v)) m () _
  rw [withEntry_name] at hset ⊢
  exact hset

/-- What is put into a cell twice is what is put there last. -/
theorem withContent_twice (m : Machine) (id : Nat) (c d : Cell) :
    (m.withContent id c).withContent id d = m.withContent id d := by
  have hheap : (m.heap.modify id fun _ => c).modify id (fun _ => d) = m.heap.modify id fun _ => d := by
    refine Array.ext_getElem? fun i => ?_
    simp only [Array.getElem?_modify]
    split
    · rw [Option.map_map]
      rfl
    · rfl
  unfold withContent
  dsimp only
  rw [hheap]

/-- **One mapping is put over another**, entry after entry. -/
theorem setEntries_ends (h : m.heap[id]? = some (mappingCell fields))
    (more : List (String × Value)) :
    Ends (setEntries id (more.map fun e => (.str e.1, e.2))) m ()
      (m.withContent id (mappingCell (overlay fields more))) := by
  induction more generalizing fields m with
  | nil =>
      have hsame : m.withContent id (mappingCell fields) = m := by
        have hheap : m.heap.modify id (fun _ => mappingCell fields) = m.heap := by
          refine Array.ext_getElem? fun i => ?_
          rw [Array.getElem?_modify]
          split
          · subst i
            rw [h]
            rfl
          · rfl
        unfold withContent
        rw [hheap]
      show Ends (pure ()) m () _
      rw [show overlay fields [] = fields from rfl, hsame]
      exact .pure
  | cons e more ih =>
      have hfirst := setEntry_ends h e.1 e.2
      have hrest := ih (withContent_same h (c := mappingCell (withVar fields e.1 e.2)))
      rw [withContent_twice] at hrest
      show Ends (do setEntry id (.str e.1) e.2; setEntries id _) m () _
      exact Ends.bind hfirst hrest

theorem addEntries_ends (h : m.heap[id]? = some (mappingCell fields)) {other : Nat}
    {more : List (String × Value)} (hother : m.heap[other]? = some (mappingCell more)) :
    Ends (addEntries id (.ref other)) m () (m.withContent id (mappingCell (overlay fields more))) := by
  have hentries : Ends (entriesOf? (.ref other)) m
      (some (more.map fun e => (Value.str e.1, e.2))) m := Ends.bind (Ends.cellOf hother) .pure
  exact Ends.bind hentries (setEntries_ends h more)

end Cells

end TagTemplate.Machine
