/-
  TagTemplate.Proofs.Script.Parsed
  ────────────────────────────────
  **THE TREE OF A TEXT IS READABLE.**

  Rule by rule: what a rule of the grammar yields is readable if what the rules
  yield is that it goes through (`Rules.Readable`).  The rules of depth 0 yield
  nothing, and those of depth `n + 1` go through those of depth `n`, so the
  rules of every depth yield readable trees only.

    • `dotted_gives`, `mappingKey_gives` — where the grammar takes no more than
      a literal or a dotted name,
    • `pattern_gives`, `typed_gives` — what follows for patterns and for targets
      with a type,
    • `parseTree_readable` — whole texts.
-/
import TagTemplate.Proofs.Script.Outcomes
import TagTemplate.Proofs.Script.Readable

namespace TagTemplate.Script

open TreeNode

/-- What the rules yield that recursion goes through is readable. -/
structure Rules.Readable (r : Rules) : Prop where
  /-- Blocks. -/
  block : r.block.Gives ReadableBlock
  /-- Patterns. -/
  pattern : r.pattern.Gives Pattern.IsReadable

namespace Parse

variable {r : Rules}

/-! ## §1. Literals and dotted names. -/

/-- A literal or a dotted name. -/
abbrev Fixed (e : Expr) : Prop := (ofExpr e).IsFixed

/-- A dotted name. -/
abbrev Dotted (e : Expr) : Prop := (ofExpr e).root?.isSome = true

theorem signedNumber_gives : Gives signedNumber Fixed := by
  have hnumber : Gives (do
      let t ← peek
      if t.kind == .number then
        advance
        return .constant (numberValue t.text)
      else reject) Fixed := by
    refine .after fun t => ?_
    split
    · exact .after fun _ => .pure (.inl rfl)
    · exact .reject
  refine .after fun negative => hnumber.bind fun first hfirst => ?_
  have hsigned : Fixed (if negative then .unary .minus first else first) := by
    cases negative
    · exact hfirst
    · exact .inl rfl
  refine .after fun plus => ?_
  split
  · exact .after fun _ => .after fun _ => .pure (.inl rfl)
  · refine .after fun minus => ?_
    split
    · exact .after fun _ => .after fun _ => .pure (.inl rfl)
    · exact .pure hsigned

/-- Strings in a row are bytes, a text with expressions in it, or a text. -/
theorem strings_gives (group : Parse Expr) : Gives (strings group) Fixed := by
  refine .after fun tokens => ?_
  split
  · exact .reject
  · refine .after fun g => ?_
    split
    · exact .pure (.inl rfl)
    · split
      · exact .pure (.inl rfl)
      · exact .pure (.inl rfl)

theorem textLiteral_gives : Gives (textLiteral r) Fixed := by
  refine .after fun t => ?_
  split
  · exact strings_gives _
  · exact .reject

theorem dotted_gives (dots : Bool) : Gives (dotted dots) Dotted := by
  have hmember : ∀ e, Dotted e → Gives (do
      mark "."
      return Expr.attribute e (← name)) Dotted :=
    fun e he => .after fun _ => .after fun x => .pure (show Dotted (.attribute e x) from he)
  refine .after fun first => (Gives.loop hmember (show Dotted (.name first .load) from rfl)).bind
    fun e he => ?_
  split
  · split
    · exact .reject
    · exact .pure he
  · exact .pure he

theorem mappingKey_gives : Gives (mappingKey r) Fixed := by
  refine .after fun t => ?_
  split
  · exact textLiteral_gives
  · split
    · exact .after fun _ => .pure (.inl rfl)
    · exact .after fun _ => .pure (.inl rfl)
    · exact .after fun _ => .pure (.inl rfl)
    · exact .reject
  · exact (dotted_gives true).mono fun _ => .inr
  · exact signedNumber_gives

/-! ## §2. Patterns. -/

theorem starPattern_gives : Gives starPattern Pattern.IsReadable :=
  .after fun _ => .orElse (.after fun _ => .pure (readable_star _))
    (.after fun _ => .pure (readable_star none))

/-- The pairs of a mapping are among its parts. -/
theorem splitParts_parts : ∀ {parts : List (Sum (Expr × Pattern) String)}
    {pairs : List (Expr × Pattern)} {rest : Option String},
    splitParts parts = some (pairs, rest) → ∀ q ∈ pairs, .inl q ∈ parts
  | [], _, _, h => by
      cases h
      nofun
  | [.inr n], _, _, h => by
      cases h
      nofun
  | .inl p :: more, _, _, h => by
      obtain ⟨_, hmore, heq⟩ := Option.map_eq_some_iff.mp h
      cases heq
      exact List.forall_mem_cons.mpr ⟨List.mem_cons_self, fun q hq =>
        List.mem_cons_of_mem _ (splitParts_parts hmore q hq)⟩

section Patterns

variable (hr : r.Readable)
include hr

theorem sequencePart_gives : Gives (sequencePart r) Pattern.IsReadable :=
  .orElse starPattern_gives hr.pattern

theorem openSequence_gives : Gives (openSequence r) Pattern.IsReadable := by
  refine (sequencePart_gives hr).commaList.bind fun (items, trailing) hitems => ?_
  dsimp only
  split
  · split
    · exact .pure (readable_sequence hitems)
    · exact .reject
  · exact .pure (readable_sequence hitems)

theorem enclosed_gives : Gives (enclosed r) Pattern.IsReadable := by
  refine .after fun bracket => ?_
  split
  · exact (sequencePart_gives hr).commaList?.bind fun _ hitems => .after fun _ =>
      .pure (readable_sequence hitems)
  · refine .after fun _ => .after fun empty => ?_
    split
    · exact .pure (readable_sequence nofun)
    · refine (sequencePart_gives hr).commaList.bind fun (items, trailing) hitems =>
        .after fun _ => ?_
      dsimp only at hitems ⊢
      split
      · split
        · exact .pure (readable_sequence hitems)
        · exact .reject
      · split
        · exact .pure (readable_sequence hitems)
        · exact .pure (hitems _ List.mem_cons_self)
      · exact .pure (readable_sequence hitems)

theorem mappingPart_gives : Gives (mappingPart r)
    fun part => ∀ q, part = .inl q → Fixed q.1 ∧ q.2.IsReadable := by
  refine .after fun rest => ?_
  split
  · exact .after fun _ => .pure nofun
  · refine mappingKey_gives.bind fun key hkey => .after fun _ => hr.pattern.bind fun p hp => .pure ?_
    rintro q ⟨⟩
    exact ⟨hkey, hp⟩

theorem mappingPattern_gives : Gives (mappingPattern r) Pattern.IsReadable := by
  refine .after fun _ => (mappingPart_gives hr).commaList?.bind fun parts hparts => .after fun _ =>
    .bind (.ofOption fun _ h => h) fun (pairs, rest) hpairs => ?_
  have hall : ∀ q ∈ pairs, Fixed q.1 ∧ q.2.IsReadable :=
    fun q hq => hparts _ (splitParts_parts hpairs q hq) q rfl
  exact .pure (readable_mapping (List.forall_mem_map.mpr fun q hq => (hall q hq).1)
    (List.forall_mem_map.mpr fun q hq => (hall q hq).2) rest)

theorem objectPart_gives : Gives (objectPart r) fun part => part.2.IsReadable :=
  .after fun _ => hr.pattern.bind fun _ hp => .pure hp

theorem objectPattern_gives : Gives (objectPattern r) Pattern.IsReadable := by
  refine (dotted_gives false).bind fun cls hcls => .after fun _ =>
    (objectPart_gives hr).commaList?.bind fun parts hparts => .after fun _ => ?_
  dsimp only
  split
  · exact .reject
  · exact .pure (readable_object hcls
      (List.forall_mem_map.mpr fun q hq => hparts q ((List.takeWhile_sublist _).mem hq))
      (List.forall_mem_map.mpr fun q hq => hparts q (List.mem_of_mem_drop hq)) _)

theorem closedPattern_gives : Gives (closedPattern r) Pattern.IsReadable := by
  refine .after fun t => ?_
  split
  · exact signedNumber_gives.bind fun _ h => .pure (readable_value h)
  · exact textLiteral_gives.bind fun _ h => .pure (readable_value h)
  · split
    · exact .after fun _ => .pure (readable_singleton _)
    · exact .after fun _ => .pure (readable_singleton _)
    · exact .after fun _ => .pure (readable_singleton _)
    · exact .reject
  · refine .orElse (.after fun _ => .pure (readable_capture _)) (.orElse ?_ (.orElse ?_ ?_))
    · refine .after fun _ => .after fun dot => .after fun opens => ?_
      split
      · exact .reject
      · exact .pure (readable_capture none)
    · refine (dotted_gives true).bind fun e he => .after fun opens => ?_
      split
      · exact .reject
      · exact .pure (readable_value (.inr he))
    · exact objectPattern_gives hr
  · split
    · exact signedNumber_gives.bind fun _ h => .pure (readable_value h)
    · exact enclosed_gives hr
    · exact enclosed_gives hr
    · exact mappingPattern_gives hr
    · exact .reject
  · exact .reject

/-- **What is read as a pattern is readable.** -/
theorem pattern_gives : Gives (pattern r) Pattern.IsReadable := by
  refine (closedPattern_gives hr).bind fun first hfirst =>
    (Gives.many (.after fun _ => closedPattern_gives hr)).bind fun rest hrest => ?_
  extract_lets p
  have hp : p.IsReadable := by
    cases rest with
    | nil => exact hfirst
    | cons q qs => exact readable_either (List.forall_mem_cons.mpr ⟨hfirst, hrest⟩)
  refine .after fun named => ?_
  split
  · refine .after fun t => ?_
    split
    · refine .after fun diagnose => ?_
      split
      · exact .haltAt _ _
      · exact .reject
    · exact .after fun _ => .pure (readable_captured hp _)
  · exact .pure hp

theorem casePattern_gives : Gives (casePattern r) Pattern.IsReadable :=
  .orElse (openSequence_gives hr) (pattern_gives hr)

end Patterns

/-! ## §3. Simple statements. -/

/-- No target is a name that is read. -/
theorem asTarget_store {e goal : Expr} (h : asTarget .store e = some goal) (id : String) :
    goal ≠ .name id .load := by
  rintro rfl
  cases e <;> simp [asTarget] at h

/-- **A target that is given a type is no name that is read.** -/
theorem typed_gives (start : Nat) (e : Expr) (simple : Bool) :
    Gives (typed r start e simple) Stmt.IsReadable := by
  unfold typed
  split
  · exact .after fun _ => .after fun _ => .reject
  · exact .after fun _ => .bind (.ofOption fun _ h => h) fun goal hgoal => .after fun note =>
      .after fun _ => .either fun value =>
        .pure (readable_annAssign (asTarget_store hgoal) note value simple)

theorem assignment_gives : ∀ (fuel : Nat) (goals : List Expr),
    Gives (assignment r fuel goals) Stmt.IsReadable
  | 0, _ => .reject
  | fuel + 1, goals => by
      refine .after fun _ => .after fun start => .after fun hand => ?_
      split
      · refine .after fun value => .after fun again => ?_
        split
        · exact .after fun _ => .after fun _ => .reject
        · exact .pure (readable_assign _ _)
      · refine .after fun e => .after fun again => ?_
        split
        · exact .after fun goal => assignment_gives fuel _
        · exact .pure (readable_assign _ _)

theorem expressionStatement_gives : Gives (expressionStatement r) Stmt.IsReadable := by
  refine .after fun first => .after fun start => .after fun e => .after fun t => ?_
  split
  · split
    · exact .after fun _ => .after fun _ => assignment_gives _ _
    · split
      · exact .after fun _ => typed_gives start e _
      · split
        · split
          · exact .after fun _ => .after fun _ => .after fun _ =>
              .pure (readable_two rfl (readable_ofExpr _) (readable_ofExpr _))
          · exact .after fun _ => .after fun _ => .reject
        · exact .pure (readable_expr e)
  · exact .pure (readable_expr e)

theorem importFromStatement_gives : Gives importFromStatement Stmt.IsReadable := by
  refine .after fun _ => .after fun level => .either fun source => .after fun _ =>
    .after fun star => ?_
  split
  · exact .pure (readable_importFrom _ _ _)
  · refine .after fun opens => ?_
    split
    · exact .after fun _ => .after fun _ => .pure (readable_importFrom _ _ _)
    · refine .after fun names => .after fun again => ?_
      split
      · refine .after fun diagnose => ?_
        split
        · exact .haltHere _
        · exact .reject
      · exact .pure (readable_importFrom _ _ _)

theorem raising_gives : Gives (raising r) Stmt.IsReadable := by
  refine .after fun _ => .after fun e => ?_
  split
  · exact .pure (readable_two rfl readable_nothing readable_nothing)
  · exact .after fun _ => .either fun cause =>
      .pure (readable_two rfl (readable_ofExpr _) (readable_ofOption cause))

theorem assertion_gives : Gives (assertion r) Stmt.IsReadable :=
  .after fun _ => .after fun test => .after fun _ => .either fun message =>
    .pure (readable_two rfl (readable_ofExpr test) (readable_ofOption message))

theorem deletion_gives : Gives (deletion r) Stmt.IsReadable := by
  refine .after fun _ => .after fun start => .orElse ?_ (.after fun _ => .reject)
  refine .after fun (items, _) => .after fun t => ?_
  split
  · exact .pure (readable_mk rfl (readable_ofExprs items))
  · exact .reject

theorem simpleStatement_gives : Gives (simpleStatement r) Stmt.IsReadable := by
  refine .after fun t => ?_
  split
  · split
    · exact .after fun _ => .after fun value => .pure (readable_one rfl (readable_ofOption value))
    · exact .after fun _ => .after fun names => .pure (readable_mk rfl (readable_ofAliases names))
    · exact importFromStatement_gives
    · exact raising_gives
    · exact .after fun _ => .pure (readable_leaf rfl)
    · exact deletion_gives
    · exact .after fun e => .pure (readable_expr e)
    · exact assertion_gives
    · exact .after fun _ => .pure (readable_leaf rfl)
    · exact .after fun _ => .pure (readable_leaf rfl)
    · exact .after fun _ => .after fun _ => .pure (readable_leaf rfl)
    · exact .after fun _ => .after fun _ => .pure (readable_leaf rfl)
    · exact expressionStatement_gives
  · exact expressionStatement_gives

theorem numbered_gives {p : Parse Stmt} (h : Gives p Stmt.IsReadable) :
    Gives (numbered p) fun l => ReadableBlock [l] :=
  .after fun line => h.bind fun _ hs => .pure (readable_line hs line)

theorem simpleStatements_gives : Gives (simpleStatements r) ReadableBlock :=
  (numbered_gives simpleStatement_gives).bind fun _ hfirst =>
    (Gives.many (.after fun _ => numbered_gives simpleStatement_gives)).bind fun _ hrest =>
      .after fun _ => .after fun _ =>
        .pure (readable_lines (List.forall_mem_cons.mpr ⟨hfirst, hrest⟩))

/-! ## §4. Compound statements. -/

section Compound

variable (hr : r.Readable)
include hr

theorem function_gives (ds : List Expr) : Gives (function r ds) Stmt.IsReadable :=
  .after fun _ => .after fun _ => .after fun _ => .after fun _ => .after fun ps => .after fun _ =>
    .after fun _ => .either fun returns => .after fun _ => hr.block.bind fun _ hbody =>
      .pure (readable_four rfl (readable_row (readable_ofParams ps)) (readable_row hbody)
        (readable_row (readable_ofExprs ds)) (readable_ofOption returns))

theorem classDefinition_gives (ds : List Expr) : Gives (classDefinition r ds) Stmt.IsReadable := by
  refine .after fun _ => .after fun n => .after fun _ => ?_
  have hbody : ∀ x : List Expr × List Keyword, Gives (do
      mark ":"
      return .classDef n x.1 x.2 (← r.block) ds) Stmt.IsReadable :=
    fun (bases, ks) => .after fun _ => hr.block.bind fun _ hbody =>
      .pure (readable_four rfl (readable_row (readable_ofExprs bases))
        (readable_row (readable_ofKeywords ks)) (readable_row hbody)
        (readable_row (readable_ofExprs ds)))
  split
  · exact .after fun _ => .after fun _ => .after hbody
  · exact .after hbody

theorem decorated_gives : Gives (decorated r) Stmt.IsReadable := by
  refine .after fun ds => .after fun isClass => ?_
  split
  · exact classDefinition_gives hr ds
  · exact function_gives hr ds

theorem otherwise_gives : Gives (otherwise r) ReadableBlock := by
  refine .after fun word => ?_
  split
  · exact .after fun _ => hr.block
  · exact .pure readableBlock_nil

theorem branches_gives : ∀ fuel : Nat, Gives (branches r fuel) ReadableBlock
  | 0 => .reject
  | fuel + 1 => by
      refine .after fun line => .after fun word => ?_
      split
      · exact .after fun test => .after fun _ => hr.block.bind fun _ hbody =>
          (branches_gives fuel).bind fun _ hrest =>
            .pure (readable_line (readable_ifElse test hbody hrest) line)
      · exact otherwise_gives hr

theorem ifStatement_gives : Gives (ifStatement r) Stmt.IsReadable :=
  .after fun _ => .after fun test => .after fun _ => hr.block.bind fun _ hbody => .after fun fuel =>
    (branches_gives hr fuel).bind fun _ hrest => .pure (readable_ifElse test hbody hrest)

theorem whileStatement_gives : Gives (whileStatement r) Stmt.IsReadable :=
  .after fun _ => .after fun test => .after fun _ => hr.block.bind fun _ hbody =>
    (otherwise_gives hr).bind fun _ hrest =>
      .pure (readable_three rfl (readable_ofExpr test) (readable_row hbody) (readable_row hrest))

theorem forStatement_gives : Gives (forStatement r) Stmt.IsReadable :=
  .after fun _ => .after fun _ => .after fun goal => .after fun iter => .after fun _ =>
    hr.block.bind fun _ hbody => (otherwise_gives hr).bind fun _ hrest =>
      .pure (readable_four rfl (readable_ofExpr goal) (readable_ofExpr iter) (readable_row hbody)
        (readable_row hrest))

theorem withStatement_gives : Gives (withStatement r) Stmt.IsReadable :=
  .after fun _ => .after fun _ => .after fun _ => hr.block.bind fun _ hbody =>
    .pure (readable_two rfl (readable_row (List.forall_mem_map.mpr fun i _ =>
      readable_two rfl (readable_ofExpr i.manager) (readable_ofOption i.target)))
      (readable_row hbody))

theorem handler_gives (groups : Bool) : Gives (handler r groups) Handler.IsReadable := by
  refine .after fun line => .after fun _ => ?_
  have htyped : Gives (do
      let type ← r.expression
      let n ← if ← tryWord "as" then some <$> name else pure none
      mark ":"
      return .mk (some type) n (← r.block) line) Handler.IsReadable :=
    .after fun _ => .after fun _ => .either fun _ => .after fun _ => hr.block.bind fun _ hbody =>
      .pure (readable_handler hbody _ _ line)
  split
  · refine .after fun _ => .after fun colon => ?_
    split
    · exact .reject
    · exact htyped
  · refine .after fun star => .checked <| .after fun colon => ?_
    split
    · exact hr.block.bind fun _ hbody => .pure (readable_handler hbody none none line)
    · exact htyped

theorem finally?_gives : Gives (finally? r) fun b => ReadableBlock (b.getD []) := by
  refine .after fun word => ?_
  split
  · exact .after fun _ => hr.block.bind fun _ hbody => .pure hbody
  · exact .pure readableBlock_nil

theorem tryStatement_gives : Gives (tryStatement r) Stmt.IsReadable := by
  refine .after fun _ => .after fun _ => hr.block.bind fun _ hbody => .after fun final => ?_
  split
  · exact (finally?_gives hr).bind fun _ hfinal =>
      .pure (readable_tryBlock hbody (List.forall_mem_nil _) readableBlock_nil hfinal false)
  · refine .after fun guarded => ?_
    split
    · refine .after fun t => (Gives.many (handler_gives hr _)).bind fun _ hhandlers => ?_
      split
      · exact .reject
      · exact (otherwise_gives hr).bind fun _ horElse => (finally?_gives hr).bind fun _ hfinal =>
          .pure (readable_tryBlock hbody hhandlers horElse hfinal _)
    · refine .after fun diagnose => ?_
      split
      · exact .haltHere _
      · exact .reject

theorem caseBlock_gives : Gives (caseBlock r) Case.IsReadable :=
  .after fun line => .after fun _ => (casePattern_gives hr).bind fun _ hp => .after fun _ =>
    .either fun guard => .after fun _ => .after fun _ => .checked <| .after fun _ =>
      hr.block.bind fun _ hbody => .pure (readable_case hp hbody guard line)

theorem matchStatement_gives : Gives (matchStatement r) Stmt.IsReadable := by
  refine .after fun _ => .after fun e => .after fun _ => .after fun _ => .checked <|
    .after fun _ => .after fun _ => .after fun _ => .after fun _ => .checked <|
    .after fun _ => (Gives.many (caseBlock_gives hr)).bind fun _ hcases => ?_
  split
  · exact .reject
  · exact .after fun _ =>
      .pure (readable_two rfl (readable_ofExpr e) (readable_row (readable_cases hcases)))

theorem compoundStatement_gives : Gives (compoundStatement r) Stmt.IsReadable := by
  refine .after fun t => ?_
  split
  · split
    · exact function_gives hr []
    · exact ifStatement_gives hr
    · exact classDefinition_gives hr []
    · exact withStatement_gives hr
    · exact forStatement_gives hr
    · exact tryStatement_gives hr
    · exact whileStatement_gives hr
    · refine .after fun u => ?_
      split
      · exact function_gives hr []
      · exact withStatement_gives hr
      · exact forStatement_gives hr
      · exact .reject
    · exact .reject
  · split
    · exact decorated_gives hr
    · exact .reject
  · split
    · exact matchStatement_gives hr
    · exact .reject
  · exact .reject

theorem statement_gives : Gives (statement r) ReadableBlock :=
  .orElse ((numbered_gives (compoundStatement_gives hr)).bind fun _ h => .pure h)
    simpleStatements_gives

theorem statements_gives : Gives (statements r) ReadableBlock :=
  (Gives.many (statement_gives hr)).bind fun _ h => .pure (readableBlock_flatten h)

theorem block_gives : Gives (block r) ReadableBlock := by
  refine .after fun t => ?_
  split
  · refine .after fun _ => .after fun u => ?_
    split
    · refine .after fun _ => (statements_gives hr).bind fun body hbody => ?_
      split
      · exact .reject
      · exact .after fun _ => .pure hbody
    · refine .after fun diagnose => ?_
      split
      · exact .haltHere _
      · exact .reject
  · exact simpleStatements_gives

end Compound

/-! ## §5. Whole texts. -/

/-- The rules of every depth. -/
theorem rules_readable : ∀ depth : Nat, (rules depth).Readable
  | 0 => ⟨.reject, .reject⟩
  | depth + 1 => ⟨block_gives (rules_readable depth), pattern_gives (rules_readable depth)⟩

theorem program_gives (depth : Nat) : Gives (program depth) ReadableBlock :=
  (statements_gives (rules_readable depth)).bind fun _ h => .after fun _ => .pure h

end Parse

/-- **The tree of a text is readable.** -/
theorem parseTree_readable {text : String} {t : Tree} (h : parseTree text = .ok t) :
    (ofTree t).IsReadable := by
  unfold parseTree at h
  split at h
  · cases h
  · exact readable_row (Source.run_gives (Parse.program_gives _) h)

end TagTemplate.Script
