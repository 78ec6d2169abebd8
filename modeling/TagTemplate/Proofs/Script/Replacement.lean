/-
  TagTemplate.Proofs.Script.Replacement
  ────────────────────────────────
  **NAMES AT EVERY DEPTH.**

  What a program mentions, and what a substitution does to it, is defined sort
  by sort of its parts.  On nodes both are one walk:

    mentions      — of every node, the name it reads or the names it binds,
    substitution  — every node that reads a name is another node, and all
                    others keep their label, their number of parts and their
                    place.

    • `mem_inBlock_iff` — a program mentions a name exactly where some node of
      it does,
    • `ofTree_block` — a substitution is a replacement of nodes,
    • `isReplaced_iff` — which is known by what is at each path.
-/
import TagTemplate.Proofs.Script.Nodes
import TagTemplate.Script.Names
import TagTemplate.Script.Substitution

namespace TagTemplate.Script

/-! ## §1. What a node mentions. -/

/-- The name that an import binds: the one behind `as`, or else the first part of the other. -/
def Alias.boundName (a : Alias) : String :=
  (a.binder.filter (!·.isEmpty)).getD (String.ofList (a.name.toList.takeWhile (· != '.')))

/-- The names that a node with a label binds or declares: definitions, parameters, imports,
declarations, handlers, and the patterns that give their match a name. -/
@[simp]
def NodeLabel.binders : NodeLabel → List String
  | .funcDef _ name | .classDef name => [name]
  | .param _ name => [name]
  | .imported a => [a.boundName]
  | .globalNames names | .nonlocalNames names => names
  | .handler name _ => name.toList
  | .capturePattern name | .starPattern name | .mappingPattern name => name.toList
  | _ => []

namespace TreeNode

/-- The names that a node itself binds, declares or unbinds. -/
def binders : TreeNode → List String
  | .ident _ .load => []
  | .ident id .store | .ident id .delete => [id]
  | .mk l _ => l.binders

/-- What a node itself mentions. -/
def ownMentions : TreeNode → List Mention
  | .ident id use => [.ofUse use id]
  | .mk l _ => l.binders.map .binds

mutual

/-- What a node and all nodes inside it mention. -/
@[simp]
def mentions : TreeNode → List Mention
  | .ident id use => [.ofUse use id]
  | .mk l ns => l.binders.map .binds ++ mentionsAll ns

/-- What nodes in a row mention. -/
@[simp]
def mentionsAll : List TreeNode → List Mention
  | [] => []
  | n :: ns => mentions n ++ mentionsAll ns

end

theorem at?_cons_eq_some_iff {n k : TreeNode} {i : Nat} {path : List Nat} :
    n.at? (i :: path) = some k ↔ ∃ part, n.parts[i]? = some part ∧ part.at? path = some k :=
  Option.bind_eq_some_iff

theorem mem_mentionsAll {m : Mention} {ns : List TreeNode} :
    m ∈ mentionsAll ns ↔ ∃ n ∈ ns, m ∈ n.mentions := by
  induction ns with
  | nil => simp [mentionsAll]
  | cons n ns ih => simp [mentionsAll, ih]

mutual

/-- **What is mentioned is mentioned by a node at some path.** -/
theorem mem_mentions_iff {m : Mention} : ∀ n : TreeNode,
    m ∈ n.mentions ↔ ∃ path k, n.at? path = some k ∧ m ∈ k.ownMentions
  | .ident id use => by
      constructor
      · intro h
        exact ⟨[], .ident id use, rfl, h⟩
      · rintro ⟨path, k, hk, hm⟩
        cases path with
        | nil =>
            cases hk
            exact hm
        | cons i path => cases hk
  | .mk l ns => by
      -- a path is empty, or it leads into one of the parts
      have hparts := mem_mentions_parts (m := m) ns
      rw [mentions, List.mem_append, mem_mentionsAll]
      constructor
      · rintro (h | ⟨n, hn, h⟩)
        · exact ⟨[], .mk l ns, rfl, h⟩
        · obtain ⟨path, k, hk, hm⟩ := (hparts n hn).mp h
          obtain ⟨i, hi⟩ := List.getElem?_of_mem hn
          exact ⟨i :: path, k, at?_cons_eq_some_iff.mpr ⟨n, hi, hk⟩, hm⟩
      · rintro ⟨path, k, hk, hm⟩
        cases path with
        | nil =>
            cases hk
            exact .inl hm
        | cons i path =>
            obtain ⟨n, hi, hk⟩ := at?_cons_eq_some_iff.mp hk
            have hn : n ∈ ns := List.mem_of_getElem? hi
            exact .inr ⟨n, hn, (hparts n hn).mpr ⟨path, k, hk, hm⟩⟩

theorem mem_mentions_parts {m : Mention} : ∀ ns : List TreeNode, ∀ n ∈ ns,
    m ∈ n.mentions ↔ ∃ path k, n.at? path = some k ∧ m ∈ k.ownMentions
  | [] => nofun
  | n :: ns => List.forall_mem_cons.mpr ⟨mem_mentions_iff n, mem_mentions_parts ns⟩

end

theorem reads_mem_ownMentions {x : String} {n : TreeNode} :
    .reads x ∈ n.ownMentions ↔ n = .ident x .load := by
  cases n with
  | ident id use => cases use <;> simp [ownMentions, Mention.ofUse, eq_comm]
  | mk l ns => simp [ownMentions]

theorem binds_mem_ownMentions {x : String} {n : TreeNode} :
    .binds x ∈ n.ownMentions ↔ x ∈ n.binders := by
  cases n with
  | ident id use => cases use <;> simp [ownMentions, binders, Mention.ofUse]
  | mk l ns => simp [ownMentions, binders]

/-! ## §2. What a program mentions. -/

@[simp] theorem mentions_row (ns : List TreeNode) : (row ns).mentions = mentionsAll ns := by
  rw [row, mentions]
  rfl

@[simp] theorem mentions_nothing : nothing.mentions = [] := rfl

mutual

theorem mentions_ofExpr : ∀ e : Expr, (ofExpr e).mentions = Mention.inExpr e
  | .boolOp op values => by
      simp [ofExpr, Mention.inExpr, mentionsAll_ofExprs values]
  | .named target value => by
      simp [ofExpr, Mention.inExpr, Mention.ofUse, mentions_ofExpr value]
  | .binary op left right => by
      simp [ofExpr, Mention.inExpr, mentions_ofExpr left, mentions_ofExpr right]
  | .unary op operand => by
      simp [ofExpr, Mention.inExpr, mentions_ofExpr operand]
  | .lambda ps body => by
      simp [ofExpr, Mention.inExpr, mentionsAll_ofParams ps, mentions_ofExpr body]
  | .ifElse test body orElse => by
      simp [ofExpr, Mention.inExpr, mentions_ofExpr test, mentions_ofExpr body, mentions_ofExpr orElse]
  | .dict es => by
      simp [ofExpr, Mention.inExpr, mentionsAll_ofEntries es]
  | .set items => by
      simp [ofExpr, Mention.inExpr, mentionsAll_ofExprs items]
  | .comp kind item cs line => by
      simp [ofExpr, Mention.inExpr, mentions_ofExpr item, mentionsAll_ofClauses cs]
  | .dictComp key value cs line => by
      simp [ofExpr, Mention.inExpr, mentions_ofExpr key, mentions_ofExpr value,
        mentionsAll_ofClauses cs]
  | .await value line => by
      simp [ofExpr, Mention.inExpr, mentions_ofExpr value]
  | .yield value line => by
      simp [ofExpr, Mention.inExpr, mentions_ofOption value]
  | .yieldFrom value line => by
      simp [ofExpr, Mention.inExpr, mentions_ofExpr value]
  | .compare left rest => by
      simp [ofExpr, Mention.inExpr, mentions_ofExpr left, mentionsAll_ofComparisons rest]
  | .call func args ks => by
      simp [ofExpr, Mention.inExpr, mentions_ofExpr func, mentionsAll_ofExprs args,
        mentionsAll_ofKeywords ks]
  | .joined pieces => by
      simp [ofExpr, Mention.inExpr, mentionsAll_ofExprs pieces]
  | .formatted value conversion none => by
      simp [ofExpr, Mention.inExpr, mentions_ofExpr value]
  | .formatted value conversion (some spec) => by
      simp [ofExpr, Mention.inExpr, mentions_ofExpr value, mentionsAll_ofExprs spec]
  | .constant c => rfl
  | .attribute value name => by
      simp [ofExpr, Mention.inExpr, mentions_ofExpr value]
  | .subscript value index => by
      simp [ofExpr, Mention.inExpr, mentions_ofExpr value, mentions_ofExpr index]
  | .starred value line => by
      simp [ofExpr, Mention.inExpr, mentions_ofExpr value]
  | .name id use => rfl
  | .list items => by
      simp [ofExpr, Mention.inExpr, mentionsAll_ofExprs items]
  | .tuple items => by
      simp [ofExpr, Mention.inExpr, mentionsAll_ofExprs items]
  | .slice lower upper step => by
      simp [ofExpr, Mention.inExpr, mentions_ofOption lower, mentions_ofOption upper,
        mentions_ofOption step]

theorem mentions_ofOption : ∀ e : Option Expr, (ofOption e).mentions = Mention.inOption e
  | none => rfl
  | some e => mentions_ofExpr e

theorem mentionsAll_ofExprs : ∀ es : List Expr, mentionsAll (ofExprs es) = Mention.inExprs es
  | [] => rfl
  | e :: rest => by
      rw [ofExprs, mentionsAll, mentions_ofExpr e, mentionsAll_ofExprs rest, Mention.inExprs]

theorem mentionsAll_ofEntries : ∀ es : List Entry, mentionsAll (ofEntries es) = Mention.inEntries es
  | [] => rfl
  | .item key value :: rest => by
      simp [ofEntries, Mention.inEntries, mentions_ofExpr key, mentions_ofExpr value,
        mentionsAll_ofEntries rest]
  | .spread value :: rest => by
      simp [ofEntries, Mention.inEntries, mentions_ofExpr value, mentionsAll_ofEntries rest]

theorem mentionsAll_ofComparisons : ∀ cs : List Comparison, mentionsAll (ofComparisons cs) = Mention.inComparisons cs
  | [] => rfl
  | .mk op right :: rest => by
      simp [ofComparisons, Mention.inComparisons, mentions_ofExpr right, mentionsAll_ofComparisons rest]

theorem mentionsAll_ofKeywords : ∀ ks : List Keyword, mentionsAll (ofKeywords ks) = Mention.inKeywords ks
  | [] => rfl
  | .mk name value line :: rest => by
      simp [ofKeywords, Mention.inKeywords, mentions_ofExpr value, mentionsAll_ofKeywords rest]

theorem mentionsAll_ofClauses : ∀ cs : List Clause, mentionsAll (ofClauses cs) = Mention.inClauses cs
  | [] => rfl
  | .mk isAsync target iter conditions :: rest => by
      simp [ofClauses, Mention.inClauses, mentions_ofExpr target, mentions_ofExpr iter,
        mentionsAll_ofExprs conditions, mentionsAll_ofClauses rest]

theorem mentionsAll_ofParams : ∀ ps : List Param, mentionsAll (ofParams ps) = Mention.inParams ps
  | [] => rfl
  | .mk kind name type dflt :: rest => by
      simp [ofParams, Mention.inParams, mentions_ofOption type, mentions_ofOption dflt,
        mentionsAll_ofParams rest]

end

mutual

/-- A pattern mentions what its nodes mention; a name that is given to the match comes first there. -/
theorem mem_mentions_ofPattern {m : Mention} : ∀ p : Pattern,
    m ∈ (ofPattern p).mentions ↔ m ∈ Mention.inPattern p
  | .value e => by simp [ofPattern, Mention.inPattern, mentions_ofExpr e]
  | .singleton c => by simp [ofPattern, Mention.inPattern]
  | .sequence items => by simp [ofPattern, Mention.inPattern, mem_mentionsAll_ofPatterns items]
  | .star name => by simp [ofPattern, Mention.inPattern, Mention.binder]
  | .mapping keys items rest => by
      simp [ofPattern, Mention.inPattern, Mention.binder, mentionsAll_ofExprs keys,
        mem_mentionsAll_ofPatterns items, or_assoc, or_comm]
  | .object cls items names named => by
      simp [ofPattern, Mention.inPattern, mentions_ofExpr cls, mem_mentionsAll_ofPatterns items,
        mem_mentionsAll_ofPatterns named]
  | .capture none name => by simp [ofPattern, Mention.inPattern, Mention.binder]
  | .capture (some inner) name => by
      simp [ofPattern, Mention.inPattern, Mention.binder, mem_mentions_ofPattern inner, or_comm]
  | .either choices => by simp [ofPattern, Mention.inPattern, mem_mentionsAll_ofPatterns choices]

theorem mem_mentionsAll_ofPatterns {m : Mention} : ∀ ps : List Pattern,
    m ∈ mentionsAll (ofPatterns ps) ↔ m ∈ Mention.inPatterns ps
  | [] => .rfl
  | p :: rest => by
      simp [ofPatterns, Mention.inPatterns, mem_mentions_ofPattern p,
        mem_mentionsAll_ofPatterns rest]

end

theorem mentionsAll_ofWithItems (items : List WithItem) :
    mentionsAll (ofWithItems items) = Mention.inWithItems items := by
  induction items with
  | nil => rfl
  | cons i items ih =>
      rw [Mention.inWithItems, List.flatMap_cons, ← mentions_ofExpr, ← mentions_ofOption]
      rw [Mention.inWithItems] at ih
      rw [← ih]
      simp [ofWithItems]

theorem mentionsAll_ofAliases (names : List Alias) :
    mentionsAll (ofAliases names) = names.map Mention.ofAlias := by
  induction names with
  | nil => rfl
  | cons a names ih =>
      rw [List.map_cons, ← ih]
      rfl

mutual

theorem mem_mentions_ofStmt {m : Mention} : ∀ s : Stmt,
    m ∈ (ofStmt s).mentions ↔ m ∈ Mention.inStmt s
  | .funcDef isAsync name ps body decorators returns => by
      simp [ofStmt, Mention.inStmt, mentionsAll_ofParams, mem_mentionsAll_ofBlock body,
        mentionsAll_ofExprs, mentions_ofOption]
  | .classDef name bases ks body decorators => by
      simp [ofStmt, Mention.inStmt, mentionsAll_ofExprs, mentionsAll_ofKeywords,
        mem_mentionsAll_ofBlock body]
  | .ret value => by simp [ofStmt, Mention.inStmt, mentions_ofOption]
  | .delete targets => by simp [ofStmt, Mention.inStmt, mentionsAll_ofExprs]
  | .assign targets value => by
      simp [ofStmt, Mention.inStmt, mentionsAll_ofExprs, mentions_ofExpr]
  | .augAssign target op value => by simp [ofStmt, Mention.inStmt, mentions_ofExpr]
  | .annAssign target type value simple => by
      simp [ofStmt, Mention.inStmt, mentions_ofExpr, mentions_ofOption]
  | .forLoop isAsync target iter body orElse => by
      simp [ofStmt, Mention.inStmt, mentions_ofExpr, mem_mentionsAll_ofBlock body,
        mem_mentionsAll_ofBlock orElse]
  | .whileLoop test body orElse => by
      simp [ofStmt, Mention.inStmt, mentions_ofExpr, mem_mentionsAll_ofBlock body,
        mem_mentionsAll_ofBlock orElse]
  | .ifElse test body orElse => by
      simp [ofStmt, Mention.inStmt, mentions_ofExpr, mem_mentionsAll_ofBlock body,
        mem_mentionsAll_ofBlock orElse]
  | .withBlock isAsync items body => by
      simp [ofStmt, Mention.inStmt, mentionsAll_ofWithItems, mem_mentionsAll_ofBlock body]
  | .matchCases subject cs => by
      simp [ofStmt, Mention.inStmt, mentions_ofExpr, mem_mentionsAll_ofCases cs]
  | .raiseError error cause => by simp [ofStmt, Mention.inStmt, mentions_ofOption]
  | .tryBlock body hs orElse final groups => by
      simp [ofStmt, Mention.inStmt, mem_mentionsAll_ofBlock body, mem_mentionsAll_ofHandlers hs,
        mem_mentionsAll_ofBlock orElse, mem_mentionsAll_ofBlock final]
  | .assertTrue test message => by
      simp [ofStmt, Mention.inStmt, mentions_ofExpr, mentions_ofOption]
  | .importNames names => by simp [ofStmt, Mention.inStmt, mentionsAll_ofAliases]
  | .importFrom module names level => by simp [ofStmt, Mention.inStmt, mentionsAll_ofAliases]
  | .globalNames names => by simp [ofStmt, Mention.inStmt]
  | .nonlocalNames names => by simp [ofStmt, Mention.inStmt]
  | .expr value => by simp [ofStmt, Mention.inStmt, mentions_ofExpr]
  | .pass => .rfl
  | .breakLoop => .rfl
  | .continueLoop => .rfl

theorem mem_mentionsAll_ofBlock {m : Mention} : ∀ b : List Line,
    m ∈ mentionsAll (ofBlock b) ↔ m ∈ Mention.inBlock b
  | [] => .rfl
  | .mk n s :: rest => by
      simp [ofBlock, Mention.inBlock, mem_mentions_ofStmt s, mem_mentionsAll_ofBlock rest]

theorem mem_mentionsAll_ofHandlers {m : Mention} : ∀ hs : List Handler,
    m ∈ mentionsAll (ofHandlers hs) ↔ m ∈ Mention.inHandlers hs
  | [] => .rfl
  | .mk type name body line :: rest => by
      simp [ofHandlers, Mention.inHandlers, Mention.binder, mentions_ofOption,
        mem_mentionsAll_ofBlock body, mem_mentionsAll_ofHandlers rest, or_left_comm]

theorem mem_mentionsAll_ofCases {m : Mention} : ∀ cs : List Case,
    m ∈ mentionsAll (ofCases cs) ↔ m ∈ Mention.inCases cs
  | [] => .rfl
  | .mk p guard body line :: rest => by
      simp [ofCases, Mention.inCases, mem_mentions_ofPattern, mentions_ofOption,
        mem_mentionsAll_ofBlock body, mem_mentionsAll_ofCases rest]

end

/-- **A program mentions a name exactly where one of its nodes does.** -/
theorem mem_inBlock_iff {m : Mention} {t : Tree} :
    m ∈ Mention.inBlock t ↔ ∃ path n, (ofTree t).at? path = some n ∧ m ∈ n.ownMentions := by
  rw [← mem_mentions_iff, ofTree, mentions_row, mem_mentionsAll_ofBlock]

/-! ## §3. Substitution as replacement. -/

mutual

/-- A node with every name that is read replaced. -/
@[simp]
def replace (f : String → TreeNode) : TreeNode → TreeNode
  | .ident id .load => f id
  | .ident id .store => .ident id .store
  | .ident id .delete => .ident id .delete
  | .mk l ns => .mk l (replaceAll f ns)

/-- Nodes with every name that is read replaced. -/
@[simp]
def replaceAll (f : String → TreeNode) : List TreeNode → List TreeNode
  | [] => []
  | n :: ns => replace f n :: replaceAll f ns

end

section Substitution

variable (f : String → Expr)

/-- The node of the expression that is put in the place of a name. -/
abbrev standIn (id : String) : TreeNode := ofExpr (f id)

@[simp] theorem replace_row (g : String → TreeNode) (ns : List TreeNode) :
    (row ns).replace g = row (replaceAll g ns) := by
  simp [row]

@[simp] theorem replace_nothing (g : String → TreeNode) : nothing.replace g = nothing := by
  simp [nothing]

mutual

theorem ofExpr_expr : ∀ e : Expr, ofExpr (Substitution.expr f e) = (ofExpr e).replace (standIn f)
  | .boolOp op values => by simp [ofExpr, Substitution.expr, ofExprs_exprs values]
  | .named target value => by simp [ofExpr, Substitution.expr, ofExpr_expr value]
  | .binary op left right => by
      simp [ofExpr, Substitution.expr, ofExpr_expr left, ofExpr_expr right]
  | .unary op operand => by simp [ofExpr, Substitution.expr, ofExpr_expr operand]
  | .lambda ps body => by simp [ofExpr, Substitution.expr, ofParams_params ps, ofExpr_expr body]
  | .ifElse test body orElse => by
      simp [ofExpr, Substitution.expr, ofExpr_expr test, ofExpr_expr body, ofExpr_expr orElse]
  | .dict es => by simp [ofExpr, Substitution.expr, ofEntries_entries es]
  | .set items => by simp [ofExpr, Substitution.expr, ofExprs_exprs items]
  | .comp kind item cs line => by
      simp [ofExpr, Substitution.expr, ofExpr_expr item, ofClauses_clauses cs]
  | .dictComp key value cs line => by
      simp [ofExpr, Substitution.expr, ofExpr_expr key, ofExpr_expr value, ofClauses_clauses cs]
  | .await value line => by simp [ofExpr, Substitution.expr, ofExpr_expr value]
  | .yield value line => by simp [ofExpr, Substitution.expr, ofOption_option value]
  | .yieldFrom value line => by simp [ofExpr, Substitution.expr, ofExpr_expr value]
  | .compare left rest => by
      simp [ofExpr, Substitution.expr, ofExpr_expr left, ofComparisons_comparisons rest]
  | .call func args ks => by
      simp [ofExpr, Substitution.expr, ofExpr_expr func, ofExprs_exprs args, ofKeywords_keywords ks]
  | .joined pieces => by simp [ofExpr, Substitution.expr, ofExprs_exprs pieces]
  | .formatted value conversion none => by simp [ofExpr, Substitution.expr, ofExpr_expr value]
  | .formatted value conversion (some spec) => by
      simp [ofExpr, Substitution.expr, ofExpr_expr value, ofExprs_exprs spec]
  | .constant c => by simp [ofExpr, Substitution.expr]
  | .attribute value name => by simp [ofExpr, Substitution.expr, ofExpr_expr value]
  | .subscript value index => by
      simp [ofExpr, Substitution.expr, ofExpr_expr value, ofExpr_expr index]
  | .starred value line => by simp [ofExpr, Substitution.expr, ofExpr_expr value]
  | .name id .load => by simp [ofExpr, Substitution.expr]
  | .name id .store => by simp [ofExpr, Substitution.expr]
  | .name id .delete => by simp [ofExpr, Substitution.expr]
  | .list items => by simp [ofExpr, Substitution.expr, ofExprs_exprs items]
  | .tuple items => by simp [ofExpr, Substitution.expr, ofExprs_exprs items]
  | .slice lower upper step => by
      simp [ofExpr, Substitution.expr, ofOption_option lower, ofOption_option upper,
        ofOption_option step]

theorem ofOption_option : ∀ e : Option Expr,
    ofOption (Substitution.option f e) = (ofOption e).replace (standIn f)
  | none => by simp [ofOption, Substitution.option]
  | some e => by simp [ofOption, Substitution.option, ofExpr_expr e]

theorem ofExprs_exprs : ∀ es : List Expr,
    ofExprs (Substitution.exprs f es) = replaceAll (standIn f) (ofExprs es)
  | [] => by simp [ofExprs, Substitution.exprs]
  | e :: rest => by simp [ofExprs, Substitution.exprs, ofExpr_expr e, ofExprs_exprs rest]

theorem ofEntries_entries : ∀ es : List Entry,
    ofEntries (Substitution.entries f es) = replaceAll (standIn f) (ofEntries es)
  | [] => by simp [ofEntries, Substitution.entries]
  | .item key value :: rest => by
      simp [ofEntries, Substitution.entries, ofExpr_expr key, ofExpr_expr value,
        ofEntries_entries rest]
  | .spread value :: rest => by
      simp [ofEntries, Substitution.entries, ofExpr_expr value, ofEntries_entries rest]

theorem ofComparisons_comparisons : ∀ cs : List Comparison,
    ofComparisons (Substitution.comparisons f cs) = replaceAll (standIn f) (ofComparisons cs)
  | [] => by simp [ofComparisons, Substitution.comparisons]
  | .mk op right :: rest => by
      simp [ofComparisons, Substitution.comparisons, ofExpr_expr right,
        ofComparisons_comparisons rest]

theorem ofKeywords_keywords : ∀ ks : List Keyword,
    ofKeywords (Substitution.keywords f ks) = replaceAll (standIn f) (ofKeywords ks)
  | [] => by simp [ofKeywords, Substitution.keywords]
  | .mk name value line :: rest => by
      simp [ofKeywords, Substitution.keywords, ofExpr_expr value, ofKeywords_keywords rest]

theorem ofClauses_clauses : ∀ cs : List Clause,
    ofClauses (Substitution.clauses f cs) = replaceAll (standIn f) (ofClauses cs)
  | [] => by simp [ofClauses, Substitution.clauses]
  | .mk isAsync target iter conditions :: rest => by
      simp [ofClauses, Substitution.clauses, ofExpr_expr target, ofExpr_expr iter,
        ofExprs_exprs conditions, ofClauses_clauses rest]

theorem ofParams_params : ∀ ps : List Param,
    ofParams (Substitution.params f ps) = replaceAll (standIn f) (ofParams ps)
  | [] => by simp [ofParams, Substitution.params]
  | .mk kind name type dflt :: rest => by
      simp [ofParams, Substitution.params, ofOption_option type, ofOption_option dflt,
        ofParams_params rest]

end

mutual

theorem ofPattern_pattern : ∀ p : Pattern,
    ofPattern (Substitution.pattern f p) = (ofPattern p).replace (standIn f)
  | .value e => by simp [ofPattern, Substitution.pattern, ofExpr_expr]
  | .singleton c => by simp [ofPattern, Substitution.pattern]
  | .sequence items => by simp [ofPattern, Substitution.pattern, ofPatterns_patterns items]
  | .star name => by simp [ofPattern, Substitution.pattern]
  | .mapping keys items rest => by
      simp [ofPattern, Substitution.pattern, ofExprs_exprs, ofPatterns_patterns items]
  | .object cls items names named => by
      simp [ofPattern, Substitution.pattern, ofExpr_expr, ofPatterns_patterns items,
        ofPatterns_patterns named]
  | .capture none name => by simp [ofPattern, Substitution.pattern]
  | .capture (some inner) name => by simp [ofPattern, Substitution.pattern, ofPattern_pattern inner]
  | .either choices => by simp [ofPattern, Substitution.pattern, ofPatterns_patterns choices]

theorem ofPatterns_patterns : ∀ ps : List Pattern,
    ofPatterns (Substitution.patterns f ps) = replaceAll (standIn f) (ofPatterns ps)
  | [] => by simp [ofPatterns, Substitution.patterns]
  | p :: rest => by
      simp [ofPatterns, Substitution.patterns, ofPattern_pattern p, ofPatterns_patterns rest]

end

theorem ofWithItems_withItems : ∀ items : List WithItem,
    ofWithItems (Substitution.withItems f items) = replaceAll (standIn f) (ofWithItems items)
  | [] => by simp [ofWithItems, Substitution.withItems]
  | i :: rest => by
      have ih := ofWithItems_withItems rest
      rw [ofWithItems, ofWithItems, Substitution.withItems] at ih
      simp [ofWithItems, Substitution.withItems, ofExpr_expr, ofOption_option, ← ih]

/-- Imported names are no names that are read. -/
theorem replaceAll_ofAliases (g : String → TreeNode) (names : List Alias) :
    replaceAll g (ofAliases names) = ofAliases names := by
  induction names with
  | nil => simp [ofAliases]
  | cons a names ih =>
      rw [ofAliases] at ih
      simp [ofAliases, ih]

mutual

theorem ofStmt_stmt : ∀ s : Stmt, ofStmt (Substitution.stmt f s) = (ofStmt s).replace (standIn f)
  | .funcDef isAsync name ps body decorators returns => by
      simp [ofStmt, Substitution.stmt, ofParams_params, ofBlock_block body, ofExprs_exprs,
        ofOption_option]
  | .classDef name bases ks body decorators => by
      simp [ofStmt, Substitution.stmt, ofExprs_exprs, ofKeywords_keywords, ofBlock_block body]
  | .ret value => by simp [ofStmt, Substitution.stmt, ofOption_option]
  | .delete targets => by simp [ofStmt, Substitution.stmt, ofExprs_exprs]
  | .assign targets value => by simp [ofStmt, Substitution.stmt, ofExprs_exprs, ofExpr_expr]
  | .augAssign target op value => by simp [ofStmt, Substitution.stmt, ofExpr_expr]
  | .annAssign target type value simple => by
      simp [ofStmt, Substitution.stmt, ofExpr_expr, ofOption_option]
  | .forLoop isAsync target iter body orElse => by
      simp [ofStmt, Substitution.stmt, ofExpr_expr, ofBlock_block body, ofBlock_block orElse]
  | .whileLoop test body orElse => by
      simp [ofStmt, Substitution.stmt, ofExpr_expr, ofBlock_block body, ofBlock_block orElse]
  | .ifElse test body orElse => by
      simp [ofStmt, Substitution.stmt, ofExpr_expr, ofBlock_block body, ofBlock_block orElse]
  | .withBlock isAsync items body => by
      simp [ofStmt, Substitution.stmt, ofWithItems_withItems, ofBlock_block body]
  | .matchCases subject cs => by simp [ofStmt, Substitution.stmt, ofExpr_expr, ofCases_cases cs]
  | .raiseError error cause => by simp [ofStmt, Substitution.stmt, ofOption_option]
  | .tryBlock body hs orElse final groups => by
      simp [ofStmt, Substitution.stmt, ofBlock_block body, ofHandlers_handlers hs,
        ofBlock_block orElse, ofBlock_block final]
  | .assertTrue test message => by simp [ofStmt, Substitution.stmt, ofExpr_expr, ofOption_option]
  | .importNames names => by simp [ofStmt, Substitution.stmt, replaceAll_ofAliases]
  | .importFrom module names level => by simp [ofStmt, Substitution.stmt, replaceAll_ofAliases]
  | .globalNames names => by simp [ofStmt, Substitution.stmt]
  | .nonlocalNames names => by simp [ofStmt, Substitution.stmt]
  | .expr value => by simp [ofStmt, Substitution.stmt, ofExpr_expr]
  | .pass => by simp [ofStmt, Substitution.stmt]
  | .breakLoop => by simp [ofStmt, Substitution.stmt]
  | .continueLoop => by simp [ofStmt, Substitution.stmt]

/-- **A substitution replaces the nodes that read a name.** -/
theorem ofBlock_block : ∀ b : List Line,
    ofBlock (Substitution.block f b) = replaceAll (standIn f) (ofBlock b)
  | [] => by simp [ofBlock, Substitution.block]
  | .mk n s :: rest => by simp [ofBlock, Substitution.block, ofStmt_stmt s, ofBlock_block rest]

theorem ofHandlers_handlers : ∀ hs : List Handler,
    ofHandlers (Substitution.handlers f hs) = replaceAll (standIn f) (ofHandlers hs)
  | [] => by simp [ofHandlers, Substitution.handlers]
  | .mk type name body line :: rest => by
      simp [ofHandlers, Substitution.handlers, ofOption_option, ofBlock_block body,
        ofHandlers_handlers rest]

theorem ofCases_cases : ∀ cs : List Case,
    ofCases (Substitution.cases f cs) = replaceAll (standIn f) (ofCases cs)
  | [] => by simp [ofCases, Substitution.cases]
  | .mk p guard body line :: rest => by
      simp [ofCases, Substitution.cases, ofPattern_pattern, ofOption_option, ofBlock_block body,
        ofCases_cases rest]

end

theorem ofTree_block (t : Tree) :
    ofTree (Substitution.block f t) = (ofTree t).replace (standIn f) := by
  rw [ofTree, ofTree, replace_row, ofBlock_block]

end Substitution

/-! ## §4. What is at each path. -/

theorem replaceAll_eq_map (f : String → TreeNode) (ns : List TreeNode) :
    replaceAll f ns = ns.map (replace f) := by
  induction ns with
  | nil => simp
  | cons n ns ih => simp [ih]

/-- What is at a path is replaced there. -/
theorem at?_replace {f : String → TreeNode} {path : List Nat} {n k : TreeNode}
    (h : n.at? path = some k) : (n.replace f).at? path = some (k.replace f) := by
  induction path generalizing n with
  | nil =>
      cases h
      rfl
  | cons i path ih =>
      obtain ⟨part, hi, hpart⟩ := at?_cons_eq_some_iff.mp h
      cases n with
      | ident id use => cases hi
      | mk l ns =>
          refine at?_cons_eq_some_iff.mpr ⟨part.replace f, ?_, ih hpart⟩
          rw [replace, parts, replaceAll_eq_map, List.getElem?_map, show ns[i]? = some part from hi]
          rfl

/-- At each path one node is another one, in which every name that is read is replaced, once. -/
structure IsReplaced (f : String → TreeNode) (n n' : TreeNode) : Prop where
  /-- In the place of a name that is read stands what it is replaced by. -/
  read : ∀ path id, n.at? path = some (.ident id .load) → n'.at? path = some (f id)
  /-- A name that is not read stays. -/
  kept : ∀ path id use, use ≠ .load → n.at? path = some (.ident id use) →
    n'.at? path = some (.ident id use)
  /-- Any other node keeps its label and the number of its parts. -/
  node : ∀ path l ns, n.at? path = some (.mk l ns) →
    ∃ ns', n'.at? path = some (.mk l ns') ∧ ns'.length = ns.length

theorem isReplaced_replace (f : String → TreeNode) (n : TreeNode) : IsReplaced f n (n.replace f) where
  read path id h := by
    rw [at?_replace h]
    simp
  kept path id use huse h := by
    rw [at?_replace h]
    cases use <;> simp at huse ⊢
  node path l ns h := ⟨replaceAll f ns, by rw [at?_replace h, replace], by simp [replaceAll_eq_map]⟩

/-- What holds at every path holds inside every part. -/
theorem IsReplaced.part {f : String → TreeNode} {l l' : NodeLabel} {ns ns' : List TreeNode}
    (h : IsReplaced f (.mk l ns) (.mk l' ns')) {i : Nat} {n n' : TreeNode} (hn : ns[i]? = some n)
    (hn' : ns'[i]? = some n') : IsReplaced f n n' := by
  -- a path inside of the part is one of the whole, with one step in front
  have hto : ∀ {path k}, n.at? path = some k → (TreeNode.mk l ns).at? (i :: path) = some k :=
    fun hk => at?_cons_eq_some_iff.mpr ⟨n, hn, hk⟩
  have hfrom : ∀ {path k}, (TreeNode.mk l' ns').at? (i :: path) = some k → n'.at? path = some k := by
    intro path k hk
    obtain ⟨part, hpart, hk⟩ := at?_cons_eq_some_iff.mp hk
    rw [show part = n' from Option.some.inj (hpart.symm.trans hn')] at hk
    exact hk
  refine ⟨fun path id hk => hfrom (h.read _ id (hto hk)),
    fun path id use huse hk => hfrom (h.kept _ id use huse (hto hk)), fun path m ms hk => ?_⟩
  obtain ⟨ms', hms', hlength⟩ := h.node _ m ms (hto hk)
  exact ⟨ms', hfrom hms', hlength⟩

mutual

theorem IsReplaced.eq {f : String → TreeNode} : ∀ (n : TreeNode) {n' : TreeNode},
    IsReplaced f n n' → n' = n.replace f
  | .ident id .load, n', h => by simpa using Option.some.inj (h.read [] id rfl)
  | .ident id .store, n', h => by simpa using Option.some.inj (h.kept [] id .store (by decide) rfl)
  | .ident id .delete, n', h => by
      simpa using Option.some.inj (h.kept [] id .delete (by decide) rfl)
  | .mk l ns, n', h => by
      -- the empty path tells the label and how many parts there are, the others what they are
      obtain ⟨ns', hns', hlength⟩ := h.node [] l ns rfl
      obtain rfl : n' = .mk l ns' := Option.some.inj hns'
      rw [replace, replaceAll_eq_map]
      congr 1
      apply List.ext_getElem (by rw [hlength, List.length_map])
      intro i hi' hi
      rw [List.length_map] at hi
      rw [List.getElem_map]
      exact IsReplaced.eq_parts ns _ (List.getElem_mem hi) (h.part (List.getElem?_eq_getElem hi)
        (List.getElem?_eq_getElem hi'))

theorem IsReplaced.eq_parts {f : String → TreeNode} : ∀ ns : List TreeNode, ∀ n ∈ ns,
    ∀ {n' : TreeNode}, IsReplaced f n n' → n' = n.replace f
  | [] => nofun
  | n :: ns => List.forall_mem_cons.mpr ⟨IsReplaced.eq n, IsReplaced.eq_parts ns⟩

end

/-- **What is at each path says which node it is.** -/
theorem isReplaced_iff {f : String → TreeNode} {n n' : TreeNode} :
    IsReplaced f n n' ↔ n' = n.replace f :=
  ⟨IsReplaced.eq n, fun h => h ▸ isReplaced_replace f n⟩

end TreeNode

end TagTemplate.Script
