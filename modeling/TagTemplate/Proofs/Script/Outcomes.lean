/-
  TagTemplate.Proofs.Script.Outcomes
  ────────────────────────────────
  **WHAT A PARSER CAN YIELD.**

  `p.Gives P` says that whatever `p` yields has the property `P`, in the first
  run and in the second one, from any tokens on.  What has been rejected or has
  halted yields nothing, so that only the ways that succeed are looked at.

  There is one lemma for each combinator.  Most steps of a rule only decide
  whether it goes on: what comes behind them is all that counts (`after`,
  `either`, `checked`).
-/
import TagTemplate.Script.Parse.Stmt

namespace TagTemplate.Script

namespace Parse

/-- Whatever a parser yields has some property. -/
def Gives {α : Type} (p : Parse α) (P : α → Prop) : Prop :=
  ∀ (s : Source) (c : Cursor) (a : α) (next : Cursor), p s c = .ok a next → P a

namespace Gives

variable {α β : Type} {p q : Parse α} {f : α → Parse β} {P P' : α → Prop} {Q : β → Prop}

/-! ## §1. One parser after another. -/

theorem any (p : Parse α) : Gives p fun _ => True := fun _ _ _ _ _ => trivial

theorem pure {a : α} (h : P a) : Gives (pure a) P := by
  intro s c b next hrun
  cases hrun
  exact h

theorem reject : Gives (reject : Parse α) P := nofun

theorem haltHere (text : String) : Gives (haltHere text : Parse α) P := nofun

theorem haltAt (line : Nat) (text : String) : Gives (haltAt line text : Parse α) P := nofun

theorem mono (hp : Gives p P) (h : ∀ a, P a → P' a) : Gives p P' :=
  fun s c a next hrun => h a (hp s c a next hrun)

theorem bind (hp : Gives p P) (hf : ∀ a, P a → Gives (f a) Q) : Gives (p >>= f) Q := by
  intro s c b next hrun
  change Parse.bind p f s c = _ at hrun
  unfold Parse.bind at hrun
  split at hrun
  next a c' hstep => exact hf a (hp s c a c' hstep) s c' b next hrun
  next => cases hrun
  next => cases hrun

/-- What comes behind a parser, whatever that yields. -/
theorem after (hf : ∀ a, Gives (f a) Q) : Gives (p >>= f) Q := (any p).bind fun a _ => hf a

/-- What comes behind either of two parsers. -/
theorem either {c : Prop} [Decidable c] (hf : ∀ a, Gives (f a) Q) :
    Gives (if c then p >>= f else q >>= f) Q := by
  split
  · exact after hf
  · exact after hf

/-- What comes behind a check. -/
theorem checked {c : Prop} [Decidable c] {p : Parse Unit} {f : Unit → Parse β}
    (hf : Gives (f ()) Q) : Gives (if c then p >>= f else f ()) Q := by
  split
  · exact after fun _ => hf
  · exact hf

/-! ## §2. Choices and repetitions. -/

theorem orElse (hp : Gives p P) (hq : Gives q P) : Gives (p <|> q) P := by
  intro s c a next hrun
  change Parse.orElse p (fun _ => q) s c = _ at hrun
  unfold Parse.orElse at hrun
  split at hrun
  · exact hq _ _ _ _ hrun
  · exact hp s c a next hrun

theorem ofOption {o : Option α} (h : ∀ a ∈ o, P a) : Gives (ofOption o) P := by
  cases o with
  | some a => exact pure (h a rfl)
  | none => exact reject

theorem optional (hp : Gives p P) : Gives (optional p) fun o => ∀ a ∈ o, P a := by
  intro s c o next hrun
  unfold Parse.optional at hrun
  split at hrun
  next a _ hstep =>
    cases hrun
    intro b hb
    cases hb
    exact hp s c a _ hstep
  next =>
    cases hrun
    nofun
  next => cases hrun

theorem manyGo (hp : Gives p P) : ∀ (fuel : Nat) (acc : List α), (∀ a ∈ acc, P a) →
    Gives (manyGo p fuel acc) fun l => ∀ a ∈ l, P a
  | 0, acc, hacc => pure fun a ha => hacc a (List.mem_reverse.mp ha)
  | fuel + 1, acc, hacc => hp.optional.bind fun o ho => by
      cases o with
      | some a => exact manyGo hp fuel _ (List.forall_mem_cons.mpr ⟨ho a rfl, hacc⟩)
      | none => exact pure fun a ha => hacc a (List.mem_reverse.mp ha)

theorem many (hp : Gives p P) : Gives (many p) fun l => ∀ a ∈ l, P a :=
  after fun fuel => hp.manyGo fuel [] nofun

theorem loopGo {step : α → Parse α} (hstep : ∀ a, P a → Gives (step a) P) :
    ∀ (fuel : Nat) {a : α}, P a → Gives (loopGo step fuel a) P
  | 0, _, ha => pure ha
  | fuel + 1, a, ha => (hstep a ha).optional.bind fun o ho => by
      cases o with
      | some b => exact loopGo hstep fuel (ho b rfl)
      | none => exact pure ha

theorem loop {step : α → Parse α} (hstep : ∀ a, P a → Gives (step a) P) {a : α} (ha : P a) :
    Gives (loop step a) P :=
  after fun fuel => loopGo hstep fuel ha

theorem commaList (hp : Gives p P) : Gives (commaList p) fun l => ∀ a ∈ l.1, P a :=
  hp.bind fun _ hfirst => (many (after fun _ => hp)).bind fun _ hrest =>
    after fun _ => pure (List.forall_mem_cons.mpr ⟨hfirst, hrest⟩)

/-- Values with commas between them, if there are any. -/
theorem commaList? (hp : Gives p P) :
    Gives (Parse.optional (Parse.commaList p)) fun l => ∀ a ∈ (l.map (·.1)).getD [], P a :=
  hp.commaList.optional.mono fun l hl => by
    cases l with
    | none => nofun
    | some l => exact hl l rfl

end Gives

end Parse

/-- What is known of all that a parser yields is known of what it makes of a whole source. -/
theorem Source.run_gives {α : Type} {s : Source} {p : Parse α} {P : α → Prop} (hp : p.Gives P)
    {a : α} (h : s.run p = .ok a) : P a := by
  unfold Source.run at h
  split at h
  next b next hstep =>
    cases h
    exact hp _ _ _ _ hstep
  next => cases h
  next =>
    split at h <;> cases h

end TagTemplate.Script
