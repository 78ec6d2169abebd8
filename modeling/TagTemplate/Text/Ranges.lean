/-
  TagTemplate.Text.Ranges
  ────────────────────────────────
  **SETS AND MAPS OF CHARACTERS FROM COMPACT TEXT.**

  The properties of Unicode characters are data of a standard.  A set is
  written as the lengths of its alternating gaps and runs, in base 36 and
  separated by spaces; a map is written as runs `gap*count:targets`, where a
  slash after the count says that only every second code point belongs to the
  run.  Both are read once into arrays and searched by halving.
-/

namespace TagTemplate.Text

/-! ## §1. Reading numbers. -/

/-- The value of a digit in base 36. -/
def digitValue (c : Char) : Nat :=
  if '0' ≤ c ∧ c ≤ '9' then c.toNat - 48 else c.toNat - 87

/-- A number in base 36. -/
def readNumber (s : String) : Nat := s.toList.foldl (fun n c => n * 36 + digitValue c) 0

/-! ## §2. Sets. -/

/-- A set of code points: the ascending boundaries at which membership changes. -/
structure CharSet where
  /-- Outside before the first boundary, inside up to the second, and so on. -/
  bounds : Array Nat

/-- The numbers of a row, one space between any two. -/
def numbersOf (row : List Char) : List Nat :=
  let (done, last) := row.foldl
    (fun (done, n) c => if c == ' ' then (n :: done, 0) else (done, n * 36 + digitValue c))
    (([] : List Nat), 0)
  (last :: done).reverse

/-- The boundaries that alternating gaps and runs make from a code point on. -/
def boundsFrom (start : Nat) : List Nat → List Nat
  | [] => []
  | length :: rest => (start + length) :: boundsFrom (start + length) rest

/-- Read the lengths of alternating gaps and runs. -/
def CharSet.ofRuns (rows : List String) : CharSet :=
  ⟨(boundsFrom 0 (rows.flatMap fun row => numbersOf row.toList)).toArray⟩

/-- How many entries of an ascending array are at most `n`, searched by halving in at most `fuel`
steps between `lo` and `hi`. -/
def countUpTo (key : Nat → Nat) (n : Nat) : Nat → Nat → Nat → Nat
  | 0, lo, _ => lo
  | fuel + 1, lo, hi =>
    if hi ≤ lo then lo
    else
      let mid := (lo + hi) / 2
      if key mid ≤ n then countUpTo key n fuel (mid + 1) hi else countUpTo key n fuel lo mid

/-- Membership: an odd number of boundaries has been passed. -/
def CharSet.contains (s : CharSet) (c : Char) : Bool :=
  countUpTo (fun i => s.bounds.getD i 0) c.toNat 32 0 s.bounds.size % 2 == 1

/-! ## §3. Maps. -/

/-- A run of code points `first, first + step, …` that map to the targets shifted alike. -/
structure CharRun where
  /-- The first code point of the run. -/
  first : Nat
  /-- How many code points belong to it. -/
  count : Nat
  /-- The distance between neighbours. -/
  step : Nat
  /-- What the first code point maps to. -/
  targets : List Nat

/-- A map from code points to lists of numbers. -/
structure CharMap where
  /-- The runs in ascending order. -/
  runs : Array CharRun

/-- Read one run; `base` is the first code point of the run before it. -/
def CharRun.read (base : Nat) (word : String) : CharRun :=
  match word.splitOn ":" with
  | head :: tail =>
    let targets := (tail.headD "").splitOn "," |>.map readNumber
    let stepped := head.endsWith "/"
    let head := if stepped then String.ofList head.toList.dropLast else head
    match head.splitOn "*" with
    | gap :: count :: _ => ⟨base + readNumber gap, readNumber count, if stepped then 2 else 1, targets⟩
    | gap :: _ => ⟨base + readNumber gap, 1, 1, targets⟩
    | [] => ⟨base, 0, 1, targets⟩
  | [] => ⟨base, 0, 1, []⟩

/-- Read a map. -/
def CharMap.ofRows (rows : List String) : CharMap :=
  ⟨((rows.flatMap (·.splitOn " ")).foldl
    (fun (acc : Array CharRun × Nat) word =>
      let run := CharRun.read acc.2 word
      (acc.1.push run, run.first)) (#[], 0)).1⟩

/-- The run a code point belongs to, with the distance from its start. -/
def CharMap.find? (m : CharMap) (n : Nat) : Option (CharRun × Nat) :=
  let i := countUpTo (fun i => (m.runs[i]?.map (·.first)).getD 0) n 32 0 m.runs.size
  match m.runs[i - 1]? with
  | some run =>
    let off := n - run.first
    if run.first ≤ n && off % run.step == 0 && off / run.step < run.count then some (run, off)
    else none
  | none => none

/-- What a code point maps to, when its run shifts its target along. -/
def CharMap.shifted? (m : CharMap) (n : Nat) : Option (List Nat) :=
  (m.find? n).map fun (run, off) => run.targets.map (· + off)

/-- What a code point maps to, when its whole run shares one target. -/
def CharMap.shared? (m : CharMap) (n : Nat) : Option (List Nat) :=
  (m.find? n).map fun (run, _) => run.targets

end TagTemplate.Text
