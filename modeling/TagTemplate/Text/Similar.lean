/-
  TagTemplate.Text.Similar
  ────────────────────────────────
  **THE CLOSEST NAME.**

  The similarity of two texts is twice the number of characters in their
  matching blocks over the sum of their lengths.  The blocks are found by
  taking the longest common block first (the earliest one of several) and
  looking left and right of it.  In a reference text of two hundred
  characters or more, a character that fills more than one in a hundred of
  the places starts no block; it may still extend one.

  A name is close enough when its similarity reaches three fifths.
-/

namespace TagTemplate.Text

/-! ## §1. The longest common block. -/

/-- A block common to both texts: where it starts in each, and its size. -/
structure Block where
  /-- Start in the first text. -/
  left : Nat
  /-- Start in the second text. -/
  right : Nat
  /-- Number of characters. -/
  size : Nat

/-- Characters too frequent in a long reference text to start a block. -/
def isPopular (b : Array Char) (c : Char) : Bool :=
  b.size ≥ 200 && b.toList.count c > b.size / 100 + 1

/-- One row of the search: for each place `j` of the reference, the length of the block that ends
at `(i, j)`; `previous` is the row before. -/
def blockRow (b : Array Char) (start : Bool) (c : Char) (blo bhi : Nat) (previous : Array Nat) :
    Array Nat :=
  (Array.range (bhi - blo)).map fun k =>
    if start && b[blo + k]? == some c then
      (if k == 0 then 0 else previous.getD (k - 1) 0) + 1
    else 0

/-- The better block after one row: longer ones only, the first of equals. -/
def bestOfRow (i blo : Nat) (row : Array Nat) (best : Block) : Block :=
  (row.toList.zipIdx).foldl
    (fun best (size, k) =>
      if size > best.size then ⟨i + 1 - size, blo + k + 1 - size, size⟩ else best) best

/-- The rows from `i` on, `fuel` of them. -/
def bestBlock (a b : Array Char) (popular : Char → Bool) (blo bhi : Nat) :
    Nat → Nat → Array Nat → Block → Block
  | 0, _, _, best => best
  | fuel + 1, i, previous, best =>
    match a[i]? with
    | none => best
    | some c =>
      let row := blockRow b (!popular c) c blo bhi previous
      bestBlock a b popular blo bhi fuel (i + 1) row (bestOfRow i blo row best)

/-- How many equal characters stand before two places, at most `fuel`. -/
def extendLeft (a b : Array Char) (alo blo : Nat) : Nat → Nat → Nat → Nat
  | 0, _, _ => 0
  | fuel + 1, i, j =>
    if alo < i && blo < j && a[i - 1]? == b[j - 1]? then
      1 + extendLeft a b alo blo fuel (i - 1) (j - 1)
    else 0

/-- How many equal characters stand from two places on, at most `fuel`. -/
def extendRight (a b : Array Char) (ahi bhi : Nat) : Nat → Nat → Nat → Nat
  | 0, _, _ => 0
  | fuel + 1, i, j =>
    if i < ahi && j < bhi && a[i]? == b[j]? then
      1 + extendRight a b ahi bhi fuel (i + 1) (j + 1)
    else 0

/-- The longest common block between the places `alo … ahi` and `blo … bhi`. -/
def longestBlock (a b : Array Char) (popular : Char → Bool) (alo ahi blo bhi : Nat) : Block :=
  let best := bestBlock a b popular blo bhi (ahi - alo) alo #[] ⟨alo, blo, 0⟩
  let before := extendLeft a b alo blo (ahi - alo) best.left best.right
  let best : Block := ⟨best.left - before, best.right - before, best.size + before⟩
  let after := extendRight a b ahi bhi (ahi - alo) (best.left + best.size) (best.right + best.size)
  ⟨best.left, best.right, best.size + after⟩

/-! ## §2. Similarity. -/

/-- The number of characters in the matching blocks; `fuel` bounds the nesting. -/
def matchingSize (a b : Array Char) (popular : Char → Bool) : Nat → Nat → Nat → Nat → Nat → Nat
  | 0, _, _, _, _ => 0
  | fuel + 1, alo, ahi, blo, bhi =>
    let block := longestBlock a b popular alo ahi blo bhi
    if block.size == 0 then 0
    else
      matchingSize a b popular fuel alo block.left blo block.right + block.size
        + matchingSize a b popular fuel (block.left + block.size) ahi (block.right + block.size) bhi

/-- Similarity as a fraction: characters matched in both texts, and characters in all. -/
def similarity (a b : List Char) : Nat × Nat :=
  let a := a.toArray
  let b := b.toArray
  let popular := isPopular b
  (2 * matchingSize a b popular (a.size + 1) 0 a.size 0 b.size, a.size + b.size)

/-- Whether a fraction reaches three fifths; two empty texts are alike. -/
def isClose (f : Nat × Nat) : Bool := f.2 == 0 || 5 * f.1 ≥ 3 * f.2

/-- The order of candidates: by similarity, then by name. -/
def closerThan (x y : (Nat × Nat) × String) : Bool :=
  let xn := if x.1.2 == 0 then (1, 1) else x.1
  let yn := if y.1.2 == 0 then (1, 1) else y.1
  xn.1 * yn.2 > yn.1 * xn.2 || (xn.1 * yn.2 == yn.1 * xn.2 && y.2 < x.2)

/-- The candidate closest to a name, if one is close enough. -/
def closest? (name : String) (candidates : List String) : Option String :=
  let scored := candidates.map fun c => (similarity c.toList name.toList, c)
  let close := scored.filter (isClose ·.1)
  (close.foldl
    (fun best x =>
      match best with
      | none => some x
      | some b => if closerThan x b then some x else some b) none).map (·.2)

end TagTemplate.Text
