import Panel.Text.Chars

/-! # Similar words — the options closest to a mistyped one

    The likeness of two words is twice the number of characters in common blocks over the sum of
    their lengths.  The common blocks come from the longest one (earliest in the option, then
    earliest in the word) and, recursively, from what lies left and right of it. -/

namespace Panel.Text

def commonPrefix : List Char → List Char → Nat
  | a :: as, b :: bs => if a == b then commonPrefix as bs + 1 else 0
  | _, _ => 0

/-- The longest common block that starts at position `i` of the first word: its start in the
    second word and its length, the earliest of the longest. -/
def blockAt (as : List Char) : List Char → Nat → Nat × Nat → Nat × Nat
  | [], _, best => best
  | b :: bs, j, best =>
    let n := commonPrefix as (b :: bs)
    blockAt as bs (j + 1) (if best.2 < n then (j, n) else best)

/-- The longest common block of two words as start, start and length. -/
def longestBlock (bs : List Char) : List Char → Nat → Nat × Nat × Nat → Nat × Nat × Nat
  | [], _, best => best
  | a :: as, i, best =>
    let (j, n) := blockAt (a :: as) bs 0 (0, 0)
    longestBlock bs as (i + 1) (if best.2.2 < n then (i, j, n) else best)

/-- The number of characters in common blocks, with the number of splits bounded by `fuel`. -/
def commonBlocksWithin : Nat → List Char → List Char → Nat
  | 0, _, _ => 0
  | fuel + 1, as, bs =>
    let (i, j, n) := longestBlock bs as 0 (0, 0, 0)
    if n == 0 then 0
    else commonBlocksWithin fuel (as.take i) (bs.take j) + n
      + commonBlocksWithin fuel (as.drop (i + n)) (bs.drop (j + n))

def commonBlocks (as bs : List Char) : Nat :=
  commonBlocksWithin (as.length + 1) as bs

/-- Characters left to be matched once the popular ones of a long word are set aside: in a word
    of two hundred characters or more, those that make up over one percent of it. -/
def significant (word : List Char) : List Char → List Char :=
  if word.length < 200 then id
  else fun cs => cs.filter fun c => word.count c ≤ word.length / 100 + 1

/-- The likeness of an option to a word, as numerator and denominator. -/
def likeness (option word : String) : Nat × Nat :=
  let total := option.length + word.length
  if total == 0 then (1, 1)
  else (2 * commonBlocks option.toList (significant word.toList word.toList), total)

/-- Is one scored option ahead of another: by likeness, then by text? -/
def aheadOf (a b : (Nat × Nat) × String) : Bool :=
  let l := a.1.1 * b.1.2
  let r := b.1.1 * a.1.2
  r < l || (l == r && b.2 ≤ a.2)

/-- The options of a likeness of at least 0.6, best first, at most three. -/
def closeMatches (word : String) (options : List String) : List String :=
  let scored := (options.map fun o => (likeness o word, o)).filter fun (s, _) => 3 * s.2 ≤ 5 * s.1
  ((scored.mergeSort aheadOf).take 3).map (·.2)

end Panel.Text
