set_option autoImplicit false

/-! # Similar texts

How alike two texts are, measured by the characters that they share in long runs: the longest run that
both have counts, and so do the runs that what is left of it and what is right of it share in turn. -/

namespace StaticSite.Text

/-- The length of the run that two texts begin with. -/
def sharedLead : List Char → List Char → Nat
  | a :: as, b :: bs => if a = b then sharedLead as bs + 1 else 0
  | _, _ => 0

/-- A run that two texts share, by its places in both of them. -/
structure SharedRun where
  left : Nat
  right : Nat
  size : Nat

/-- The better one of two runs: the longer one, of equally long ones the first. -/
def SharedRun.better (best r : SharedRun) : SharedRun :=
  if best.size < r.size then r else best

/-- The longest run of two texts; of several the one that ends first in the left text, then in the right
    text. -/
def longestRun (a b : List Char) : SharedRun :=
  let places := (List.range a.length).flatMap fun i => (List.range b.length).map fun j => (i, j)
  places.foldl (fun best (i, j) => best.better ⟨i, j, sharedLead (a.drop i) (b.drop j)⟩) ⟨0, 0, 0⟩

/-- The number of characters of two texts in shared runs. The first argument bounds the number of runs
    inside each other. -/
def sharedWithin : Nat → List Char → List Char → Nat
  | 0, _, _ => 0
  | n + 1, a, b =>
      let r := longestRun a b
      if r.size = 0 then 0
      else
        r.size + sharedWithin n (a.take r.left) (b.take r.right)
          + sharedWithin n (a.drop (r.left + r.size)) (b.drop (r.right + r.size))

/-- The number of characters of two texts in shared runs. -/
def shared (a b : List Char) : Nat :=
  sharedWithin a.length a b

/-- Whether at least three fifths of the characters of two texts are in shared runs. -/
def alike (a b : List Char) : Bool :=
  3 * (a.length + b.length) ≤ 5 * (2 * shared a b)

end StaticSite.Text

namespace StaticSite

/-- The texts that are like a given one, at most three, the most similar ones first. -/
def similarTo (s : String) (candidates : List String) : List String :=
  let share (t : String) : Nat × Nat :=
    (2 * Text.shared t.toList s.toList, t.length + s.length)
  let closer (t u : String) : Bool :=
    let (a, b) := share t
    let (c, d) := share u
    c * b < a * d || (c * b = a * d && compare t u != .lt)
  ((candidates.filter fun t => Text.alike t.toList s.toList).mergeSort closer).take 3

end StaticSite
