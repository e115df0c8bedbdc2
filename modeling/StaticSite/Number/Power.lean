set_option autoImplicit false

/-! # Powers

Powers of the two bases of numbers: two for numbers as they are kept, ten for numbers as they are
written. -/

namespace StaticSite.Number

/-- A power of two. -/
def twoTo (n : Nat) : Nat :=
  Nat.pow 2 n

/-- A power of ten. -/
def tenTo (n : Nat) : Nat :=
  Nat.pow 10 n

end StaticSite.Number
