/-!
# Powers of two and of ten

Binary numbers are scaled by powers of two and decimal numbers by powers of ten. Both
powers are positive, so they can stand under a division.
-/

namespace BoundQuery

def twoTo (power : Nat) : Nat :=
  Nat.pow 2 power

def tenTo (power : Nat) : Nat :=
  Nat.pow 10 power

/-! ## Facts on powers -/

@[simp]
theorem tenTo_zero : tenTo 0 = 1 := rfl

theorem twoTo_succ (power : Nat) : twoTo (power + 1) = twoTo power * 2 := rfl

theorem tenTo_succ (power : Nat) : tenTo (power + 1) = tenTo power * 10 := rfl

theorem twoTo_pos (power : Nat) : 0 < twoTo power := by
  induction power with
  | zero => decide
  | succ power inductionHypothesis =>
      rw [twoTo_succ]
      omega

theorem tenTo_pos (power : Nat) : 0 < tenTo power := by
  induction power with
  | zero => decide
  | succ power inductionHypothesis =>
      rw [tenTo_succ]
      omega

end BoundQuery
