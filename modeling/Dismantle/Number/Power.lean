/-! Powers of two and of ten. -/
namespace Dismantle

def twoTo (n : Nat) : Nat := Nat.pow 2 n

def tenTo (n : Nat) : Nat := Nat.pow 10 n

theorem tenTo_succ (n : Nat) : tenTo (n + 1) = 10 * tenTo n := by
  simp only [tenTo, Nat.pow_eq, Nat.pow_succ, Nat.mul_comm]

end Dismantle
