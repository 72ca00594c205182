/-!
Powers of the two bases that numbers are read and written in.
-/

namespace TopicSieve

def twoTo (power : Nat) : Nat := Nat.pow 2 power

def tenTo (power : Nat) : Nat := Nat.pow 10 power

theorem tenTo_succ (power : Nat) : tenTo (power + 1) = tenTo power * 10 :=
  Nat.pow_succ 10 power

theorem tenTo_add (power more : Nat) : tenTo (power + more) = tenTo power * tenTo more :=
  Nat.pow_add 10 power more

theorem tenTo_pos (power : Nat) : 0 < tenTo power := Nat.pow_pos (by decide)

end TopicSieve
