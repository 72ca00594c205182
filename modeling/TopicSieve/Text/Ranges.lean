/-!
Character classes are given by sorted, disjoint ranges of code points. A search stops at the first
range that lies beyond the code, so small codes are found after a few steps.
-/

namespace TopicSieve

abbrev Ranges := List (Nat × Nat)

def Ranges.has : Ranges → Nat → Bool
  | [], _ => false
  | (first, last) :: rest, code =>
      if code < first then false
      else if code ≤ last then true
      else Ranges.has rest code

end TopicSieve
