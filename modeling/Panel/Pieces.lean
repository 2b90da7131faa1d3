/-! # Pieces — lists cut into parts of one length -/

namespace Panel

/-- Cuts a list into pieces of a length; the last one may be shorter. -/
def pieces {α : Type} (n : Nat) : List α → List (List α)
  | [] => []
  | x :: xs => (x :: xs.take (n - 1)) :: pieces n (xs.drop (n - 1))
termination_by xs => xs.length
decreasing_by simp only [List.length_cons, List.length_drop]; omega

end Panel
