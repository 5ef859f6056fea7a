/-!
Character classes given as ascending ranges of code points.
-/
namespace LinkShelf.Text

/-- Inclusive ranges of code points in ascending order. -/
abbrev Ranges := List (Nat × Nat)

def Ranges.has : Ranges → Nat → Bool
  | [], _ => false
  | (lo, hi) :: rest, n => if n < lo then false else n ≤ hi || has rest n

end LinkShelf.Text
