import LinkShelf.Fault
/-!
How long to wait before a request is made again: twice as long each time, cut at a limit, and moved
a little by what the clock shows. The rule is the same for all numbers that times may be given in.
-/
namespace LinkShelf

/-- Numbers that times are reckoned in. A whole number may be too large for them. -/
class Reckoning (τ : Type) where
  whole : Nat → Except Fault τ
  zero : τ
  half : τ
  tenth : τ
  add : τ → τ → τ
  sub : τ → τ → τ
  mul : τ → τ → τ
  modOne : τ → τ
  lt : τ → τ → Bool

/-- The first wait, and the longest one. -/
structure Pace (τ : Type) where
  base : τ
  max : τ
  deriving Repr

namespace Pace

open Reckoning

/-- The wait after a try: doubled each time, cut at the limit, and moved by up to a twentieth by
what the clock shows. -/
def delay {τ : Type} [Reckoning τ] (p : Pace τ) (n : Nat) (time : τ) : Except Fault τ := do
  let factor ← whole (2 ^ n)
  let grown := mul p.base factor
  let d := if lt p.max grown then p.max else grown
  let moved := add d (mul (mul d tenth) (sub half (modOne time)))
  pure (if lt moved zero then zero else moved)

end Pace

end LinkShelf
