/-!
IEEE double precision as exact data. A finite number is a sign and a count of the smallest unit
2^-1074, so comparing is comparing naturals, and each operation is an exact quotient followed by
one rounding to nearest with ties to even.
-/
namespace LinkShelf

-- Powers of naturals are those of the core library, also where another instance is in reach.
@[default_instance 20000]
scoped instance (priority := 2000) powNat : Pow Nat Nat := instPowNat

inductive Binary64 where
  | nan
  | infinite (negative : Bool)
  /-- The value is `units` times 2^-1074. -/
  | finite (negative : Bool) (units : Nat)
  deriving DecidableEq, Repr

namespace Binary64

def zero : Binary64 := .finite false 0

/-- The quotient rounded to a whole number, a half going to the even neighbour. -/
def divEven (num den : Nat) : Nat :=
  let q := num / den
  let r := 2 * (num % den)
  if r < den ∨ (r = den ∧ q % 2 = 0) then q else q + 1

def oneUnits : Nat := 2 ^ 1074

/-- The first count of units that is too large for a double. -/
def overflowUnits : Nat := 2 ^ 2098

/-- The spacing of doubles at a magnitude: 53 significant bits, but never below the unit. -/
def spacing (units : Nat) : Nat := 2 ^ (units.log2 - 52)

/-- The double nearest to `num / den` units. -/
def ofUnits (negative : Bool) (num den : Nat) : Binary64 :=
  let step := spacing (num / den)
  let units := divEven num (den * step) * step
  if units < overflowUnits then .finite negative units else .infinite negative

/-- The double nearest to `num / den`. -/
def ofRatio (negative : Bool) (num den : Nat) : Binary64 := ofUnits negative (num * oneUnits) den

def finite? : Binary64 → Option Binary64
  | .finite s u => some (.finite s u)
  | _ => none

/-- The double nearest to a whole number, unless the number is beyond all doubles. -/
def ofInt? (n : Int) : Option Binary64 := (ofRatio (n < 0) n.natAbs 1).finite?

/-- The double nearest to `digits * 10^exponent`; far exponents need no large power. -/
def ofDecimal (negative : Bool) (digits : Nat) (exponent : Int) : Binary64 :=
  if digits = 0 then .finite negative 0
  else if exponent > 400 then .infinite negative
  else if exponent < -(400 + 2 * digits.log2 : Int) then .finite negative 0
  else if exponent < 0 then ofRatio negative digits (10 ^ exponent.natAbs)
  else ofRatio negative (digits * 10 ^ exponent.natAbs) 1

def signed (negative : Bool) (units : Nat) : Int := if negative then -units else units

/-- Nothing compares with a NaN; the two zeros are equal. -/
def compare? : Binary64 → Binary64 → Option Ordering
  | .nan, _ | _, .nan => none
  | .infinite s, .infinite t => some (compare t s)
  | .infinite s, .finite _ _ => some (if s then .lt else .gt)
  | .finite _ _, .infinite t => some (if t then .gt else .lt)
  | .finite s u, .finite t v => some (compare (signed s u) (signed t v))

def lt (x y : Binary64) : Bool := x.compare? y == some .lt

def le (x y : Binary64) : Bool := x.compare? y == some .lt || x.compare? y == some .eq

def same (x y : Binary64) : Bool := x.compare? y == some .eq

def isNaN : Binary64 → Bool
  | .nan => true
  | _ => false

def isZero : Binary64 → Bool
  | .finite _ 0 => true
  | _ => false

/-- The whole part of a finite double, toward zero. -/
def toInt? : Binary64 → Option Int
  | .finite s u => some (if s then -(u / oneUnits : Nat) else (u / oneUnits : Nat))
  | _ => none

/-- Exact signed units, rounded; a sum that vanishes is negative only if `negativeZero`. -/
def ofSigned (negativeZero : Bool) (num : Int) (den : Nat) : Binary64 :=
  if num = 0 then .finite negativeZero 0 else ofUnits (num < 0) num.natAbs den

def neg : Binary64 → Binary64
  | .nan => .nan
  | .infinite s => .infinite !s
  | .finite s u => .finite (!s) u

def add : Binary64 → Binary64 → Binary64
  | .nan, _ | _, .nan => .nan
  | .infinite s, .infinite t => if s = t then .infinite s else .nan
  | .infinite s, _ | _, .infinite s => .infinite s
  | .finite s u, .finite t v => ofSigned (s && t) (signed s u + signed t v) 1

def sub (x y : Binary64) : Binary64 := x.add y.neg

def mul : Binary64 → Binary64 → Binary64
  | .nan, _ | _, .nan => .nan
  | .infinite s, .infinite t => .infinite (s != t)
  | .infinite s, .finite t v | .finite t v, .infinite s =>
    if v = 0 then .nan else .infinite (s != t)
  | .finite s u, .finite t v =>
    if u * v = 0 then .finite (s != t) 0 else ofUnits (s != t) (u * v) oneUnits

/-- The part of a number above the whole number below it. -/
def modOne : Binary64 → Binary64
  | .finite s u =>
    let r := u % oneUnits
    if s ∧ r ≠ 0 then ofUnits false (oneUnits - r) 1 else .finite false r
  | _ => .nan

end Binary64

end LinkShelf
