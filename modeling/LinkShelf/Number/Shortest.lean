import LinkShelf.Number.Binary64
/-!
The decimal text of a double: the fewest digits that read back as the same double, and of those
the nearest. Positional from 10^-4 up to 10^16, with at least one digit after the point;
otherwise with an exponent of at least two digits.
-/
namespace LinkShelf.Binary64

/-- Whether `units` times 2^-1074 lies below 10^k. -/
def belowPower (units : Nat) (k : Int) : Bool :=
  if k < 0 then units * 10 ^ k.natAbs < oneUnits else units < 10 ^ k.natAbs * oneUnits

/-- The power of ten just above a positive number; the first guess comes from its bits. -/
def magnitude (units : Nat) : Int :=
  let guess := ((units.log2 : Int) - 1074) * 30103 / 100000
  ([guess - 1, guess, guess + 1].find? (belowPower units)).getD (guess + 2)

/-- Numerator and denominator of a number of units on the grid of multiples of 10^e. -/
def onGrid (units : Nat) (e : Int) : Nat × Nat :=
  if e < 0 then (units * 10 ^ e.natAbs, oneUnits) else (units, oneUnits * 10 ^ e.natAbs)

/-- The neighbours on one decimal grid that read back, the nearer one first. -/
def onGrid? (units : Nat) (e : Int) : Option Nat :=
  let (num, den) := onGrid units e
  let low := num / den
  let back (m : Nat) : Bool := ofDecimal false m e == .finite false units
  let r := 2 * (num % den)
  let lowFirst := r < den || (r == den && low % 2 == 0)
  let order := if lowFirst then [low, low + 1] else [low + 1, low]
  order.find? back

/-- The grids of 1, 2, … digits, the first that holds the number winning; seventeen suffice. -/
def shortestFrom (units : Nat) (k : Int) : Nat → Nat → Nat × Int
  | 0, _ => (0, 0)
  | fuel + 1, n =>
    match onGrid? units (k - n) with
    | some m => (m, k - n)
    | none => shortestFrom units k fuel (n + 1)

/-- Shortest digits of a positive number: the number reads back from `m` times 10^e. -/
def shortest (units : Nat) : Nat × Int := shortestFrom units (magnitude units) 17 1

def digitsText (n : Nat) : String := .ofList (Nat.toDigits 10 n)

def zeros (n : Nat) : String := .ofList (List.replicate n '0')

/-- Digits without trailing zeros, and the power of ten just above the number. -/
def significant (units : Nat) : List Char × Int :=
  let (m, e) := shortest units
  let ds := Nat.toDigits 10 m
  let kept := (ds.reverse.dropWhile (· == '0')).reverse
  (kept, e + ds.length)

/-- The digits with a point `k` places after the start. -/
def positional (ds : List Char) (k : Int) : String :=
  if k ≤ 0 then "0." ++ zeros k.natAbs ++ .ofList ds
  else
    let whole := ds.take k.toNat
    let rest := ds.drop k.toNat
    .ofList whole ++ zeros (k.toNat - whole.length) ++ "." ++
      (if rest.isEmpty then "0" else .ofList rest)

/-- One digit, a point if more follow, and a signed exponent of at least two digits. -/
def scientific (ds : List Char) (k : Int) : String :=
  let e := k - 1
  let digits := digitsText e.natAbs
  .ofList (ds.take 1) ++ (if ds.length > 1 then "." ++ .ofList (ds.drop 1) else "") ++ "e" ++
    (if e < 0 then "-" else "+") ++ zeros (2 - digits.length) ++ digits

def text : Binary64 → String
  | .nan => "nan"
  | .infinite s => if s then "-inf" else "inf"
  | .finite s u =>
    (if s then "-" else "") ++
      if u = 0 then "0.0"
      else
        let (ds, k) := significant u
        if -4 < k ∧ k ≤ 16 then positional ds k else scientific ds k

end LinkShelf.Binary64
