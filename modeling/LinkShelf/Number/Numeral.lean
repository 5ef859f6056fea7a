import LinkShelf.Number.Binary64
import LinkShelf.Text.Digit
import LinkShelf.Text.Trim
/-!
Numbers written in a text by hand. Digits of any script count, single underscores may stand
between digits, and blanks may surround the number.
-/
namespace LinkShelf.Numeral

/-- The text in ASCII: digits by value, blanks as spaces, anything else foreign as a mark that
no number holds. ASCII stays as it is. -/
def toAscii (cs : List Char) : List Char :=
  if cs.all (·.toNat < 128) then cs
  else cs.map fun c =>
    if c.toNat < 128 then c
    else match Text.digit? c with
      | some d => Char.ofNat (48 + d)
      | none => if Text.isBlank c then ' ' else '?'

/-- Drops underscores that stand between two digits; any other underscore spoils the number. -/
def dropUnderscores (afterDigit : Bool) : List Char → Option (List Char)
  | [] => some []
  | '_' :: c :: cs =>
    if afterDigit && c.isDigit then (dropUnderscores true cs).map (c :: ·) else none
  | '_' :: [] => none
  | c :: cs => (dropUnderscores c.isDigit cs).map (c :: ·)

/-- An optional sign: whether it was a minus, and the rest. -/
def sign : List Char → Bool × List Char
  | '-' :: cs => (true, cs)
  | '+' :: cs => (false, cs)
  | cs => (false, cs)

def digits (cs : List Char) : List Nat × List Char :=
  ((cs.takeWhile Char.isDigit).map fun c => c.toNat - 48, cs.dropWhile Char.isDigit)

def exponent? : List Char → Option Int
  | [] => some 0
  | e :: cs =>
    if e = 'e' ∨ e = 'E' then
      let (negative, cs) := sign cs
      match digits cs with
      | ([], _) => none
      | (ds, []) =>
        let n := Text.ofDigits 10 ds
        some (if negative then -n else n)
      | _ => none
    else none

/-- A fraction after its point, with the exponent that may follow. -/
def unsigned? (negative : Bool) (cs : List Char) : Option Binary64 :=
  let (whole, rest) := digits cs
  let (fraction, rest) := match rest with
    | '.' :: rest => digits rest
    | rest => ([], rest)
  if whole.isEmpty && fraction.isEmpty then none
  else (exponent? rest).map fun e =>
    .ofDecimal negative (Text.ofDigits 10 (whole ++ fraction)) (e - fraction.length)

/-- The number a text denotes as a whole. -/
def real? (s : String) : Option Binary64 := do
  let cs := Text.trimBy Text.isAsciiBlank (toAscii s.toList)
  let cs ← dropUnderscores false cs
  let (negative, rest) := sign cs
  match String.ofList (rest.map Char.toLower) with
  | "inf" | "infinity" => some (.infinite negative)
  | "nan" => some .nan
  | _ => unsigned? negative rest

def whole? (s : String) : Option Int := do
  let cs := Text.trimBy Text.isAsciiBlank (toAscii s.toList)
  let (negative, rest) := sign cs
  let rest ← dropUnderscores false rest
  match digits rest with
  | ([], _) => none
  | (ds, []) =>
    let n := Text.ofDigits 10 ds
    some (if negative then -n else n)
  | _ => none

end LinkShelf.Numeral
