import LinkShelf.Text.Digit
import LinkShelf.Time.Instant
/-!
Reading ISO 8601 dates and times: calendar and week dates, with or without separators, any
character between date and time, fractions cut to microseconds, and an offset from UTC.
-/
namespace LinkShelf.Iso

/-- So many ASCII digits and what follows them. -/
def digits? : Nat → List Char → Option (List Nat × List Char)
  | 0, cs => some ([], cs)
  | _ + 1, [] => none
  | n + 1, c :: cs =>
    if c.isDigit then (digits? n cs).map fun (ds, rest) => ((c.toNat - 48) :: ds, rest)
    else none

def number? (width : Nat) (cs : List Char) : Option (Nat × List Char) :=
  (digits? width cs).map fun (ds, rest) => (Text.ofDigits 10 ds, rest)

/-- The character at an index; past the end stands the null character. -/
def charAt (cs : List Char) (i : Nat) : Char := cs.getD i '\x00'

/-- How many characters the date takes. A week date is ambiguous when no separator tells its day
from an hour; hours, minutes and seconds come in pairs of digits, which decides. -/
def dateLength? (cs : List Char) : Option Nat :=
  let len := cs.length
  if len = 7 then some 7
  else if charAt cs 4 = '-' then
    if charAt cs 5 = 'W' then
      if len > 8 ∧ charAt cs 8 = '-' then
        if len = 9 then none
        else if len > 10 ∧ (charAt cs 10).isDigit then some 8
        else some 10
      else some 8
    else some 10
  else if charAt cs 4 = 'W' then
    let stop := 7 + ((cs.drop 7).takeWhile Char.isDigit).length
    if stop < 9 then some stop
    else if stop % 2 = 0 then some 7
    else some 8
  else some 8

/-- The date at the start of the text, which takes so many characters. -/
def date? (cs : List Char) (length : Nat) : Option Date := do
  let (year, rest) ← number? 4 cs
  let separated := charAt rest 0 = '-'
  let rest := if separated then rest.drop 1 else rest
  if charAt rest 0 = 'W' then
    let (week, rest) ← number? 2 (rest.drop 1)
    if cs.length - rest.length < length then
      if separated ∧ charAt rest 0 ≠ '-' then none
      else
        let (day, _) ← number? 1 (if separated then rest.drop 1 else rest)
        Date.ofWeek? year week day
    else Date.ofWeek? year week 1
  else
    let (month, rest) ← number? 2 rest
    if separated ∧ charAt rest 0 ≠ '-' then none
    else
      let (day, _) ← number? 2 (if separated then rest.drop 1 else rest)
      pure ⟨year, month, day⟩

structure Clock where
  hour : Nat := 0
  minute : Nat := 0
  second : Nat := 0
  micros : Nat := 0
  deriving DecidableEq, Repr

def Clock.put (t : Clock) (i n : Nat) : Clock :=
  match i with
  | 0 => { t with hour := n }
  | 1 => { t with minute := n }
  | _ => { t with second := n }

def Clock.secondOfDay (t : Clock) : Nat := t.hour * 3600 + t.minute * 60 + t.second

/-- A clock time, and whether it took the whole text. -/
abbrev ClockRead := Option (Clock × Bool)

/-- The fraction of a second, `after` being what follows the clock time. -/
def fraction? (t : Clock) (cs : List Char) (after : Char) : ClockRead := do
  let width := min cs.length 6
  let (n, rest) ← number? width cs
  let rest := rest.dropWhile Char.isDigit
  let next := match rest with
    | [] => after
    | c :: _ => c
  pure ({ t with micros := n * 10 ^ (6 - width) }, next = '\x00')

/-- Hours, minutes and seconds from the `i`-th of them on. -/
def clockFrom (separated : Bool) (after : Char) : Nat → Nat → Clock → List Char → ClockRead
  | 0, _, t, cs => fraction? t cs after
  | left + 1, i, t, cs => do
    let (n, rest) ← number? 2 cs
    let t := t.put i n
    let c := match rest with
      | [] => after
      | c :: _ => c
    let separated := if i = 0 then c = ':' else separated
    if rest.length ≤ 1 then pure (t, c = '\x00')
    else if separated ∧ c = ':' then clockFrom separated after left (i + 1) t (rest.drop 1)
    else if c = '.' ∨ c = ',' then fraction? t (rest.drop 1) after
    else if separated then none
    else clockFrom separated after left (i + 1) t rest

/-- A clock time in a text that the given character follows, null at the end of all. -/
def clock? (cs : List Char) (after : Char) : ClockRead := clockFrom true after 3 0 {} cs

/-- Microseconds east of Greenwich. Whole seconds that come to nothing mean UTC. -/
def offset? (negative : Bool) (cs : List Char) : Option Int := do
  let (t, whole) ← clock? cs '\x00'
  if !whole then none
  else
    let micros : Int := t.secondOfDay * 1000000 + t.micros
    if t.secondOfDay = 0 then pure 0
    else if micros < 86400 * 1000000 then pure (if negative then -micros else micros)
    else none

def startsOffset (c : Char) : Bool := c = '+' || c = '-' || c = 'Z'

/-- The time after the separator: clock time and offset. -/
def time? (cs : List Char) : Option (Clock × Int) := do
  let head := cs.takeWhile (!startsOffset ·)
  match cs.dropWhile (!startsOffset ·) with
  | [] =>
    let (t, whole) ← clock? head '\x00'
    if whole then pure (t, 0) else none
  | mark :: rest =>
    let (t, _) ← clock? head mark
    if mark = 'Z' then
      if rest.isEmpty then pure (t, 0) else none
    else pure (t, ← offset? (mark = '-') rest)

/-- The instant a text denotes, a missing offset meaning UTC. -/
def instant? (cs : List Char) : Option Instant :=
  if cs.length < 7 then none
  else do
    let length ← dateLength? cs
    let d ← date? cs length
    let (t, offset) ← match cs.drop length with
      | [] => pure (({} : Clock), (0 : Int))
      | _ :: rest => time? rest
    if d.Valid ∧ t.hour < 24 ∧ t.minute < 60 ∧ t.second < 60 then
      pure (.ofClock d t.secondOfDay t.micros offset)
    else none

end LinkShelf.Iso
