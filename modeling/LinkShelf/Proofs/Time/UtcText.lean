import LinkShelf.Bookmark.Timestamp
import LinkShelf.Proofs.Json.Scalar
import LinkShelf.Proofs.Time.Calendar
/-!
The text of a whole second, read back. Each of its parts has a fixed width, so that the reader
finds every part at its place, and the calendar turns the date back into the day it came from.
-/
namespace LinkShelf.Iso

open Json (digitValues)

variable {width n year month day hour minute second : Nat} {cs ys ms ds hs is ss rest : List Char}

/-- A number in so many digits. -/
structure Digits (width n : Nat) (cs : List Char) : Prop where
  length : cs.length = width
  digits : ∀ c ∈ cs, c.isDigit = true
  value : Text.ofDigits 10 (digitValues cs) = n

/-- The digits of a number are filled up with zeros, which add nothing. -/
theorem digits_padded (hwidth : 0 < width) (h : n < 10 ^ width) :
    Digits width n (Instant.padded width n).toList := by
  have hlength : (Nat.toDigits 10 n).length ≤ width :=
    (Nat.length_toDigits_le_iff (by decide) hwidth).mpr h
  have hpadded : (Instant.padded width n).toList =
      List.replicate (width - (Nat.toDigits 10 n).length) '0' ++ Nat.toDigits 10 n := by
    simp [Instant.padded, Binary64.digitsText, Binary64.zeros]
  have hzeros : ∀ k, Text.ofDigits 10 (digitValues (List.replicate k '0')) = 0 := by
    intro k
    induction k with
    | zero => rfl
    | succ k ih => simpa [Text.ofDigits, digitValues, List.replicate_succ] using ih
  rw [hpadded]
  refine ⟨?_, ?_, ?_⟩
  · simp
    omega
  · intro c hc
    rcases List.mem_append.mp hc with hc | hc
    · rw [(List.mem_replicate.mp hc).2]
      decide
    · exact Nat.isDigit_of_mem_toDigits (by omega) (by omega) hc
  · have hvalue := Json.ofDigits_toDigits n
    rw [Text.ofDigits, digitValues, List.map_append, List.foldl_append, ← digitValues,
      ← digitValues, ← Text.ofDigits, hzeros]
    exact hvalue

theorem digits?_append (h : ∀ c ∈ cs, c.isDigit = true) (rest : List Char) :
    digits? cs.length (cs ++ rest) = some (digitValues cs, rest) := by
  induction cs with
  | nil => rfl
  | cons c cs ih =>
    have hrest := ih fun x hx => h x (by simp [hx])
    simp [digits?, h c (by simp), hrest, digitValues]

theorem Digits.number? (h : Digits width n cs) (rest : List Char) :
    number? width (cs ++ rest) = some (n, rest) := by
  simp only [Iso.number?, ← h.length, digits?_append h.digits, Option.map_some, h.value]

theorem Digits.charAt (h : Digits (width + 1) n cs) (rest : List Char) :
    (charAt (cs ++ rest) 0).isDigit = true := by
  have hlength := h.length
  cases cs with
  | nil => cases hlength
  | cons c cs => exact h.digits c (by simp)

theorem not_week {c : Char} (h : c.isDigit = true) : c ≠ 'W' := by
  rintro rfl
  cases h

theorem date?_text (hy : Digits 4 year ys) (hm : Digits 2 month ms) (hd : Digits 2 day ds)
    (rest : List Char) :
    date? (ys ++ '-' :: (ms ++ '-' :: (ds ++ rest))) 10 = some ⟨year, month, day⟩ := by
  have hweek := not_week (hm.charAt ('-' :: (ds ++ rest)))
  have hhyphen : ∀ cs, charAt ('-' :: cs) 0 = '-' := fun _ => rfl
  rw [date?, hy.number?]
  simp only [bind, Option.bind, hhyphen, if_true, List.drop_succ_cons, List.drop_zero]
  rw [if_neg hweek, hm.number?]
  simp [hhyphen, hd.number?]

/-- Hours and minutes end at a colon, seconds with the clock time. -/
theorem clock?_text (hh : Digits 2 hour hs) (hi : Digits 2 minute is) (hs' : Digits 2 second ss)
    (after : Char) : clock? (hs ++ ':' :: (is ++ ':' :: ss)) after =
      some (⟨hour, minute, second, 0⟩, decide (after = '\x00')) := by
  have hlast : number? 2 ss = some (second, []) := by simpa using hs'.number? []
  have hlong : ¬(':' :: (is ++ ':' :: ss)).length ≤ 1 := by simp
  have hlong' : ¬(':' :: ss).length ≤ 1 := by simp [hs'.length]
  rw [clock?, clockFrom, hh.number?]
  simp only [bind, Option.bind, hlong, if_false, if_true, true_and, decide_true,
    List.drop_succ_cons, List.drop_zero]
  rw [clockFrom, hi.number?]
  simp only [bind, Option.bind, hlong', if_false, if_true, true_and, decide_true, Nat.zero_add,
    Nat.one_ne_zero, List.drop_succ_cons, List.drop_zero]
  rw [clockFrom, hlast]
  simp [Clock.put]

/-- A text that may follow a clock time, and the microseconds east of Greenwich that it means. -/
inductive IsOffset : List Char → Int → Prop
  | none : IsOffset [] 0
  | signed {mark : Char} {cs : List Char} {micros : Int} (hmark : mark = '+' ∨ mark = '-')
      (h : offset? (mark = '-') cs = some micros) : IsOffset (mark :: cs) micros

theorem time?_text {zone : List Char} {offset : Int} (hh : Digits 2 hour hs)
    (hi : Digits 2 minute is) (hs' : Digits 2 second ss) (hzone : IsOffset zone offset) :
    time? (hs ++ ':' :: (is ++ ':' :: (ss ++ zone))) =
      some (⟨hour, minute, second, 0⟩, offset) := by
  have hclock := clock?_text hh hi hs'
  have htext : hs ++ ':' :: (is ++ ':' :: (ss ++ zone)) =
      (hs ++ ':' :: (is ++ ':' :: ss)) ++ zone := by simp
  have hplain : ∀ c ∈ hs ++ ':' :: (is ++ ':' :: ss), (!startsOffset c) = true := by
    have hdigit : ∀ c, c.isDigit = true → (!startsOffset c) = true := by
      intro c hc
      rw [Bool.not_eq_true', Bool.eq_false_iff]
      intro hs
      simp only [startsOffset, Bool.or_eq_true, decide_eq_true_eq] at hs
      rcases hs with (rfl | rfl) | rfl <;> cases hc
    have hcolon : (!startsOffset ':') = true := by decide
    intro c hc
    simp only [List.mem_append, List.mem_cons] at hc
    rcases hc with hc | rfl | hc | rfl | hc
    · exact hdigit c (hh.digits c hc)
    · exact hcolon
    · exact hdigit c (hi.digits c hc)
    · exact hcolon
    · exact hdigit c (hs'.digits c hc)
  rw [htext]
  generalize hs ++ ':' :: (is ++ ':' :: ss) = cs at hclock hplain ⊢
  have htake : (cs ++ zone).takeWhile (!startsOffset ·) =
      cs ++ zone.takeWhile (!startsOffset ·) := List.takeWhile_append_of_pos hplain
  have hdrop : (cs ++ zone).dropWhile (!startsOffset ·) = zone.dropWhile (!startsOffset ·) :=
    List.dropWhile_append_of_pos hplain
  rw [time?]
  simp only [htake, hdrop]
  cases hzone with
  | none => simp [hclock]
  | @signed mark rest micros hmark h =>
    have hstarts : startsOffset mark = true := by rcases hmark with rfl | rfl <;> decide
    have hzulu : mark ≠ 'Z' := by rcases hmark with rfl | rfl <;> decide
    simp [hclock, hstarts, hzulu, h]

theorem dateLength?_text (hy : Digits 4 year ys) (hm : Digits 2 month ms)
    (hlong : 7 < (ys ++ '-' :: (ms ++ rest)).length) :
    dateLength? (ys ++ '-' :: (ms ++ rest)) = some 10 := by
  have hlength : (ys ++ '-' :: (ms ++ rest)).length ≠ 7 := Nat.ne_of_gt hlong
  have hhyphen : charAt (ys ++ '-' :: (ms ++ rest)) 4 = '-' := by
    simp [Iso.charAt, List.getD_eq_getElem?_getD, hy.length]
  have hmonth : charAt (ys ++ '-' :: (ms ++ rest)) 5 = charAt (ms ++ rest) 0 := by
    simp [Iso.charAt, List.getD_eq_getElem?_getD, List.getElem?_append_right, hy.length]
  have hweek : charAt (ys ++ '-' :: (ms ++ rest)) 5 ≠ 'W' := by
    rw [hmonth]
    exact not_week (hm.charAt rest)
  rw [dateLength?]
  simp only [hlength, if_false, hhyphen, if_true, hweek]

theorem instant?_text {zone : List Char} {offset : Int} (hy : Digits 4 year ys)
    (hm : Digits 2 month ms) (hd : Digits 2 day ds) (hh : Digits 2 hour hs)
    (hi : Digits 2 minute is) (hs' : Digits 2 second ss) (hzone : IsOffset zone offset)
    (hvalid : (⟨year, month, day⟩ : Date).Valid)
    (hclock : hour < 24 ∧ minute < 60 ∧ second < 60) :
    instant? (ys ++ '-' :: (ms ++ '-' :: (ds ++ 'T' ::
        (hs ++ ':' :: (is ++ ':' :: (ss ++ zone)))))) =
      some (.ofClock ⟨year, month, day⟩ (hour * 3600 + minute * 60 + second) 0 offset) := by
  have htime := time?_text hh hi hs' hzone
  have hdate := date?_text hy hm hd ('T' :: (hs ++ ':' :: (is ++ ':' :: (ss ++ zone))))
  generalize hs ++ ':' :: (is ++ ':' :: (ss ++ zone)) = clock at htime hdate ⊢
  have hlong : 7 < (ys ++ '-' :: (ms ++ '-' :: (ds ++ 'T' :: clock))).length := by
    simp [hy.length, hm.length, hd.length]
    omega
  have hlength := dateLength?_text hy hm hlong
  have hdrop : (ys ++ '-' :: (ms ++ '-' :: (ds ++ 'T' :: clock))).drop 10 = 'T' :: clock := by
    have hys : ys.drop 10 = [] := List.drop_of_length_le (by simp [hy.length])
    have hms : ms.drop 5 = [] := List.drop_of_length_le (by simp [hm.length])
    simp [List.drop_append, hy.length, hm.length, hd.length, hys, hms]
  rw [instant?, if_neg (Nat.not_lt.mpr (Nat.le_of_lt hlong)), hlength]
  simp [hdate, hdrop, htime, hvalid, hclock, Clock.secondOfDay]

end LinkShelf.Iso

namespace LinkShelf.Instant

open Iso

variable {hour minute second : Nat}

/-- The characters of a written second. -/
def isClockChar (c : Char) : Bool := c.isDigit || c = '-' || c = ':' || c = 'T' || c = '+'

theorem clockChar_of_digits {width n : Nat} {cs : List Char} (h : Digits width n cs) :
    ∀ c ∈ cs, isClockChar c = true := by
  intro c hc
  simp [isClockChar, h.digits c hc]

/-- A date and a clock time, with nothing said of the offset from UTC. -/
def localChars (d : Date) (hour minute second : Nat) : List Char :=
  (padded 4 d.year).toList ++ '-' :: ((padded 2 d.month).toList ++ '-' ::
    ((padded 2 d.day).toList ++ 'T' :: ((padded 2 hour).toList ++ ':' ::
      ((padded 2 minute).toList ++ ':' :: (padded 2 second).toList))))

/-- A clock time on a valid date is read as it was written, whatever offset is meant. -/
theorem instant?_localChars {d : Date} (hd : d.Valid)
    (hclock : hour < 24 ∧ minute < 60 ∧ second < 60) :
    (∀ c ∈ localChars d hour minute second, isClockChar c = true) ∧
      ∀ {zone offset}, IsOffset zone offset →
        Iso.instant? (localChars d hour minute second ++ zone) =
          some (.ofClock d (hour * 3600 + minute * 60 + second) 0 offset) := by
  obtain ⟨-, hyear, -, hmonth, -, hlength⟩ := id hd
  have hdays : Date.daysInMonth d.year d.month ≤ 31 := by
    unfold Date.daysInMonth
    split <;> split <;> omega
  have hy : Digits 4 d.year (padded 4 d.year).toList := digits_padded (by decide) (by omega)
  have hm : Digits 2 d.month (padded 2 d.month).toList := digits_padded (by decide) (by omega)
  have hday : Digits 2 d.day (padded 2 d.day).toList := digits_padded (by decide) (by omega)
  have hh : Digits 2 hour (padded 2 hour).toList := digits_padded (by decide) (by omega)
  have hi : Digits 2 minute (padded 2 minute).toList := digits_padded (by decide) (by omega)
  have hs' : Digits 2 second (padded 2 second).toList := digits_padded (by decide) (by omega)
  constructor
  · intro c hc
    simp only [localChars, List.mem_append, List.mem_cons] at hc
    rcases hc with hc | rfl | hc | rfl | hc | rfl | hc | rfl | hc | rfl | hc
    · exact clockChar_of_digits hy c hc
    · decide
    · exact clockChar_of_digits hm c hc
    · decide
    · exact clockChar_of_digits hday c hc
    · decide
    · exact clockChar_of_digits hh c hc
    · decide
    · exact clockChar_of_digits hi c hc
    · decide
    · exact clockChar_of_digits hs' c hc
  · intro zone offset hzone
    have hread := instant?_text hy hm hday hh hi hs' hzone hd hclock
    rw [← hread, localChars]
    simp

/-- Date and time of day in UTC. -/
def clockText (d : Date) (s : Nat) : String :=
  padded 4 d.year ++ "-" ++ padded 2 d.month ++ "-" ++ padded 2 d.day ++ "T" ++
    padded 2 (s / 3600) ++ ":" ++ padded 2 (s / 60 % 60) ++ ":" ++ padded 2 (s % 60) ++ "+00:00"

theorem toList_clockText (d : Date) (s : Nat) : (clockText d s).toList =
    localChars d (s / 3600) (s / 60 % 60) (s % 60) ++ "+00:00".toList := by
  simp [clockText, localChars]

/-- No offset at all, written out. -/
theorem isOffset_zero : IsOffset "+00:00".toList 0 := .signed (.inl rfl) (by decide)

/-- A time of day on a valid date is read as it was written. -/
theorem instant?_clockText {d : Date} {s : Nat} (hd : d.Valid) (hs : s < 86400) :
    (∀ c ∈ (clockText d s).toList, isClockChar c = true) ∧
      Iso.instant? (clockText d s).toList = some (.ofClock d s 0 0) := by
  have hparts : s / 3600 * 3600 + s / 60 % 60 * 60 + s % 60 = s := by omega
  have hclock : s / 3600 < 24 ∧ s / 60 % 60 < 60 ∧ s % 60 < 60 := by omega
  obtain ⟨hchars, hread⟩ := instant?_localChars hd hclock
  rw [toList_clockText, hread isOffset_zero, hparts]
  refine ⟨?_, rfl⟩
  intro c hc
  rcases List.mem_append.mp hc with hc | hc
  · exact hchars c hc
  · exact List.all_eq_true.mp (by decide : "+00:00".toList.all isClockChar = true) c hc

/-- A second of the years 1 to 9999, written in UTC, is read as the same instant. -/
theorem instant?_utcText {n : Int} (hlow : firstSecond ≤ n) (hhigh : n < endSecond) :
    ∃ text, utcText? n = some text ∧ (∀ c ∈ text.toList, isClockChar c = true) ∧
      Iso.instant? text.toList = some ⟨n * 1000000⟩ := by
  obtain ⟨total, htotal⟩ : ∃ total : Nat, (total : Int) = n + 719468 * 86400 := by
    unfold firstSecond at hlow
    exact ⟨(n + 719468 * 86400).toNat, by omega⟩
  have hdate : (Date.ofDayNumber (total / 86400)).Valid := by
    unfold firstSecond at hlow
    unfold endSecond at hhigh
    exact Date.valid_ofDayNumber (by omega) (by omega)
  have hwritten : utcText? n =
      some (clockText (Date.ofDayNumber (total / 86400)) (total % 86400)) := by
    have hnat : (n + Date.epoch * secondsPerDay).toNat = total := by
      simp only [Date.epoch, secondsPerDay]
      omega
    rw [utcText?, if_pos ⟨hlow, hhigh⟩, hnat]
    rfl
  obtain ⟨hchars, hread⟩ := instant?_clockText hdate (Nat.mod_lt total (by decide : 0 < 86400))
  refine ⟨_, hwritten, hchars, ?_⟩
  rw [hread, ofClock, Date.dayNumber_ofDayNumber]
  simp only [Date.epoch, secondsPerDay, Option.some.injEq, Instant.mk.injEq]
  omega

end LinkShelf.Instant
