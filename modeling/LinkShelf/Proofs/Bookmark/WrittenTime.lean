import LinkShelf.Proofs.Bookmark.Moment
import LinkShelf.Proofs.Time.Elapsed
/-!
Times written with an offset from UTC, or with none. Such a text denotes the second that days,
clock time and offset add up to, and a time field that holds it is understood to mean that second.
-/
namespace LinkShelf

open Iso (Digits IsOffset)

/-- Seconds that are counted to the east, or to the west. -/
def eastward (west : Bool) (n : Nat) : Int := if west then -n else n

/-- An offset of less than a day is its clock time. -/
theorem Iso.offset?_of_clock {west : Bool} {cs : List Char} {t : Iso.Clock}
    (h : Iso.clock? cs '\x00' = some (t, true)) (hmicros : t.micros = 0)
    (hday : t.secondOfDay < 86400) :
    Iso.offset? west cs = some (eastward west t.secondOfDay * 1000000) := by
  have hsum : (t.secondOfDay : Int) * 1000000 + (t.micros : Int) = t.secondOfDay * 1000000 := by
    omega
  have hlimit : (t.secondOfDay : Int) * 1000000 < 86400 * 1000000 := by omega
  simp only [Iso.offset?, h, bind, Option.bind, Bool.not_true, Bool.false_eq_true, if_false, hsum,
    if_pos hlimit, eastward, pure]
  by_cases hzero : t.secondOfDay = 0
  · rw [if_pos hzero, hzero]
    cases west <;> rfl
  · rw [if_neg hzero]
    cases west with
    | false => simp only [Bool.false_eq_true, if_false]
    | true => simp only [if_true, Int.neg_mul]

/-- How a time says its offset from UTC, if it does. -/
inductive Zone where
  | unsaid
  | zulu
  | offset (west : Bool) (hours minutes : Nat)
  deriving DecidableEq, Repr

namespace Zone

variable {z : Zone}

/-- Two digits each, less than a day together. -/
def Valid : Zone → Prop
  | .offset _ hours minutes => hours * 60 + minutes < 24 * 60 ∧ minutes < 100
  | _ => True

instance (z : Zone) : Decidable z.Valid := by
  cases z <;> unfold Valid <;> infer_instance

/-- Two numbers with a colon between them. -/
def digits (hours minutes : Nat) : String :=
  Instant.padded 2 hours ++ ":" ++ Instant.padded 2 minutes

def mark (west : Bool) : Char := if west then '-' else '+'

def text : Zone → String
  | .unsaid => ""
  | .zulu => "Z"
  | .offset west hours minutes => String.singleton (mark west) ++ digits hours minutes

/-- Seconds east of Greenwich. -/
def seconds : Zone → Int
  | .offset west hours minutes => eastward west (hours * 3600 + minutes * 60)
  | _ => 0

/-- What takes the place of a zone when a time field is read. -/
def understood : Zone → String
  | .zulu => "+00:00"
  | z => z.text

theorem understood_eq (h : z ≠ .zulu) : z.understood = z.text := by
  cases z with
  | zulu => exact (h rfl).elim
  | _ => rfl

theorem toList_digits (hours minutes : Nat) : (digits hours minutes).toList =
    (Instant.padded 2 hours).toList ++ ':' :: (Instant.padded 2 minutes).toList := by
  simp [digits]

theorem toList_offset (west : Bool) (hours minutes : Nat) :
    (Zone.offset west hours minutes).text.toList = mark west :: (digits hours minutes).toList := by
  simp [text]

theorem clock?_digits {hours minutes : Nat} (hhours : hours < 100) (hminutes : minutes < 100)
    (after : Char) : Iso.clock? (digits hours minutes).toList after =
      some (⟨hours, minutes, 0, 0⟩, decide (after = '\x00')) := by
  have hh : Digits 2 hours (Instant.padded 2 hours).toList := Iso.digits_padded (by decide) hhours
  have hm : Digits 2 minutes (Instant.padded 2 minutes).toList :=
    Iso.digits_padded (by decide) hminutes
  have hlast := hm.number? []
  rw [List.append_nil] at hlast
  have hlong : ¬(':' :: (Instant.padded 2 minutes).toList).length ≤ 1 := by simp [hm.length]
  rw [toList_digits, Iso.clock?, Iso.clockFrom, hh.number?]
  simp only [bind, Option.bind, hlong, if_false, if_true, true_and, decide_true,
    List.drop_succ_cons, List.drop_zero]
  rw [Iso.clockFrom, hlast]
  simp [Iso.Clock.put]

/-- What stands in a zone, unless it is a Z. -/
theorem clockChars_text (h : z.Valid) (hzulu : z ≠ .zulu) :
    ∀ c ∈ z.text.toList, Instant.isClockChar c = true := by
  intro c hc
  cases z with
  | unsaid => cases hc
  | zulu => exact (hzulu rfl).elim
  | offset west hours minutes =>
    obtain ⟨hday, hminutes⟩ : hours * 60 + minutes < 24 * 60 ∧ minutes < 100 := h
    have hh : Digits 2 hours _ := Iso.digits_padded (by decide) (by omega)
    have hm : Digits 2 minutes _ := Iso.digits_padded (by decide) hminutes
    rw [toList_offset, toList_digits] at hc
    simp only [List.mem_append, List.mem_cons] at hc
    rcases hc with rfl | hc | rfl | hc
    · cases west <;> rfl
    · exact Instant.clockChar_of_digits hh c hc
    · decide
    · exact Instant.clockChar_of_digits hm c hc

theorem isOffset_understood (h : z.Valid) :
    IsOffset z.understood.toList (z.seconds * 1000000) := by
  cases z with
  | unsaid => exact .none
  | zulu => exact Instant.isOffset_zero
  | offset west hours minutes =>
    obtain ⟨hday, hminutes⟩ : hours * 60 + minutes < 24 * 60 ∧ minutes < 100 := h
    have hclock := clock?_digits (by omega : hours < 100) hminutes '\x00'
    have hseconds : Iso.Clock.secondOfDay ⟨hours, minutes, 0, 0⟩ = hours * 3600 + minutes * 60 :=
      Nat.add_zero _
    have hread : Iso.offset? west _ = _ :=
      Iso.offset?_of_clock hclock rfl (by rw [hseconds]; omega)
    have hmark : mark west = '+' ∨ mark west = '-' := by
      cases west
      · exact .inl rfl
      · exact .inr rfl
    have hwest : decide (mark west = '-') = west := by cases west <;> rfl
    rw [hseconds] at hread
    rw [understood_eq (nofun : Zone.offset west hours minutes ≠ .zulu), toList_offset, seconds]
    exact .signed hmark (by rw [hwest]; exact hread)

theorem seconds_lt (h : z.Valid) : z.seconds.natAbs < 86400 := by
  cases z with
  | offset west hours minutes =>
    obtain ⟨hday, -⟩ : hours * 60 + minutes < 24 * 60 ∧ minutes < 100 := h
    rw [seconds, eastward]
    split <;> omega
  | _ => decide

end Zone

/-- A date and a clock time with a zone. -/
structure WrittenTime where
  date : Date
  hour : Nat
  minute : Nat
  second : Nat
  zone : Zone
  deriving DecidableEq, Repr

namespace WrittenTime

variable {w : WrittenTime}

def Valid (w : WrittenTime) : Prop :=
  w.date.Valid ∧ (w.hour < 24 ∧ w.minute < 60 ∧ w.second < 60) ∧ w.zone.Valid

instance (w : WrittenTime) : Decidable w.Valid := by unfold Valid; infer_instance

def text (w : WrittenTime) : String :=
  Instant.padded 4 w.date.year ++ "-" ++ Instant.padded 2 w.date.month ++ "-" ++
    Instant.padded 2 w.date.day ++ "T" ++ Instant.padded 2 w.hour ++ ":" ++
    Instant.padded 2 w.minute ++ ":" ++ Instant.padded 2 w.second ++ w.zone.text

/-- Seconds from the start of 1970 in UTC. -/
def seconds (w : WrittenTime) : Int :=
  ((w.date.elapsed : Int) - (⟨1970, 1, 1⟩ : Date).elapsed) * 86400 +
    (w.hour * 3600 + w.minute * 60 + w.second : Nat) - w.zone.seconds

theorem toList_text (w : WrittenTime) : w.text.toList =
    Instant.localChars w.date w.hour w.minute w.second ++ w.zone.text.toList := by
  simp [text, Instant.localChars]

/-- Days counted from the first of March of year 0 come to the same. -/
theorem seconds_eq (h : w.Valid) : w.seconds = ((w.date.dayNumber : Int) - Date.epoch) * 86400 +
    (w.hour * 3600 + w.minute * 60 + w.second : Nat) - w.zone.seconds := by
  have hepoch := Date.dayNumber_eq_elapsed (by decide : (⟨1970, 1, 1⟩ : Date).Valid)
  have hnumber : (⟨1970, 1, 1⟩ : Date).dayNumber = Date.epoch := by decide
  have hdays : (w.date.elapsed : Int) - (⟨1970, 1, 1⟩ : Date).elapsed =
      w.date.dayNumber - Date.epoch := by
    have hdate := Date.dayNumber_eq_elapsed h.1
    omega
  rw [seconds, hdays]

/-- Times lie within the years 1 to 9999, but for an offset. -/
theorem seconds_lt (h : w.Valid) : w.seconds.natAbs ≤ 2 ^ 53 := by
  have hzone := Zone.seconds_lt h.2.2
  have hday := Iso.dayNumber_lt h.1
  have hclock := h.2.1
  rw [seconds_eq h, Date.epoch]
  omega

/-- A Z at the end stands for no offset. -/
theorem replace_zulu (h : w.Valid) : (Text.replace w.text "Z" "+00:00").toList =
    Instant.localChars w.date w.hour w.minute w.second ++ w.zone.understood.toList := by
  obtain ⟨hchars, -⟩ := Instant.instant?_localChars h.1 h.2.1
  have hlocal : 'Z' ∉ Instant.localChars w.date w.hour w.minute w.second := by
    intro hz
    cases hchars 'Z' hz
  have hzone : Text.replaceFrom ['Z'] "+00:00".toList 0 w.zone.text.toList =
      w.zone.understood.toList := by
    by_cases hzulu : w.zone = .zulu
    · rw [hzulu]
      decide
    · have hnone : 'Z' ∉ w.zone.text.toList := by
        intro hz
        cases Zone.clockChars_text h.2.2 hzulu 'Z' hz
      rw [Text.replaceFrom_of_not_mem _ hnone, Zone.understood_eq hzulu]
  rw [Text.replace, toList_text, String.toList_ofList]
  exact (Text.replaceFrom_append _ _ hlocal).trans (congrArg _ hzone)

/-- A time field that holds a written time means its second. -/
theorem instantOf?_text (h : w.Valid) :
    Bookmark.instantOf? (.str w.text) = some ⟨w.seconds * 1000000⟩ := by
  obtain ⟨hchars, hread⟩ := Instant.instant?_localChars h.1 h.2.1
  have hblank : ∀ c ∈ w.text.toList, Text.isBlank c = false := by
    intro c hc
    rw [toList_text] at hc
    rcases List.mem_append.mp hc with hc | hc
    · exact Instant.not_isBlank_of_clockChar (hchars c hc)
    · by_cases hzulu : w.zone = .zulu
      · rw [hzulu] at hc
        obtain rfl : c = 'Z' := List.mem_singleton.mp hc
        decide
      · exact Instant.not_isBlank_of_clockChar (Zone.clockChars_text h.2.2 hzulu c hc)
  have htrim : Text.trim w.text = w.text := by
    rw [Text.trim, Text.trimChars, Text.trimBy_of_none hblank, String.ofList_toList]
  rw [Bookmark.instantOf?, htrim, replace_zulu h, hread (Zone.isOffset_understood h.2.2),
    Instant.ofClock, seconds_eq h]
  simp only [Option.some.injEq, Instant.mk.injEq, Instant.secondsPerDay]
  omega

end WrittenTime

end LinkShelf
