import LinkShelf.Netscape.Reader
import LinkShelf.Netscape.Writer
import LinkShelf.Proofs.Bookmark.Reread
import LinkShelf.Proofs.Number.Numeral
import LinkShelf.Proofs.Time.Instant
import LinkShelf.Proofs.Time.UtcText
/-!
Times in a bookmark file. A time is written as whole seconds and read back as a text in UTC; where
it denotes a whole second other than the first of 1970, no instant is lost on the way.
-/
namespace LinkShelf

/-- What stands before the first occurrence of a character is not changed by replacing it. -/
theorem Text.replaceFrom_append {c : Char} {cs : List Char} (new rest : List Char) (h : c ∉ cs) :
    Text.replaceFrom [c] new 0 (cs ++ rest) = cs ++ Text.replaceFrom [c] new 0 rest := by
  induction cs with
  | nil => rfl
  | cons d cs ih =>
    rw [List.mem_cons, not_or] at h
    have hhead : ([c].isPrefixOf (d :: (cs ++ rest))) = false := by
      simp [List.isPrefixOf, h.1]
    rw [List.cons_append, Text.replaceFrom, hhead, if_neg Bool.false_ne_true, ih h.2,
      List.cons_append]

theorem Text.replaceFrom_of_not_mem {c : Char} {cs : List Char} (new : List Char) (h : c ∉ cs) :
    Text.replaceFrom [c] new 0 cs = cs := by
  simpa [Text.replaceFrom] using Text.replaceFrom_append new [] h

namespace Bookmark

/-- The instant that a time field denotes. -/
def instantOf? : Json → Option Instant
  | .str s => Iso.instant? (Text.replace (Text.trim s) "Z" "+00:00").toList
  | _ => none

theorem timestamp_time {v : Json} (h : IsTime v) :
    timestamp v = .ok ((instantOf? v).elim .zero Instant.seconds) := by
  rcases h with rfl | ⟨s, rfl⟩
  · simp [timestamp, Json.isUnset, instantOf?]
  by_cases hs : s = ""
  · subst hs
    have hnone : instantOf? (.str "") = none := by decide
    simp [timestamp, Json.isUnset, hnone]
  · have hset : (Json.str s).isUnset = false := by simpa [Json.isUnset] using hs
    simp only [timestamp, hset, Bool.false_eq_true, if_false, Json.text, instantOf?]
    generalize Iso.instant? _ = i
    cases i with
    | none => rw [Option.elim_none]
    | some i => rw [Option.elim_some]

/-- A bookmark whose times are texts or missing. -/
def Timed (b : Bookmark) : Prop := IsTime b.createdAt ∧ IsTime b.updatedAt

/-- No text denotes a moment beyond all doubles. -/
theorem timestamp_finite {v : Json} (h : IsTime v) :
    ∃ negative units, timestamp v = .ok (.finite negative units) := by
  rw [timestamp_time h]
  cases hi : instantOf? v with
  | none => exact ⟨false, 0, rfl⟩
  | some i =>
    obtain ⟨s, rfl⟩ : ∃ s, v = .str s := h.resolve_left fun hnull => by
      rw [hnull] at hi
      cases hi
    have hbound := Iso.instant?_lt hi
    obtain ⟨units, hunits⟩ :=
      Binary64.ofRatio_finite (i.micros < 0) (Nat.le_of_lt hbound) 1000000
    rw [Option.elim_some, Instant.seconds, hunits]
    exact ⟨_, _, rfl⟩

end Bookmark

namespace Instant

theorem not_isBlank_of_clockChar {c : Char} (h : isClockChar c = true) : Text.isBlank c = false := by
  simp only [isClockChar, Bool.or_eq_true, decide_eq_true_eq] at h
  rcases h with (((hdigit | rfl) | rfl) | rfl) | rfl
  · have := Text.digit_bounds hdigit
    exact Text.not_isBlank_of_bounds (by omega) (by omega)
  all_goals decide

/-- A written second stands in a time field as it is. -/
theorem instantOf?_clock {text : String} (h : ∀ c ∈ text.toList, isClockChar c = true) :
    Bookmark.instantOf? (.str text) = Iso.instant? text.toList := by
  have hzulu : 'Z' ∉ text.toList := by
    intro hz
    cases h 'Z' hz
  have htrim : Text.trim text = text := by
    rw [Text.trim, Text.trimChars,
      Text.trimBy_of_none fun c hc => not_isBlank_of_clockChar (h c hc), String.ofList_toList]
  have hreplace : Text.replace text "Z" "+00:00" = text := by
    rw [Text.replace]
    exact (congrArg String.ofList (Text.replaceFrom_of_not_mem _ hzulu)).trans
      String.ofList_toList
  rw [Bookmark.instantOf?, htrim, hreplace]

/-- A whole second is a double of its own. -/
theorem seconds_whole {n : Int} (h : n.natAbs ≤ 2 ^ 53) :
    seconds ⟨n * 1000000⟩ = .finite (n < 0) (n.natAbs * Binary64.oneUnits) := by
  have hsign : (n * 1000000 < 0) = (n < 0) := by
    apply propext
    omega
  have habs : (n * 1000000).natAbs = n.natAbs * 1000000 := by omega
  rw [seconds]
  simp only [hsign, habs]
  exact Binary64.ofRatio_whole _ (by decide) h

end Instant

namespace Netscape

open Bookmark (IsTime instantOf?)

variable {v : Json} {n : Int} {negative : Bool} {units : Nat}

theorem seconds_zero (hv : v.truthy = true) (h : Bookmark.timestamp v = .ok (.finite negative 0)) :
    seconds v = .ok "" := by
  rw [seconds, if_pos hv, h]
  rfl

theorem seconds_finite (hv : v.truthy = true)
    (h : Bookmark.timestamp v = .ok (.finite negative units)) (hunits : units ≠ 0) :
    seconds v = .ok (Json.intText (if negative then -((units / Binary64.oneUnits : Nat) : Int)
      else ((units / Binary64.oneUnits : Nat) : Int))) := by
  have hzero : (Binary64.finite negative units).isZero = false := by
    unfold Binary64.isZero
    split
    · rename_i heq
      cases heq
      exact (hunits rfl).elim
    · rfl
  rw [seconds, if_pos hv, h]
  simp only [bind, Except.bind, hzero, Bool.false_eq_true, if_false, Json.realAsWhole]
  rfl

/-- A time field always has seconds, even if they are not known. -/
theorem seconds_ok (h : IsTime v) :
    ∃ text, seconds v = .ok text ∧ (text = "" ∨ ∃ n, text = Json.intText n) := by
  cases hv : v.truthy with
  | false => exact ⟨"", by rw [seconds, hv]; rfl, .inl rfl⟩
  | true =>
    obtain ⟨negative, units, htime⟩ := Bookmark.timestamp_finite h
    rcases Nat.eq_zero_or_pos units with rfl | hpos
    · exact ⟨"", seconds_zero hv htime, .inl rfl⟩
    · exact ⟨_, seconds_finite hv htime (Nat.ne_of_gt hpos), .inr ⟨_, rfl⟩⟩

/-- No second of the years 1 to 9999 is changed by being written. -/
theorem seconds_whole (h : instantOf? v = some ⟨n * 1000000⟩) (hn : n ≠ 0)
    (hlow : Instant.firstSecond ≤ n) (hhigh : n < Instant.endSecond) :
    seconds v = .ok (Json.intText n) := by
  obtain ⟨s, rfl⟩ : ∃ s, v = .str s := by
    cases v with
    | str s => exact ⟨s, rfl⟩
    | _ => cases h
  have hset : s ≠ "" := by
    rintro rfl
    have hnone : instantOf? (.str "") = none := by decide
    rw [hnone] at h
    cases h
  have hbound : n.natAbs ≤ 2 ^ 53 := by
    unfold Instant.firstSecond at hlow
    unfold Instant.endSecond at hhigh
    omega
  have htime := Bookmark.timestamp_time (.inr ⟨s, rfl⟩ : IsTime (.str s))
  rw [h, Option.elim_some, Instant.seconds_whole hbound] at htime
  have hunits : n.natAbs * Binary64.oneUnits ≠ 0 :=
    Nat.mul_ne_zero (Int.natAbs_ne_zero.mpr hn) (Nat.ne_of_gt Binary64.oneUnits_pos)
  have hback : (if decide (n < 0) = true then -(n.natAbs : Int) else n.natAbs) = n := by
    by_cases hneg : n < 0
    · rw [decide_eq_true hneg, if_pos rfl]
      omega
    · rw [decide_eq_false hneg, if_neg Bool.false_ne_true]
      omega
  rw [seconds_finite (by simpa [Json.truthy] using hset) htime hunits,
    Nat.mul_div_cancel _ Binary64.oneUnits_pos, hback]

theorem timeText?_intText {n : Int} (hlow : Instant.firstSecond ≤ n)
    (hhigh : n < Instant.endSecond) :
    ∃ text, timeText? (Json.intText n) = some text ∧
      instantOf? (.str text) = some ⟨n * 1000000⟩ := by
  obtain ⟨text, htext, hchars, hread⟩ := Instant.instant?_utcText hlow hhigh
  refine ⟨text, ?_, ?_⟩
  · rw [timeText?, Numeral.whole?_intText, Option.bind_some, htext]
  · rw [Instant.instantOf?_clock hchars, hread]

end Netscape

end LinkShelf
