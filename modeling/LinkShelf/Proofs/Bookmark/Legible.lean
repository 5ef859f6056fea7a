import LinkShelf.Proofs.Bookmark.Reread
import LinkShelf.Proofs.Number.Range
/-!
The records that can be read. Any value may stand for any field, with two exceptions: tags must not
be a number or the value true, and a rating must be within the range of doubles.
-/
namespace LinkShelf

section Faults

variable {α β : Type} {r : Except Fault α} {g : α → Except Fault β} {f : Fault}

/-- What a computation fails with, if it fails. -/
def faultOf : Except Fault α → Option Fault
  | .error f => some f
  | .ok _ => none

theorem faultOf_eq_some : faultOf r = some f ↔ r = .error f := by
  cases r <;> simp [faultOf]

theorem faultOf_eq_none : faultOf r = none ↔ ∃ a, r = .ok a := by
  cases r <;> simp [faultOf]

theorem faultOf_bind {next : Option Fault} (h : ∀ a, r = .ok a → faultOf (g a) = next) :
    faultOf (r >>= g) = (faultOf r).or next := by
  cases r with
  | error f => rfl
  | ok a => exact h a rfl

/-- What cannot fail after a computation does not count. -/
theorem faultOf_bind_ok (h : ∀ a, faultOf (g a) = none) : faultOf (r >>= g) = faultOf r := by
  rw [faultOf_bind fun a _ => h a, Option.or_none]

end Faults

namespace Bookmark

variable {ms : Members} {v : Json} {b : Bookmark} {f : Fault}

/-- What goes wrong with tags that cannot be gone through. -/
def tagsFault? : Json → Option Fault
  | .bool true => some (.badType "'bool' object is not iterable")
  | .int n => if n = 0 then none else some (.badType "'int' object is not iterable")
  | .float x => if x.isZero then none else some (.badType "'float' object is not iterable")
  | _ => none

def infinityFault? : Binary64 → Option Fault
  | .infinite _ => some (.overflow "cannot convert float infinity to integer")
  | _ => none

/-- What goes wrong with a rating that is infinite, or a whole number beyond all doubles. -/
def ratingFault? : Json → Option Fault
  | .int n =>
    if Binary64.firstOverflow ≤ n.natAbs then
      some (.overflow "int too large to convert to float")
    else none
  | .float x => infinityFault? x
  | .str s => (Numeral.real? s).bind infinityFault?
  | _ => none

/-- What goes wrong with a record. Its tags are looked at before its rating. -/
def recordFault? (ms : Members) : Option Fault :=
  (tagsFault? (ms.field .tags)).or (ratingFault? ((ms.field? .rating).getD (.int 0)))

section Rating

theorem faultOf_realAsWhole (s : Bool) (u : Nat) :
    faultOf (Json.realAsWhole (.finite s u)) = none := by
  rw [Json.realAsWhole]
  rfl

theorem faultOf_clamp (x : Binary64) : faultOf (clamp x) = infinityFault? x := by
  cases x with
  | nan => rfl
  | infinite s => rfl
  | finite s u =>
    rw [clamp, faultOf_bind_ok fun _ => rfl, faultOf_realAsWhole]
    · rfl
    · exact nofun

theorem infinityFault?_ofInt {n : Int} {x : Binary64} (h : Binary64.ofInt? n = some x) :
    infinityFault? x = none := by
  unfold Binary64.ofInt? at h
  generalize Binary64.ofRatio (n < 0) n.natAbs 1 = y at h
  cases y with
  | finite s u =>
    cases h
    rfl
  | nan | infinite => cases h

theorem clampRating_ok {x : Binary64} (h : ratingNumber v = .ok x) : clampRating v = clamp x := by
  rw [clampRating, h]
  rfl

theorem faultOf_clampRating_int (n : Int) :
    faultOf (clampRating (.int n)) = ratingFault? (.int n) := by
  rw [ratingFault?]
  cases hx : Binary64.ofInt? n with
  | none =>
    rw [if_pos (Binary64.ofInt?_eq_none.mp hx), clampRating, ratingNumber, Json.wholeAsReal, hx]
    rfl
  | some x =>
    have hsmall : ¬Binary64.firstOverflow ≤ n.natAbs := fun hn => by
      rw [Binary64.ofInt?_eq_none.mpr hn] at hx
      cases hx
    have hnumber : ratingNumber (.int n) = .ok x := by rw [ratingNumber, wholeAsReal_ok hx]
    rw [if_neg hsmall, clampRating_ok hnumber, faultOf_clamp]
    exact infinityFault?_ofInt hx

theorem faultOf_clampRating (v : Json) : faultOf (clampRating v) = ratingFault? v := by
  cases v with
  | bool b =>
    obtain ⟨u, hu⟩ : ∃ u, ratingNumber (.bool b) = .ok (.finite false u) := by
      cases b with
      | true =>
        obtain ⟨u, hu⟩ := Binary64.ofRatio_finite false (show 1 ≤ 2 ^ 64 by decide) 1
        exact ⟨u, by rw [ratingNumber, if_pos rfl, hu]⟩
      | false => exact ⟨0, rfl⟩
    rw [clampRating_ok hu, faultOf_clamp]
    rfl
  | int n => exact faultOf_clampRating_int n
  | float x => rw [clampRating_ok rfl, faultOf_clamp, ratingFault?]
  | str s =>
    rw [clampRating_ok rfl, faultOf_clamp, ratingFault?]
    cases Numeral.real? s <;> rfl
  | null | arr | obj =>
    rw [clampRating_ok rfl, faultOf_clamp]
    rfl

end Rating

section Record

theorem tagsFault?_falsy (h : v.truthy = false) : tagsFault? v = none := by
  cases v with
  | bool b =>
    rw [show b = false from h]
    rfl
  | int n =>
    rw [tagsFault?, if_pos (by simpa [Json.truthy] using h)]
  | float x =>
    rw [tagsFault?, if_pos (by simpa [Json.truthy] using h)]
  | null | str | arr | obj => rfl

theorem faultOf_elements (v : Json) : faultOf (v.orElse (.arr [])).elements = tagsFault? v := by
  cases hv : v.truthy with
  | false =>
    rw [Json.orElse, hv, tagsFault?_falsy hv]
    rfl
  | true =>
    rw [Json.orElse, hv, if_pos rfl]
    cases v with
    | bool b =>
      rw [show b = true from hv]
      rfl
    | int n =>
      rw [tagsFault?, if_neg (by simpa [Json.truthy] using hv)]
      rfl
    | float x =>
      rw [tagsFault?, if_neg (by simpa [Json.truthy] using hv)]
      rfl
    | null => cases hv
    | str | arr | obj => rfl

theorem faultOf_distinct (v : Json) : faultOf (Tags.distinct v) = tagsFault? v := by
  rw [Tags.distinct, faultOf_bind_ok fun _ => rfl, faultOf_elements]

/-- Tags that are one text with commas can be gone through, as can be an empty text. -/
theorem tagsFault?_split (v : Json) :
    tagsFault? (match v.orElse (.arr []) with
      | .str s => Tags.ofText s
      | v => v) = tagsFault? v := by
  cases hv : v.truthy with
  | false =>
    rw [Json.orElse, hv, tagsFault?_falsy hv]
    rfl
  | true =>
    rw [Json.orElse, hv, if_pos rfl]
    cases v <;> rfl

theorem faultOf_build (b : Bookmark) (rating status : Json) (tags : List Json) :
    faultOf (build b rating (.arr tags) status) = ratingFault? rating := by
  rw [build, faultOf_bind_ok fun _ => by rw [orElse_arr]; rfl, faultOf_clampRating]

/-- A record is read unless its tags or its rating do not allow it. -/
theorem faultOf_ofRecord (ms : Members) : faultOf (ofRecord ms) = recordFault? ms := by
  rw [ofRecord, recordFault?, ← tagsFault?_split, ← faultOf_distinct]
  exact faultOf_bind fun tags _ => faultOf_build _ _ _ _

end Record

end Bookmark

end LinkShelf
