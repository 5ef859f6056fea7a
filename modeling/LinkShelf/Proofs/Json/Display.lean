import LinkShelf.Json.Display
/-!
Nothing but the empty text is shown as one.
-/
namespace LinkShelf

theorem Binary64.positional_ne (ds : List Char) (k : Int) : positional ds k ≠ "" := by
  unfold positional
  split <;> simp

theorem Binary64.scientific_ne (ds : List Char) (k : Int) : scientific ds k ≠ "" := by
  simp [scientific]

theorem Binary64.text_ne (x : Binary64) : x.text ≠ "" := by
  cases x with
  | nan => decide
  | infinite s => cases s <;> decide
  | finite s u =>
    unfold text
    by_cases hu : u = 0
    · simp [hu]
    · by_cases hk : -4 < (significant u).2 ∧ (significant u).2 ≤ 16
      · simp [hu, hk, positional_ne]
      · simp [hu, hk, scientific_ne]

namespace Json

theorem shown_ne (v : Json) : v.shown ≠ "" := by
  cases v with
  | null => simp [shown]
  | bool b => cases b <;> simp [shown]
  | int n =>
    simp only [shown, intText, Binary64.digitsText]
    split <;> simp
  | float x => exact x.text_ne
  | str s => simp [shown, quoted]
  | arr vs => simp [shown]
  | obj ms => simp [shown]

theorem text_eq_empty {v : Json} (h : v.text = "") : v = .str "" := by
  cases v with
  | str s => exact congrArg Json.str h
  | _ => exact (shown_ne _ h).elim

end Json

end LinkShelf
