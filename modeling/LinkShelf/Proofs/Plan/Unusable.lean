import LinkShelf.Proofs.Number.Exact
import LinkShelf.Proofs.Sorting
/-!
Steps whose parameters say nothing. Such a step leaves the list as it is, whatever stands before and
after it, except that a limit on everything first goes back to the source.
-/
namespace LinkShelf

namespace Binary64

/-- What cannot be counted with: no number, an infinite one, or one that is not above zero. -/
def Uncounted (x : Binary64) : Prop := x.finite? = none ∨ x.le .zero = true

theorem le_zero {s : Bool} {u : Nat} : (finite s u).le .zero = true ↔ s = true ∨ u = 0 := by
  have hle : (finite s u).le .zero = true ↔ signed s u ≤ 0 := by
    simp [le, compare?, zero, signed, Int.compare_eq_lt, Int.le_iff_lt_or_eq]
  rw [hle]
  cases s <;> simp [signed]

/-- The part before the point is not above zero either. -/
theorem Uncounted.whole {x : Binary64} {n : Int} (h : x.Uncounted)
    (hn : Json.realAsWhole x = .ok n) : n ≤ 0 := by
  cases x with
  | nan => cases hn
  | infinite s => cases hn
  | finite s u =>
    have hsign : s = true ∨ u = 0 := le_zero.mp (h.resolve_left nofun)
    obtain rfl := Except.ok.inj hn
    cases s with
    | true => exact Int.neg_nonpos_of_nonneg (Int.natCast_nonneg _)
    | false =>
      have hu : u = 0 := hsign.resolve_left Bool.false_ne_true
      simp [hu]

theorem ofRatio_signed (negative : Bool) (num den : Nat) :
    (∃ units, ofRatio negative num den = .finite negative units) ∨
      ofRatio negative num den = .infinite negative := by
  simp only [ofRatio, ofUnits]
  split
  · exact .inl ⟨_, rfl⟩
  · exact .inr rfl

theorem ofInt?_uncounted {n : Int} {x : Binary64} (hn : n ≤ 0) (h : ofInt? n = some x) :
    x.Uncounted := by
  rcases Int.lt_or_eq_of_le hn with hlt | rfl
  · rw [ofInt?, decide_eq_true hlt] at h
    rcases ofRatio_signed true n.natAbs 1 with ⟨units, hunits⟩ | hinfinite
    · rw [hunits] at h
      cases h
      exact .inr (le_zero.mpr (.inl rfl))
    · rw [hinfinite] at h
      cases h
  · rw [ofInt?_eq (by decide)] at h
    obtain rfl := Option.some.inj h
    refine .inr (le_zero.mpr (.inr ?_))
    rw [Int.natAbs_zero, Nat.zero_mul]

end Binary64

/-- Lower case makes no letter vanish. -/
theorem Text.lower_eq_empty {s : String} (h : lower s = "") : s = "" := by
  have hnil : lowerFrom [] s.toList = [] := by simpa [lower, lowerChars] using h
  cases hs : s.toList with
  | nil => simpa using hs
  | cons c cs =>
    rw [hs, lowerFrom] at hnil
    unfold lowerChar at hnil
    split at hnil
    · cases hnil
    · split at hnil
      · cases hnil
      · split at hnil <;> cases hnil

theorem Action.ofName?_name (a : Action) : Action.ofName? a.name = some a := by
  cases a <;> decide

namespace Criterion

/-- A sort key that is given and names no field, not even in another way. -/
def NoField (v : Json) : Prop :=
  v.isUnset = false ∧ Text.blank v.text = false ∧
    aliases.lookup (Text.lower (Text.trim v.text)) = none ∧
    Field.ofName? (Text.lower (Text.trim v.text)) = none

theorem NoField.keyOf {v : Json} (h : NoField v) : Field.ofName? (keyOf v) = none := by
  obtain ⟨hset, hblank, halias, hfield⟩ := h
  have hfilled : Text.lower (Text.trim v.text) ≠ "" := by
    intro hempty
    rw [Text.trim_eq_empty_iff.mp (Text.lower_eq_empty hempty)] at hblank
    cases hblank
  unfold Criterion.keyOf
  simp only [hset, Bool.false_eq_true, if_false, halias, if_neg hfilled, hfield]

end Criterion

/-- Without a field to sort by all bookmarks are equal. -/
theorem Bookmark.sortBy_noField {c : Criterion} (h : Field.ofName? c.key = none)
    (bs : List Bookmark) : sortBy c bs = .ok bs := by
  have hnot : ∀ name, (Field.ofName? name).isSome = true → c.key ≠ name := by
    rintro name hname rfl
    rw [h] at hname
    cases hname
  have hvalue : ∀ b, SortValue.ofBookmark c.key b = .ok (.text "") := by
    intro b
    rw [SortValue.ofBookmark, if_neg (hnot "rating" (by decide)),
      if_neg (hnot "created_at" (by decide)), if_neg (hnot "updated_at" (by decide)), textOf, named,
      h]
    rfl
  have hequal : ∀ b d, Before c b d := by
    intro b d
    refine ⟨_, _, hvalue b, hvalue d, ?_⟩
    cases c.ascending <;> decide
  exact sortBy_of_before (List.pairwise_of_forall hequal)

namespace Step

variable {s : Step} {a : Action} {v : Json} {ps : Members} {source current bs : List Bookmark}

/-- A count that limits nothing: what is no number, or one that cannot be counted with. -/
def NoCount : Json → Prop
  | .int n => n ≤ 0
  | .float x => x.Uncounted
  | .str s => ∀ x, Numeral.real? (Text.trim s) = some x → x.Uncounted
  | _ => True

def NoText : Json → Prop
  | .arr _ | .obj _ => True
  | _ => False

def NoTags : Json → Prop
  | .str _ | .arr _ => False
  | _ => True

def NoNumber : Json → Prop
  | .int _ | .float _ => False
  | .str s => Numeral.real? (Text.trim s) = none
  | _ => True

/-- Parameters that an action can do nothing with, whatever else is among them. -/
def Unfit (a : Action) (ps : Members) : Prop :=
  match a with
  | .limitResults | .limitFirst | .limitLast => NoCount (ps.get "count")
  | .searchBookmarks => NoText (ps.get "searchTerm")
  | .findIncludes | .findStartsWith => NoText (ps.get "value")
  | .findWithTags => NoTags (ps.get "includeTags") ∧ NoTags (ps.get "excludeTags")
  | .filterByRating =>
    NoNumber (ps.get "minRating") ∧ NoNumber (ps.get "maxRating") ∧ NoNumber (ps.get "exact")
  | .sortBookmarks => Criterion.NoField (ps.get "sortBy")
  | _ => False

def Unusable (s : Step) : Prop := ∃ a : Action, s.action = a.name ∧ Unfit a s.parameters

/-- A limit on all that was there before the plan takes that up before it counts, if its count can
be read at all. -/
def startsAfresh (s : Step) : Prop :=
  s.startsOver ∧ ∃ n, Parameter.count (s.parameters.get "count") = .ok n

theorem NoCount.number {x : Binary64} (h : NoCount v) (hx : Parameter.number v = .ok (some x)) :
    x.Uncounted := by
  cases v with
  | int m =>
    obtain ⟨w, hm, hw⟩ := bind_eq_ok.mp hx
    obtain rfl := Option.some.inj (Except.ok.inj hw)
    refine Binary64.ofInt?_uncounted h ?_
    unfold Json.wholeAsReal at hm
    generalize Binary64.ofInt? m = real? at hm ⊢
    cases real? with
    | none => cases hm
    | some y => rw [← Except.ok.inj hm]
  | float y =>
    obtain rfl := Option.some.inj (Except.ok.inj hx)
    exact h
  | str t => exact h x (Except.ok.inj hx)
  | _ => cases hx

theorem NoCount.count {n : Int} (h : NoCount v) (hn : Parameter.count v = .ok n) : n ≤ 0 := by
  obtain ⟨x?, hx, hn⟩ := bind_eq_ok.mp hn
  split at hn
  · exact Int.le_of_eq (Except.ok.inj hn).symm
  · exact Int.le_of_eq (Except.ok.inj hn).symm
  · exact (h.number hx).whole hn

theorem NoCount.limitBy {last : Bool} (h : NoCount v)
    (hbs : Bookmark.limitBy last v current = .ok bs) : bs = current := by
  obtain ⟨n, hn, hbs⟩ := bind_eq_ok.mp hbs
  cases hbs
  rw [Bookmark.limit, if_pos (h.count hn)]

theorem NoText.text (h : NoText v) (default_ : String) :
    ∃ e, Parameter.text v default_ = .error e := by
  cases v with
  | arr _ => exact ⟨_, rfl⟩
  | obj _ => exact ⟨_, rfl⟩
  | _ => exact h.elim

theorem NoTags.texts (h : NoTags v) : Parameter.texts v = [] := by
  cases v with
  | str _ => exact h.elim
  | arr _ => exact h.elim
  | _ => rfl

theorem NoNumber.number (h : NoNumber v) : Parameter.number v = .ok none := by
  cases v with
  | int _ => exact h.elim
  | float _ => exact h.elim
  | str s => exact congrArg Except.ok h
  | _ => rfl

theorem fieldAndValue_noText (h : NoText (ps.get "value")) :
    ∃ e, fieldAndValue ps = .error e := by
  obtain ⟨e, he⟩ := h.text ""
  unfold fieldAndValue
  cases Parameter.text (ps.get "field") "title" with
  | error e' => exact ⟨e', rfl⟩
  | ok field =>
    rw [he]
    exact ⟨e, rfl⟩

theorem ofParameters_noNumber (hmin : NoNumber (ps.get "minRating"))
    (hmax : NoNumber (ps.get "maxRating")) (hexact : NoNumber (ps.get "exact")) :
    RatingBounds.ofParameters ps = .ok {} := by
  unfold RatingBounds.ofParameters
  rw [hmin.number, hmax.number, hexact.number]
  simp [bind, Except.bind, pure, Except.pure]

/-- A filter with nothing to look for cannot be made, or lets everything through. -/
theorem filter?_unfit {f : Filter} (h : Unfit a ps) (hf : filter? a ps = some (.ok f))
    (b : Bookmark) : f.admits b = true := by
  have hfails : ∀ {α : Type} {x : Except Fault α} {k : α → Except Fault Filter},
      (∃ e, x = .error e) → (x >>= k) ≠ .ok f := by
    rintro α _ k ⟨e, rfl⟩ h
    cases h
  cases a with
  | searchBookmarks => exact absurd (Option.some.inj hf) (hfails (NoText.text h ""))
  | findIncludes => exact absurd (Option.some.inj hf) (hfails (fieldAndValue_noText h))
  | findStartsWith => exact absurd (Option.some.inj hf) (hfails (fieldAndValue_noText h))
  | findWithTags =>
    obtain ⟨hinclude, hexclude⟩ := h
    rw [filter?, NoTags.texts hinclude, NoTags.texts hexclude] at hf
    cases hf
    rfl
  | filterByRating =>
    obtain ⟨hmin, hmax, hexact⟩ := h
    rw [filter?, ofParameters_noNumber hmin hmax hexact] at hf
    cases hf
    rfl
  | sortBookmarks => cases hf
  | limitResults => cases hf
  | limitFirst => cases hf
  | limitLast => cases hf
  | _ => exact h.elim

theorem perform_unfit (h : Unfit a ps) (hbs : perform a ps source current = .ok bs) :
    bs = if a = .limitResults ∧ isText (ps.get "scope") "all" = true then source else current := by
  have hcurrent : a ≠ .limitResults → bs = current →
      bs = if a = .limitResults ∧ isText (ps.get "scope") "all" = true then source else current :=
    fun hlimit h => by rw [if_neg fun hall => hlimit hall.1, h]
  unfold perform at hbs
  cases hf : filter? a ps with
  | some f =>
    simp only [hf] at hbs
    obtain ⟨f, rfl, hbs⟩ := bind_eq_ok.mp hbs
    refine hcurrent (fun hlimit => ?_) ?_
    · rw [hlimit] at hf
      cases hf
    · rw [← Except.ok.inj hbs, Filter.apply]
      exact List.filter_eq_self.mpr fun b _ => filter?_unfit h hf b
  | none =>
    simp only [hf] at hbs
    cases a with
    | sortBookmarks =>
      have hfield : Criterion.NoField (ps.get "sortBy") := h
      have hkey : Field.ofName? (Criterion.ofJson (ps.get "sortBy") (ps.get "order")).key = none :=
        hfield.keyOf
      rw [Bookmark.sortBy_noField hkey] at hbs
      exact hcurrent nofun (Except.ok.inj hbs).symm
    | limitResults =>
      have hcount : NoCount (ps.get "count") := h
      rw [hcount.limitBy hbs]
      simp
    | limitFirst =>
      have hcount : NoCount (ps.get "count") := h
      exact hcurrent nofun (hcount.limitBy hbs)
    | limitLast =>
      have hcount : NoCount (ps.get "count") := h
      exact hcurrent nofun (hcount.limitBy hbs)
    | searchBookmarks => cases hf
    | findIncludes => cases hf
    | findStartsWith => cases hf
    | findWithTags => cases hf
    | filterByRating => cases hf
    | _ => exact h.elim

theorem apply_unusable (hs : s.Unusable) (hafresh : ¬s.startsAfresh) :
    apply source current s = current := by
  obtain ⟨a, hname, hunfit⟩ := hs
  have hknown : s.known = some a := by rw [known, hname, Action.ofName?_name]
  unfold apply
  simp only [hknown]
  cases hp : perform a s.parameters source current with
  | error e => rfl
  | ok bs =>
    have hbs := perform_unfit hunfit hp
    split at hbs
    · rename_i hall
      obtain ⟨rfl, hscope⟩ := hall
      obtain ⟨n, hn, -⟩ := bind_eq_ok.mp hp
      exact absurd ⟨⟨hname, hscope⟩, n, hn⟩ hafresh
    · exact hbs

/-- The limit that goes back to the source stops there. -/
theorem apply_afresh (hs : s.Unusable) (hafresh : s.startsAfresh) :
    apply source current s = source := by
  obtain ⟨a, hname, hunfit⟩ := hs
  obtain ⟨⟨hlimit, hscope⟩, n, hn⟩ := hafresh
  have hknown : s.known = some .limitResults := by rw [known, hlimit, Action.ofName?_name]
  obtain rfl : a = .limitResults := by
    rw [known, hname, Action.ofName?_name] at hknown
    exact Option.some.inj hknown
  unfold apply
  simp only [hknown]
  cases hp : perform .limitResults s.parameters source current with
  | error e =>
    have hperform : perform .limitResults s.parameters source current =
        .ok (Bookmark.limit (isText (s.parameters.get "direction") "last") n source) := by
      simp [perform, filter?, hscope, Bookmark.limitBy, hn, bind, Except.bind, pure, Except.pure]
    rw [hperform] at hp
    cases hp
  | ok bs =>
    rw [perform_unfit hunfit hp, if_pos ⟨rfl, hscope⟩]

end Step

namespace Plan

variable {s : Step}

/-- A step with unusable parameters can be left out of any plan, unless it is a limit on everything
with a count that can be read. That one undoes all steps before it. -/
theorem run_unusable (hs : s.Unusable) (p q : Plan) (source : List Bookmark) :
    (¬s.startsAfresh → run (p ++ s :: q) source = run (p ++ q) source) ∧
      (s.startsAfresh → run (p ++ s :: q) source = run q source) := by
  have hsplit : ∀ rest : Plan, run (p ++ rest) source =
      rest.foldl (Step.apply source) (run p source) := fun _ => List.foldl_append
  refine ⟨fun hafresh => ?_, fun hafresh => ?_⟩
  · rw [hsplit, hsplit, List.foldl_cons, Step.apply_unusable hs hafresh]
  · rw [hsplit, List.foldl_cons, Step.apply_afresh hs hafresh]
    rfl

section Example

def firstOne : Plan :=
  [{ action := "limitFirst", parameters := [("count", .int 1)] }]

def noneOfAll : Step :=
  { action := "limitResults", parameters := [("scope", .str "all"), ("count", .str "none")] }

/-- Neither bound is a number, whatever they are compared for. -/
def wordyRating : Step :=
  { action := "filterByRating", parameters := [("minRating", .str "high"), ("maxRating", .bool true),
      ("comparator", .str "eq")] }

theorem real?_none : Numeral.real? (Text.trim "none") = none := by decide +kernel

theorem noneOfAll_unusable : noneOfAll.Unusable := by
  refine ⟨.limitResults, rfl, fun x hx => ?_⟩
  rw [real?_none] at hx
  cases hx

theorem wordyRating_left_out :
    run (firstOne ++ wordyRating :: lastOne) rated = run (firstOne ++ lastOne) rated ∧
      run (firstOne ++ noneOfAll :: lastOne) rated = run lastOne rated := by
  have hhigh : Numeral.real? (Text.trim "high") = none := by decide +kernel
  have hwordy : wordyRating.Unusable := ⟨.filterByRating, rfl, hhigh, trivial, trivial⟩
  have hscope : ¬wordyRating.startsAfresh := fun h => absurd h.1.1 (by decide)
  have hcount : Parameter.count (.str "none") = .ok 0 := by
    rw [Parameter.count, Parameter.number, real?_none]
    rfl
  exact ⟨(run_unusable hwordy firstOne lastOne rated).1 hscope,
    (run_unusable noneOfAll_unusable firstOne lastOne rated).2 ⟨⟨rfl, rfl⟩, 0, hcount⟩⟩

/-- A limit to none of all brings back what a limit to one has left out. -/
theorem noneOfAll_brings_back : noneOfAll.Unusable ∧
    (run (firstOne ++ noneOfAll :: []) rated).map (·.id) = [some "a", some "b", some "c"] ∧
    (run (firstOne ++ []) rated).map (·.id) = [some "a"] :=
  ⟨noneOfAll_unusable, by decide +kernel, by decide +kernel⟩

end Example

end Plan

end LinkShelf
