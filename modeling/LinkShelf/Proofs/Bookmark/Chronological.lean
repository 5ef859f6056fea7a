import LinkShelf.Proofs.Bookmark.WrittenTime
import LinkShelf.Proofs.Stable
/-!
Sorting by a time is chronological, whatever offsets the times are written with. What is unset or
is no time stands where the first second of 1970 would stand.
-/
namespace LinkShelf

namespace Binary64

/-- The units of a whole number. -/
theorem signed_whole (n : Int) : signed (n < 0) (n.natAbs * oneUnits) = n * (oneUnits : Nat) := by
  unfold signed
  by_cases h : n < 0
  · rw [if_pos (decide_eq_true h), Int.natCast_mul, Int.ofNat_natAbs_of_nonpos (Int.le_of_lt h),
      Int.neg_mul, Int.neg_neg]
  · rw [if_neg (by simpa using h), Int.natCast_mul, Int.natAbs_of_nonneg (Int.not_lt.mp h)]

theorem compare_whole (m n : Int) :
    compare (signed (m < 0) (m.natAbs * oneUnits)) (signed (n < 0) (n.natAbs * oneUnits)) =
      compare m n := by
  have hpos : (0 : Int) < (oneUnits : Nat) := Int.natCast_pos.mpr oneUnits_pos
  rw [signed_whole, signed_whole, Int.compare_eq_ite_lt, Int.compare_eq_ite_lt]
  simp only [Int.mul_lt_mul_right hpos]

end Binary64

namespace Bookmark

open MergeSort (Orders)

variable {c : Criterion} {bs : List Bookmark} {b d : Bookmark} {v : Json} {m n : Int}
  {moment : Bookmark → Int}

/-- The second that the value of a time field means. -/
inductive Means : Json → Int → Prop
  | written (w : WrittenTime) (h : w.Valid) : Means (.str w.text) w.seconds
  | missing : Means .null 0
  | rejected {s : String}
      (h : Iso.instant? (Text.replace (Text.trim s) "Z" "+00:00").toList = none) :
      Means (.str s) 0

theorem Means.isTime (h : Means v n) : IsTime v := by
  cases h with
  | written w h => exact .inr ⟨_, rfl⟩
  | missing => exact .inl rfl
  | rejected h => exact .inr ⟨_, rfl⟩

/-- A second is a double of its own. -/
theorem Means.timestamp (h : Means v n) :
    Bookmark.timestamp v = .ok (.finite (n < 0) (n.natAbs * Binary64.oneUnits)) := by
  have hzero : (.zero : Binary64) = .finite ((0 : Int) < 0)
      ((0 : Int).natAbs * Binary64.oneUnits) := by
    rw [Int.natAbs_zero, Nat.zero_mul]
    rfl
  rw [timestamp_time h.isTime]
  cases h with
  | written w h =>
    rw [w.instantOf?_text h, Option.elim_some, Instant.seconds_whole (WrittenTime.seconds_lt h)]
  | missing => exact congrArg _ hzero
  | rejected h =>
    rw [instantOf?, h, Option.elim_none, hzero]

/-- The time field that a criterion sorts by. -/
def timeOf (c : Criterion) (b : Bookmark) : Json :=
  if c.key = "created_at" then b.createdAt else b.updatedAt

/-- The bookmark with a text for the time that a criterion sorts by. -/
def withTime (c : Criterion) (text : String) (b : Bookmark) : Bookmark :=
  if c.key = "created_at" then { b with createdAt := .str text }
  else { b with updatedAt := .str text }

theorem timeOf_withTime (c : Criterion) (text : String) (b : Bookmark) :
    timeOf c (b.withTime c text) = .str text := by
  unfold timeOf withTime
  split <;> rfl

/-- The bookmark with a text in place of a time that is unset or is no time. -/
def fillTime (c : Criterion) (text : String) (b : Bookmark) : Bookmark :=
  if (instantOf? (timeOf c b)).isNone then b.withTime c text else b

/-- An unset time is looked up as an empty text, which is no time either. -/
theorem timestamp_get_createdAt (b : Bookmark) :
    Bookmark.timestamp (b.get .createdAt) = Bookmark.timestamp b.createdAt := by
  cases h : b.createdAt with
  | null =>
    rw [Bookmark.get, h]
    rfl
  | _ => simp only [Bookmark.get, h]

theorem timestamp_get_updatedAt (b : Bookmark) :
    Bookmark.timestamp (b.get .updatedAt) = Bookmark.timestamp b.updatedAt := by
  cases h : b.updatedAt with
  | null =>
    rw [Bookmark.get, h]
    rfl
  | _ => simp only [Bookmark.get, h]

theorem ofBookmark_time (hkey : c.key = "created_at" ∨ c.key = "updated_at")
    (h : Means (timeOf c b) n) : SortValue.ofBookmark c.key b =
      .ok (.time (.finite (n < 0) (n.natAbs * Binary64.oneUnits))) := by
  have htime := h.timestamp
  unfold timeOf at htime
  rcases hkey with hkey | hkey
  · rw [hkey, if_pos rfl] at htime
    rw [SortValue.ofBookmark, hkey, if_neg (by decide), if_pos rfl, timestamp_get_createdAt, htime]
    rfl
  · rw [hkey, if_neg (by decide)] at htime
    rw [SortValue.ofBookmark, hkey, if_neg (by decide), if_neg (by decide), if_pos rfl,
      timestamp_get_updatedAt, htime]
    rfl

/-- How seconds compare in the direction of a criterion. -/
def compareSeconds (c : Criterion) (m n : Int) : Ordering :=
  if c.ascending then compare m n else (compare m n).swap

/-- How bookmarks compare by the seconds that they are given. -/
def compareMoments (c : Criterion) (moment : Bookmark → Int) (b d : Bookmark) : Ordering :=
  compareSeconds c (moment b) (moment d)

theorem compareFor_eq (hkey : c.key = "created_at" ∨ c.key = "updated_at")
    (hb : Means (timeOf c b) m) (hd : Means (timeOf c d) n) :
    compareFor c b d = compareSeconds c m n := by
  simp only [compareFor, ofBookmark_time hkey hb, ofBookmark_time hkey hd, SortValue.compareBy,
    SortValue.compare, Binary64.compare?, Option.getD_some, Binary64.compare_whole, compareSeconds]

theorem orders_compareMoments (c : Criterion) (moment : Bookmark → Int) :
    Orders (compareMoments c moment) fun b => ∃ d, b = d := by
  have hmoments : Orders (fun b d : Bookmark => compare (moment b) (moment d))
      fun b => ∃ d, b = d :=
    MergeSort.orders_of_compare (fun b => b) moment fun _ _ => rfl
  unfold compareMoments compareSeconds
  cases c.ascending with
  | true => exact hmoments
  | false => exact hmoments.reversed

theorem not_lt_iff : compareSeconds c n m ≠ .lt ↔ if c.ascending then m ≤ n else n ≤ m := by
  unfold compareSeconds
  split
  · rw [Ne, Int.compare_eq_lt, Int.not_lt]
  · rw [Ne, Int.compare_swap, Int.compare_eq_lt, Int.not_lt]

theorem ties_iff : MergeSort.ties (compareMoments c moment) b d = decide (moment d = moment b) := by
  have heq : compareMoments c moment b d = .eq ↔ moment d = moment b := by
    unfold compareMoments compareSeconds
    split
    · rw [Int.compare_eq_eq, eq_comm]
    · rw [Int.compare_swap, Int.compare_eq_eq]
  exact decide_eq_decide.mpr heq

theorem sortBy_time (hkey : c.key = "created_at" ∨ c.key = "updated_at")
    (h : ∀ b ∈ bs, ∃ n, Means (timeOf c b) n) :
    sortBy c bs = .ok (MergeSort.sort (compareFor c) bs) :=
  sortBy_of_values fun b hb => (h b hb).elim fun _ hn => ⟨_, ofBookmark_time hkey hn⟩

/-- Sorting by a time is sorting by the seconds that are meant. -/
theorem sort_compareFor (hkey : c.key = "created_at" ∨ c.key = "updated_at")
    (h : ∀ b ∈ bs, Means (timeOf c b) (moment b)) :
    MergeSort.sort (compareFor c) bs = MergeSort.sort (compareMoments c moment) bs := by
  have hsort : (MergeSort.sort (compareFor c) bs).map (fun b => b) =
      MergeSort.sort (compareMoments c moment) (bs.map fun b => b) :=
    MergeSort.sort_map fun b hb d hd => (compareFor_eq hkey (h d hd) (h b hb)).symm
  rwa [List.map_id', List.map_id'] at hsort

theorem means_fillTime {w : WrittenTime} (hw : w.Valid) (hepoch : w.seconds = 0)
    (h : Means (timeOf c b) n) : Means (timeOf c (b.fillTime c w.text)) n := by
  unfold fillTime
  split
  · rename_i hnone
    have hzero : n = 0 := by
      generalize timeOf c b = v at h hnone
      cases h with
      | written u hu =>
        rw [u.instantOf?_text hu] at hnone
        cases hnone
      | missing => rfl
      | rejected h => rfl
    rw [timeOf_withTime, hzero, ← hepoch]
    exact .written w hw
  · exact h

/-- Times that are written with any offsets are brought into chronological order, earliest or
latest first. Bookmarks of one second keep their order, and a time that is unset or cannot be read
stands where any text for the first second of 1970 would stand. -/
theorem sorted_by_moment (hkey : c.key = "created_at" ∨ c.key = "updated_at")
    (h : ∀ b ∈ bs, Means (timeOf c b) (moment b)) :
    ∃ cs, sortBy c bs = .ok cs ∧ cs.Perm bs ∧
      cs.Pairwise (fun b d =>
        if c.ascending then moment b ≤ moment d else moment d ≤ moment b) ∧
      (∀ n, cs.filter (moment · = n) = bs.filter (moment · = n)) ∧
      ∀ w : WrittenTime, w.Valid → w.seconds = 0 →
        sortBy c (bs.map (fillTime c w.text)) = .ok (cs.map (fillTime c w.text)) := by
  have hstable := MergeSort.stableOrder_sort (orders_compareMoments c moment)
    fun b (_ : b ∈ bs) => ⟨b, rfl⟩
  rw [sortBy_time hkey fun b hb => ⟨_, h b hb⟩]
  refine ⟨_, congrArg _ (sort_compareFor hkey h), hstable.perm,
    hstable.ordered.imp not_lt_iff.mp, ?_, ?_⟩
  · intro n
    by_cases hn : ∃ b ∈ bs, moment b = n
    · obtain ⟨b, hb, rfl⟩ := hn
      have hseconds : MergeSort.ties (compareMoments c moment) b =
          fun d => decide (moment d = moment b) := funext fun _ => ties_iff
      rw [← hseconds]
      exact hstable.ties b hb
    · have hnone : ∀ b ∈ bs, ¬decide (moment b = n) = true := by
        intro b hb hmoment
        exact hn ⟨b, hb, of_decide_eq_true hmoment⟩
      rw [List.filter_eq_nil_iff.mpr hnone, List.filter_eq_nil_iff]
      exact fun b hb => hnone b (hstable.perm.subset hb)
  · intro w hw hepoch
    have hfilled : ∀ b ∈ bs, Means (timeOf c (b.fillTime c w.text)) (moment b) :=
      fun b hb => means_fillTime hw hepoch (h b hb)
    have hall : ∀ b ∈ bs.map (fillTime c w.text), ∃ n, Means (timeOf c b) n := by
      intro b hb
      obtain ⟨d, hd, rfl⟩ := List.mem_map.mp hb
      exact ⟨_, hfilled d hd⟩
    have hsame : ∀ b ∈ bs, ∀ d ∈ bs,
        compareFor c (d.fillTime c w.text) (b.fillTime c w.text) = compareFor c d b := by
      intro b hb d hd
      rw [compareFor_eq hkey (hfilled d hd) (hfilled b hb), compareFor_eq hkey (h d hd) (h b hb)]
    rw [sortBy_time hkey hall, ← sort_compareFor hkey h, MergeSort.sort_map hsame]

section Example

/-- Written as a later day than the next one, but an earlier moment. -/
def newYear : WrittenTime := ⟨⟨2024, 1, 1⟩, 0, 30, 0, .offset false 1 0⟩

def oldYear : WrittenTime := ⟨⟨2023, 12, 31⟩, 23, 45, 0, .unsaid⟩

def latest : Criterion := ⟨"created_at", false⟩

def shelf : List Bookmark :=
  [{ title := .str "first", createdAt := .str newYear.text },
    { title := .str "second", createdAt := .str oldYear.text },
    { title := .str "third", createdAt := .str "some day" }]

def momentOf (b : Bookmark) : Int := (instantOf? b.createdAt).elim 0 (·.micros / 1000000)

theorem shelf_means : ∀ b ∈ shelf, Means (timeOf latest b) (momentOf b) := by
  have hmoment (w : WrittenTime) (hw : w.Valid) :
      ((instantOf? (.str w.text)).elim 0 (·.micros / 1000000)) = w.seconds := by
    rw [w.instantOf?_text hw, Option.elim_some, Int.mul_ediv_cancel _ (by decide)]
  intro b hb
  simp only [shelf, List.mem_cons, List.not_mem_nil, or_false] at hb
  rcases hb with rfl | rfl | rfl
  · rw [momentOf, hmoment newYear (by decide)]
    exact .written newYear (by decide)
  · rw [momentOf, hmoment oldYear (by decide)]
    exact .written oldYear (by decide)
  · exact .rejected (by decide)

theorem shelf_sorted : (latest.key = "created_at" ∨ latest.key = "updated_at") ∧
    (∀ b ∈ shelf, Means (timeOf latest b) (momentOf b)) ∧
    ∃ cs, sortBy latest shelf = .ok cs ∧ cs.Perm shelf ∧
      cs.Pairwise (fun b d =>
        if latest.ascending then momentOf b ≤ momentOf d else momentOf d ≤ momentOf b) ∧
      (∀ n, cs.filter (momentOf · = n) = shelf.filter (momentOf · = n)) ∧
      ∀ w : WrittenTime, w.Valid → w.seconds = 0 →
        sortBy latest (shelf.map (fillTime latest w.text)) =
          .ok (cs.map (fillTime latest w.text)) :=
  ⟨.inl rfl, shelf_means, sorted_by_moment (.inl rfl) shelf_means⟩

end Example

end Bookmark

end LinkShelf
