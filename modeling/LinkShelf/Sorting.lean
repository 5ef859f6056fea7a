import LinkShelf.Bookmark.Timestamp
/-!
Stable sorting: a merge sort for any three-way comparison, and the sorting of bookmarks by a
criterion.
-/
namespace LinkShelf

namespace MergeSort

variable {α : Type}

/-- Merges two lists, the left one going first unless the right one is strictly less. -/
def merge (cmp : α → α → Ordering) : List α → List α → List α
  | [], ys => ys
  | xs, [] => xs
  | x :: xs, y :: ys =>
    if cmp y x = .lt then y :: merge cmp (x :: xs) ys else x :: merge cmp xs (y :: ys)
termination_by xs ys => xs.length + ys.length

/-- Sorts by halving; elements that compare equal keep their order. -/
def sort (cmp : α → α → Ordering) (xs : List α) : List α :=
  if h : xs.length ≤ 1 then xs
  else
    merge cmp (sort cmp (xs.take (xs.length / 2))) (sort cmp (xs.drop (xs.length / 2)))
termination_by xs.length
decreasing_by
  · simp only [List.length_take]; omega
  · simp only [List.length_drop]; omega

end MergeSort

/-- What to sort by, as a field name, and in which direction. -/
structure Criterion where
  key : String := "title"
  ascending : Bool := true
  deriving DecidableEq, Repr

namespace Criterion

def aliases : List (String × String) :=
  [("folder", "folder_id"), ("folderid", "folder_id"), ("name", "title"), ("stars", "rating"),
    ("created", "created_at"), ("createdat", "created_at"), ("date", "created_at"),
    ("added", "created_at"), ("modified", "updated_at"), ("updated", "updated_at"),
    ("updatedat", "updated_at"), ("favicon", "favicon_url"), ("faviconurl", "favicon_url"),
    ("urlstatus", "url_status"), ("status", "url_status")]

/-- The field a loosely written key means; an unset or blank one means the title. -/
def keyOf (v : Json) : String :=
  let s := Text.lower (if v.isUnset then "title" else Text.trim v.text)
  match aliases.lookup s with
  | some k => k
  | none => if s = "" then "title" else s

/-- Whatever starts like "ascending" means that, and so does an unset direction. -/
def ascendingOf (v : Json) : Bool :=
  v.isUnset || Text.startsWith (Text.lower (Text.trim v.text)) "asc"

def ofJson (key order : Json) : Criterion := ⟨keyOf key, ascendingOf order⟩

def order (c : Criterion) : String := if c.ascending then "asc" else "desc"

def describe (c : Criterion) : String :=
  (if c.ascending then "ascending" else "descending") ++ " by " ++ c.key

end Criterion

inductive SortValue where
  | rating (n : Nat)
  | time (x : Binary64)
  | text (s : String)
  deriving DecidableEq, Repr

namespace SortValue

def ofBookmark (key : String) (b : Bookmark) : Except Fault SortValue :=
  if key = "rating" then .ok (.rating b.rating)
  else if key = "created_at" then do pure (.time (← Bookmark.timestamp (b.get .createdAt)))
  else if key = "updated_at" then do pure (.time (← Bookmark.timestamp (b.get .updatedAt)))
  else .ok (.text (Text.lower (b.textOf key)))

/-- Values of one key are of one kind; times that are no numbers compare equal to all. -/
def compare : SortValue → SortValue → Ordering
  | .rating m, .rating n => Ord.compare m n
  | .time x, .time y => (x.compare? y).getD .eq
  | .text s, .text t => Ord.compare s t
  | _, _ => .eq

def compareBy (ascending : Bool) (a b : SortValue) : Ordering :=
  if ascending then compare a b else (compare a b).swap

end SortValue

namespace Bookmark

/-- Every bookmark with the value it is compared by. -/
def keyed (key : String) (bs : List Bookmark) : Except Fault (List (SortValue × Bookmark)) :=
  bs.mapM fun b => do pure (← SortValue.ofBookmark key b, b)

/-- Stable sort in either direction. A list of at most one bookmark is not looked at. -/
def sortBy (c : Criterion) (bs : List Bookmark) : Except Fault (List Bookmark) :=
  if bs.length ≤ 1 then .ok bs
  else do
    let pairs ← keyed c.key bs
    pure ((MergeSort.sort (fun x y => SortValue.compareBy c.ascending x.1 y.1) pairs).map (·.2))

end Bookmark

end LinkShelf
