import LinkShelf.Proofs.Plan.Bare
/-!
Replies with a plan between fences. The block is found whatever stands around it, its tag and the
newlines next to the fences are taken off, and what is left is read as the steps that it holds.
-/
namespace LinkShelf.Reply

open LinkShelf.Json (SpellsDocument plain)

variable {pre tag body cs : List Char} {objects : List Members} {steps : Plan}

/-- A block of some lines between fences, with a language tag and with what stands around it. -/
def blockIn (pre tag body post : List Char) : List Char :=
  pre ++ (fence ++ (tag ++ '\n' :: (body ++ '\n' :: (fence ++ post))))

theorem afterTag_line (htag : ∀ c ∈ tag, isLetter c = true) (cs : List Char) :
    afterTag (tag ++ '\n' :: cs) = cs := by
  have hletters : (tag ++ '\n' :: cs).dropWhile isLetter = '\n' :: cs := by
    rw [List.dropWhile_append_of_pos htag]
    rfl
  rw [afterTag, hletters]
  rfl

/-- The line of the first fence ends with its tag, and the block before the newline of the next
one. What comes after that is not looked at. -/
theorem fenced?_blockIn (hpre : backtick ∉ pre) (htag : ∀ c ∈ tag, isLetter c = true)
    (hbody : ¬fence <:+: body) (post : List Char) :
    fenced? (blockIn pre tag body post) = some body := by
  have hnewline : '\n' ≠ backtick := by decide
  have hstart (cs : List Char) : cutFence (fence ++ cs) = some ([], cs) :=
    cutFence_start (List.prefix_append ..)
  have hopen (cs : List Char) : cutFence (pre ++ (fence ++ cs)) = some (pre ++ [], cs) := by
    rw [cutFence_unticked hpre, hstart]
    rfl
  have hclose :
      cutFence (body ++ '\n' :: (fence ++ post)) = some (body ++ '\n' :: [], post) := by
    rw [cutFence_leading hnewline hbody, hstart]
    rfl
  have hends : (dropNewline (body ++ ['\n']).reverse).reverse = body := by
    rw [List.reverse_concat]
    exact List.reverse_reverse body
  unfold fenced? blockIn
  rw [hopen]
  show (cutFence (afterTag (tag ++ '\n' :: (body ++ '\n' :: (fence ++ post))))).bind _ = _
  rw [afterTag_line htag, hclose]
  exact congrArg some hends

section Example

/-- Two backticks in a text are no fence yet. -/
def tickSearch : Members :=
  [("action", .str "searchBookmarks"), ("priority", .int 2),
    ("parameters", .obj [("searchTerm", .str (.ofList [backtick, backtick]))])]

def tickStep : Step :=
  { action := "searchBookmarks"
    parameters := [("searchTerm", .str (.ofList [backtick, backtick]))]
    priority := some (.finite false (2 * Binary64.oneUnits)) }

def helpObject : Members := [("action", .str "help"), ("parameters", .obj [])]

def tickText : List Char := Json.write (some 2) 0 (.arr [.obj tickSearch, .obj helpObject])

end Example

end LinkShelf.Reply
