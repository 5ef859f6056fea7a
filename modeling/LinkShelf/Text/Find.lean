/-!
Searching, splitting and replacing in a text.
-/
namespace LinkShelf.Text

/-- Whether the needle stands somewhere in the text as one piece. -/
def occurs (needle : List Char) : List Char → Bool
  | [] => needle.isEmpty
  | c :: cs => needle.isPrefixOf (c :: cs) || occurs needle cs

def contains (s needle : String) : Bool := occurs needle.toList s.toList

def startsWith (s start : String) : Bool := start.toList.isPrefixOf s.toList

def endsWith (s ending : String) : Bool := ending.toList.isSuffixOf s.toList

/-- The pieces between the separators, one more than there are separators. -/
def pieces (sep : Char) : List Char → List (List Char)
  | [] => [[]]
  | c :: cs =>
    if c = sep then [] :: pieces sep cs
    else match pieces sep cs with
      | [] => [[c]]
      | p :: ps => (c :: p) :: ps

def split (s : String) (sep : Char) : List String := (pieces sep s.toList).map String.ofList

/-- Walks the text, leaving out what `skip` still covers of an occurrence already replaced. -/
def replaceFrom (old new : List Char) : Nat → List Char → List Char
  | _, [] => []
  | skip + 1, _ :: cs => replaceFrom old new skip cs
  | 0, c :: cs =>
    if old.isPrefixOf (c :: cs) then new ++ replaceFrom old new (old.length - 1) cs
    else c :: replaceFrom old new 0 cs

/-- Every occurrence of a non-empty text, found from the left, replaced by another. -/
def replace (s old new : String) : String :=
  .ofList (replaceFrom old.toList new.toList 0 s.toList)

def join (sep : String) (parts : List String) : String := sep.intercalate parts

/-- Cut at the first separator: what stands before it, and what stands after it if there is one. -/
def cut (sep : Char) : List Char → List Char × Option (List Char)
  | [] => ([], none)
  | c :: cs => if c = sep then ([], some cs) else let (a, b) := cut sep cs; (c :: a, b)

end LinkShelf.Text
