import LinkShelf.Text.Ranges
/-!
Blank characters and trimming.
-/
namespace LinkShelf.Text

/-- White space of every script, with the four ASCII information separators. -/
def blankRanges : Ranges :=
  [(0x9,0xD), (0x1C,0x20), (0x85,0x85), (0xA0,0xA0), (0x1680,0x1680), (0x2000,0x200A),
   (0x2028,0x2029), (0x202F,0x202F), (0x205F,0x205F), (0x3000,0x3000)]

def isBlank (c : Char) : Bool := blankRanges.has c.toNat

def isAsciiBlank (c : Char) : Bool := c = ' ' || ('\x09' ≤ c && c ≤ '\x0d')

def trimRightBy (p : Char → Bool) (cs : List Char) : List Char := (cs.reverse.dropWhile p).reverse

def trimBy (p : Char → Bool) (cs : List Char) : List Char := trimRightBy p (cs.dropWhile p)

def trimChars (cs : List Char) : List Char := trimBy isBlank cs

def trim (s : String) : String := .ofList (trimChars s.toList)

def trimStart (s : String) : String := .ofList (s.toList.dropWhile isBlank)

/-- Whether no character but blanks occurs. -/
def blank (s : String) : Bool := s.toList.all isBlank

end LinkShelf.Text
