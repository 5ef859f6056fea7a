import LinkShelf.Command.Flag
import LinkShelf.Model.Provider
import LinkShelf.Text.Digit
import LinkShelf.Text.Find
/-!
Reading the words of a command line. A long flag may be cut short where only one begins so, and its
value may follow an equals sign; one-letter flags may stand together in one word, the last one with
its value in it.
-/
namespace LinkShelf

inductive Stop where
  | help
  | version
  | misuse (message : String)
  | failed (f : Fault)

structure Options where
  input : String := ""
  query : String := ""
  provider : String := ""
  model : String := ""
  baseUrl : String := ""
  config : String := ""
  store : String := ""
  persist : Bool := false
  export_ : String := ""
  checkUrls : Bool := false
  noStack : Bool := false
  yes : Bool := false
  verbose : Bool := false
  deriving DecidableEq, Repr

namespace Options

/-- What a word of the command line is by its form. -/
inductive Word where
  | plain (s : String)
  /-- A flag, and what stands with it in the same word. -/
  | flag (f : Flag) (short : Bool) (attached : Option (List Char))
  /-- A word with a dash that is no flag, or the double dash. -/
  | stray (s : String)
  deriving Repr

def allDigits (cs : List Char) : Bool := cs.all fun c => (Text.digit? c).isSome

/-- Digits, or digits after a point; a newline at the end does not count. -/
def isNumber (cs : List Char) : Bool :=
  let cs := if cs.getLast? = some '\n' then cs.dropLast else cs
  match Text.cut '.' cs with
  | (whole, none) => !whole.isEmpty && allDigits whole
  | (whole, some part) => allDigits whole && !part.isEmpty && allDigits part

/-- A word after a dash that spells no flag: a negative number and a sentence are values. -/
def unspelled (cs : List Char) : Word :=
  let s := String.ofList ('-' :: cs)
  if isNumber cs || cs.contains ' ' then .plain s else .stray s

/-- A word that starts with two dashes, or with one, and is no flag as a whole. -/
def attachedWord (cs : List Char) : Except Stop Word :=
  match cs with
  | '-' :: _ =>
    let (start, value) := Text.cut '=' ('-' :: cs)
    match Flag.beginning start with
    | [] => .ok (unspelled cs)
    | [f] => .ok (.flag f false value)
    | fs => .error (.misuse ("ambiguous option: " ++ .ofList ('-' :: cs) ++ " could match " ++
        ", ".intercalate (fs.map Flag.long)))
  | c :: rest =>
    match Flag.ofLetter? c with
    | some f => .ok (.flag f true (some rest))
    | none => .ok (unspelled cs)
  | [] => .ok (.plain "-")

def word (s : String) : Except Stop Word :=
  match s.toList with
  | '-' :: cs =>
    match Flag.ofSpelling? ('-' :: cs), Text.cut '=' ('-' :: cs) with
    | some (f, short), _ => .ok (.flag f short none)
    | none, (start, some value) =>
      match Flag.ofSpelling? start with
      | some (f, short) => .ok (.flag f short (some value))
      | none => attachedWord cs
    | none, (_, none) => attachedWord cs
  | _ => .ok (.plain s)

/-- The forms of all words. After a double dash every word is plain. -/
def words : List String → Except Stop (List Word)
  | [] => .ok []
  | s :: rest =>
    if s = "--" then .ok (.stray s :: rest.map .plain)
    else do
      let w ← word s
      pure (w :: (← words rest))

/-- The flags in a word of one-letter flags, and the value in it if the last one takes it. -/
def unbundle (f : Flag) : List Char → Except Stop (List Flag × Flag × Option (List Char))
  | [] => .ok ([], f, none)
  | c :: cs =>
    if f.takesValue then .ok ([], f, some (c :: cs))
    else match Flag.ofLetter? c with
      | none => .error (.misuse ("argument " ++ f.long ++ ": ignored explicit argument " ++
          Json.quoted (.ofList (c :: cs))))
      | some g => do
        let (fs, last, value) ← unbundle g cs
        pure (f :: fs, last, value)

def turnOn (f : Flag) (o : Options) : Except Stop Options :=
  match f with
  | .help => .error .help
  | .version => .error .version
  | .persist => .ok { o with persist := true }
  | .checkUrls => .ok { o with checkUrls := true }
  | .noStack => .ok { o with noStack := true }
  | .yes => .ok { o with yes := true }
  | .verbose => .ok { o with verbose := true }
  | _ => .ok o

/-- Gives a flag its value. A double dash is dropped, which leaves none. -/
def give (f : Flag) (value : String) (o : Options) : Except Stop Options :=
  if value = "--" then
    .error (.failed (.badValue "not enough values to unpack (expected 1, got 0)"))
  else
    match f with
    | .input => .ok { o with input := value }
    | .query => .ok { o with query := value }
    | .provider =>
      if Provider.all.any (·.name = value) then .ok { o with provider := value }
      else .error (.misuse ("argument --provider/-p: invalid choice: " ++ Json.quoted value))
    | .model => .ok { o with model := value }
    | .baseUrl => .ok { o with baseUrl := value }
    | .config => .ok { o with config := value }
    | .store => .ok { o with store := value }
    | .export_ => .ok { o with export_ := value }
    | _ => .ok o

/-- The options of a command line whose words are known; `extra` are those without a place. -/
def ofWords (o : Options) (extra : List String) : List Word → Except Stop Options
  | [] =>
    if extra.isEmpty then .ok o
    else .error (.misuse ("unrecognized arguments: " ++ " ".intercalate extra))
  | .plain s :: rest | .stray s :: rest => ofWords o (extra ++ [s]) rest
  | .flag f short attached :: rest => do
    let (fs, last, value) ← match attached with
      | none => pure ([], f, none)
      | some cs =>
        if f.takesValue then pure ([], f, some cs)
        else if short && !cs.isEmpty then unbundle f cs
        else .error (.misuse ("argument " ++ f.long ++ ": ignored explicit argument " ++
          Json.quoted (.ofList cs)))
    if !last.takesValue then
      ofWords (← (fs ++ [last]).foldlM (fun o f => turnOn f o) o) extra rest
    else
      match value, rest with
      | some cs, rest =>
        ofWords (← give last (.ofList cs) (← fs.foldlM (fun o f => turnOn f o) o)) extra rest
      | none, .plain s :: rest =>
        ofWords (← give last s (← fs.foldlM (fun o f => turnOn f o) o)) extra rest
      | none, _ => .error (.misuse ("argument " ++ last.long ++ ": expected one argument"))

def parse (args : List String) : Except Stop Options := do ofWords {} [] (← words args)

def usageLine (f : Flag) : String :=
  let spelled := match f.letter? with
    | some c => f.long ++ ", -" ++ .ofList [c]
    | none => f.long
  "  " ++ spelled ++ (if f.takesValue then " VALUE" else "") ++ "  " ++ f.about

def usage : String := "\n".intercalate
  ("usage: bookmark-agent [options]" :: "" :: Flag.all.map usageLine)

/-- The options as arguments of the settings; null ones were not given. -/
def toMembers (o : Options) : Members :=
  [("provider", .str o.provider), ("model", .str o.model), ("base_url", .str o.baseUrl),
    ("store", .str o.store), ("check_urls", if o.checkUrls then .bool true else .null),
    ("no_stack", .bool o.noStack), ("verbose", .bool o.verbose)]

end Options

end LinkShelf
