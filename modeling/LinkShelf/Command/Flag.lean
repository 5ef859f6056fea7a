/-!
The flags of the command line and how they are spelled.
-/
namespace LinkShelf

inductive Flag where
  | help
  | version
  | input
  | query
  | provider
  | model
  | baseUrl
  | config
  | store
  | persist
  | export_
  | checkUrls
  | noStack
  | yes
  | verbose
  deriving DecidableEq, Repr

namespace Flag

def all : List Flag :=
  [.help, .version, .input, .query, .provider, .model, .baseUrl, .config, .store, .persist,
    .export_, .checkUrls, .noStack, .yes, .verbose]

def long : Flag → String
  | .help => "--help"
  | .version => "--version"
  | .input => "--input"
  | .query => "--query"
  | .provider => "--provider"
  | .model => "--model"
  | .baseUrl => "--base-url"
  | .config => "--config"
  | .store => "--store"
  | .persist => "--persist"
  | .export_ => "--export"
  | .checkUrls => "--check-urls"
  | .noStack => "--no-stack"
  | .yes => "--yes"
  | .verbose => "--verbose"

def letter? : Flag → Option Char
  | .help => some 'h'
  | .version => some 'V'
  | .input => some 'i'
  | .query => some 'q'
  | .provider => some 'p'
  | .model => some 'm'
  | .config => some 'c'
  | .store => some 's'
  | .export_ => some 'e'
  | .yes => some 'y'
  | .verbose => some 'v'
  | .baseUrl | .persist | .checkUrls | .noStack => none

def takesValue : Flag → Bool
  | .input | .query | .provider | .model | .baseUrl | .config | .store | .export_ => true
  | .help | .version | .persist | .checkUrls | .noStack | .yes | .verbose => false

def about : Flag → String
  | .help => "show this help message and exit"
  | .version => "show the version and exit"
  | .input => "Bookmark file to load (JSON array or Netscape HTML)"
  | .query => "Request to run; starts an interactive session when omitted"
  | .provider => "Language model provider (default: gemini)"
  | .model => "Model name override"
  | .baseUrl => "Model server base URL override"
  | .config => "Configuration file path (TOML or JSON)"
  | .store => "JSON file used as the bookmark store; --input is imported into it"
  | .persist => "Write the collection back to the --input file on exit"
  | .export_ => "Export the final view to a .json or .html file"
  | .checkUrls => "Check URL reachability after loading"
  | .noStack => "Replace the plan on every request instead of stacking"
  | .yes => "Delete staged duplicates without asking"
  | .verbose => "Enable debug logging on the console"

def ofLetter? (c : Char) : Option Flag := all.find? (·.letter? = some c)

/-- The flag of a whole spelling, and whether it is the short one. -/
def ofSpelling? (cs : List Char) : Option (Flag × Bool) :=
  match cs with
  | ['-', c] => (ofLetter? c).map (·, true)
  | cs => (all.find? (·.long.toList = cs)).map (·, false)

/-- The flags whose long spelling begins so. -/
def beginning (cs : List Char) : List Flag := all.filter fun f => cs.isPrefixOf f.long.toList

end Flag

end LinkShelf
