import LinkShelf.Text.Find
import LinkShelf.Text.Trim
/-!
The instruction that a language model gets for a request.
-/
namespace LinkShelf.Prompt

def opening : List String :=
  ["You are an agent for a bookmark application. Based on the user's input, determine " ++
     "which application action(s) to take. For simple queries, return a single JSON " ++
     "object. For combined or sequential queries, return an array of action objects. " ++
     "Assign each action a numeric \"priority\" (lower executes earlier). The executor " ++
     "will sort actions by this priority and ignore array order.",
   ""]

def closing : List String :=
  ["",
   "Available Actions:",
   "- searchBookmarks: General search by term (parameters: \x7bsearchTerm: string\x7d)",
   "- showAllBookmarks: Display all bookmarks (no parameters)",
   "- resetSearch: Clear all filters and show all bookmarks (no parameters)",
   "- importBookmarks: Open import/export dialog (no parameters)",
   "- exportBookmarks: Open import/export dialog (no parameters)",
   "- removeDuplicates: Remove duplicate bookmarks by title and URL (no parameters)",
   "- findIncludes: Find by field containing value (parameters: \x7bfield: " ++
     "\"title\"|\"url\"|\"description\"|\"tags\", value: string\x7d)",
   "- findStartsWith: Find by field starting with a value (parameters: \x7bfield: " ++
     "\"title\"|\"url\"|\"description\"|\"tags\", value: string\x7d)",
   "- findWithTags: Find bookmarks with specific tags (parameters: \x7bincludeTags: " ++
     "string[], excludeTags?: string[]\x7d)",
   "- filterByRating: Filter bookmarks by rating (parameters: \x7bminRating?: number, " ++
     "maxRating?: number, comparator?: \"gte\"|\"lte\"|\"eq\", exact?: number\x7d)",
   "- sortBookmarks: Sort bookmarks by a specific field and order (parameters: " ++
     "\x7bsortBy: \"title\"|\"rating\"|\"url\"|\"folder\"|\"createdAt\"|\"updatedAt\", " ++
     "order: \"asc\"|\"desc\"\x7d)",
   "- limitResults: Limit the number of results (parameters: \x7bcount: number, " ++
     "direction?: \"first\"|\"last\", scope?: \"current\"|\"all\"\x7d)",
   "- limitFirst: Keep the first N of the current results (parameters: \x7bcount: " ++
     "number\x7d)",
   "- limitLast: Keep the last N of the current results (parameters: \x7bcount: " ++
     "number\x7d)",
   "- reorder: Persist order across ALL bookmarks (parameters: \x7bsortBy: " ++
     "\"title\"|\"rating\"|\"url\"|\"folder\", order: \"asc\"|\"desc\"\x7d)",
   "- reorderAscending: Persist ascending order across ALL bookmarks (optional " ++
     "parameters: \x7bsortBy\x7d)",
   "- reorderDescending: Persist descending order across ALL bookmarks (optional " ++
     "parameters: \x7bsortBy\x7d)",
   "- persistSortedOrder: Persist order across ALL bookmarks (parameters: \x7bsortBy?: " ++
     "\"title\"|\"rating\"|\"url\"|\"folder\", order: \"asc\"|\"desc\"\x7d)",
   "- help: Show available commands and usage (no parameters)",
   "",
   "Priority should be set to match the order of the user's request.",
   "Example:",
   "   Input: show first 10 in descending order",
   "   Output: [",
   "    \x7b \"action\": \"sortBookmarks\", \"parameters\": \x7b \"sortBy\": \"title\", " ++
     "\"order\": \"desc\" \x7d, \"priority\": 1 \x7d,",
   "    \x7b \"action\": \"limitFirst\", \"parameters\": \x7b \"count\": 10 \x7d, " ++
     "\"priority\": 2 \x7d",
   "   ]",
   "",
   "Output schema: For each action, include: \x7b \"action\": string, \"parameters\": " ++
     "object, \"priority\": number \x7d.",
   "",
   "Respond with ONLY a JSON object or an array of JSON objects, wrapped in a markdown " ++
     "code block. Do not include any other text or formatting."]

/-- The request as it stands between quotes: trimmed, with double quotes escaped. -/
def escaped (request : String) : String := Text.replace (Text.trim request) "\"" "\\\""

def requestLine (request : String) : String := "User Query: \"" ++ escaped request ++ "\""

def ofRequest (request : String) : String :=
  "\n".intercalate (opening ++ requestLine request :: closing)

end LinkShelf.Prompt
