import LinkShelf.Plan.Run
import LinkShelf.Proofs.Text.Lowered
/-!
Looking for what is literally there. A step that looks for a text, without regard to case, keeps
every bookmark that holds the text as it is, unless the text has a capital sigma that ends a word
there and not in the text alone, or the other way round. A start of a field is found only if no
sigma does so.
-/
namespace LinkShelf

/-- A value stands in a text as it is, its capital sigmas ending words there as they do alone. -/
def Text.Stands (value s : String) : Prop :=
  ∃ pre post, s.toList = pre ++ value.toList ++ post ∧ Text.Settled pre value.toList post

namespace Bookmark

/-- The texts that a search looks at. -/
def searched (b : Bookmark) : List String := Filter.searchedFields.map b.textOf ++ b.tags

/-- The texts of a field that may start with a value: of the tags each one, else the text of the
field. -/
def startsOf (b : Bookmark) (name : String) : List String :=
  if name = "tags" then b.tags else [b.textOf name]

end Bookmark

open Text (Stands Settled contains_lower startsWith_lower)

namespace Filter

variable {b : Bookmark} {name value text : String} {post : List Char}

theorem search_admits (h : text ∈ b.searched) (hstands : Stands value text) :
    (search value).admits b = true := by
  obtain ⟨pre, post, htext, hsettled⟩ := hstands
  have hfound := contains_lower htext hsettled
  simp only [admits, Bool.or_eq_true, List.any_eq_true, loweredTags, List.mem_map]
  rcases List.mem_append.mp h with h | h
  · obtain ⟨name, hname, rfl⟩ := List.mem_map.mp h
    exact .inl (.inr ⟨name, hname, hfound⟩)
  · exact .inr ⟨_, ⟨text, h, rfl⟩, hfound⟩

theorem contains_admits (hstands : Stands value (b.textOf name)) :
    (contains name value).admits b = true := by
  obtain ⟨pre, post, htext, hsettled⟩ := hstands
  exact contains_lower htext hsettled

theorem startsWith_admits (h : text ∈ b.startsOf name) (htext : text.toList = value.toList ++ post)
    (hsettled : Settled [] value.toList post) : (startsWith name value).admits b = true := by
  have hfound := (startsWith_lower htext).mpr hsettled
  unfold Bookmark.startsOf at h
  unfold admits
  split at h
  · rename_i htags
    simp only [htags, if_true, List.any_eq_true, loweredTags, List.mem_map]
    exact ⟨_, ⟨text, h, rfl⟩, hfound⟩
  · rename_i htags
    obtain rfl := List.mem_singleton.mp h
    simp only [htags, if_false, hfound, Bool.or_true]

/-- Of a field with one text, nothing but this text can start with the value. -/
theorem startsWith_settled (hname : name ≠ "tags")
    (htext : (b.textOf name).toList = value.toList ++ post)
    (h : (startsWith name value).admits b = true) : Settled [] value.toList post := by
  simp only [admits, if_neg hname, Bool.or_eq_true, decide_eq_true_eq] at h
  rcases h with rfl | h
  · exact Text.settled_of_not_mem (by simp) _ _
  · exact (startsWith_lower htext).mp h

end Filter

namespace Step

variable {s : Step} {a : Action} {b : Bookmark} {f : Filter} {name value : String}

/-- Wherever the bookmark is in a list, it is in what the step makes of the list. -/
def Keeps (s : Step) (b : Bookmark) : Prop :=
  ∀ source current, b ∈ current → b ∈ apply source current s

theorem keeps_iff (hk : s.known = some a) (hf : filter? a s.parameters = some (.ok f)) :
    s.Keeps b ↔ f.admits b = true := by
  have happly (source current : List Bookmark) :
      apply source current s = current.filter f.admits := by
    unfold apply perform
    simp only [hk, hf]
    rfl
  simp only [Keeps, happly, List.mem_filter]
  exact ⟨fun h => (h [] [b] (by simp)).2, fun h _ _ hb => ⟨hb, h⟩⟩

/-- A search for a term. -/
structure Searches (s : Step) (term : String) : Prop where
  known : s.known = some .searchBookmarks
  term : s.parameters.get "searchTerm" = .str term

/-- A step that looks for a value in a field. -/
structure LooksIn (s : Step) (a : Action) (name value : String) : Prop where
  known : s.known = some a
  field : Parameter.text (s.parameters.get "field") "title" = .ok name
  value : s.parameters.get "value" = .str value

theorem text_str (s : String) : Parameter.text (.str s) "" = .ok s := by
  by_cases hs : s = "" <;> simp [Parameter.text, Json.isUnset, Json.text, hs]

theorem Searches.keeps_iff (h : s.Searches value) :
    s.Keeps b ↔ (Filter.search value).admits b = true := by
  refine Step.keeps_iff h.known ?_
  simp only [filter?, h.term, text_str]
  rfl

theorem LooksIn.includes_iff (h : s.LooksIn .findIncludes name value) :
    s.Keeps b ↔ (Filter.contains name value).admits b = true := by
  refine Step.keeps_iff h.known ?_
  simp only [filter?, fieldAndValue, h.field, h.value, text_str]
  rfl

theorem LooksIn.starts_iff (h : s.LooksIn .findStartsWith name value) :
    s.Keeps b ↔ (Filter.startsWith name value).admits b = true := by
  refine Step.keeps_iff h.known ?_
  simp only [filter?, fieldAndValue, h.field, h.value, text_str]
  rfl

/-- What stands in a bookmark as it is, is found there, if its capital sigmas end words there just as
they do alone. They do so if there are none, or if no word of the text runs into the value or out of
it. Where the value starts a field, nothing else makes it found. -/
theorem literal_kept (b : Bookmark) (value : String) :
    (∀ s : Step, s.Searches value → (∃ text ∈ b.searched, Stands value text) → s.Keeps b) ∧
    (∀ (s : Step) (name : String), s.LooksIn .findIncludes name value →
      Stands value (b.textOf name) → s.Keeps b) ∧
    (∀ (s : Step) (name : String), s.LooksIn .findStartsWith name value →
      ∀ text ∈ b.startsOf name, ∀ post, text.toList = value.toList ++ post →
        (Settled [] value.toList post → s.Keeps b) ∧
        (name ≠ "tags" → s.Keeps b → Settled [] value.toList post)) ∧
    ∀ pre post, '\u03A3' ∉ value.toList ∨
      Text.nearCased pre.reverse = false ∧ Text.nearCased post = false →
        Settled pre value.toList post := by
  refine ⟨?_, ?_, ?_, ?_⟩
  · rintro s hs ⟨text, htext, hstands⟩
    exact hs.keeps_iff.mpr (Filter.search_admits htext hstands)
  · intro s name hs hstands
    exact hs.includes_iff.mpr (Filter.contains_admits hstands)
  · intro s name hs text htext post hpost
    refine ⟨fun hsettled => hs.starts_iff.mpr (Filter.startsWith_admits htext hpost hsettled), ?_⟩
    intro hname hkeeps
    rw [Bookmark.startsOf, if_neg hname, List.mem_singleton] at htext
    subst htext
    exact Filter.startsWith_settled hname hpost (hs.starts_iff.mp hkeeps)
  · rintro pre post (hnone | ⟨hpre, hpost⟩)
    · exact Text.settled_of_not_mem hnone pre post
    · exact Text.settled_of_apart hpre hpost

section Example

def inTitle (a : Action) (value : String) : Step :=
  { action := a.name, parameters := [("field", .str "title"), ("value", .str value)] }

def street : Bookmark := { title := .str "ΟΔΟΣ ΑΘΗΝΑΣ" }

def streetSign : Bookmark := { title := .str "ΟΔΟΣΗΜΑΝΣΗ" }

/-- A whole word of a title is found in every way. -/
theorem street_kept :
    (search "ΟΔΟΣ" none).Searches "ΟΔΟΣ" ∧
      (inTitle .findIncludes "ΟΔΟΣ").LooksIn .findIncludes "title" "ΟΔΟΣ" ∧
      (inTitle .findStartsWith "ΟΔΟΣ").LooksIn .findStartsWith "title" "ΟΔΟΣ" ∧
    Stands "ΟΔΟΣ" (street.textOf "title") ∧
    (search "ΟΔΟΣ" none).Keeps street ∧ (inTitle .findIncludes "ΟΔΟΣ").Keeps street ∧
      (inTitle .findStartsWith "ΟΔΟΣ").Keeps street := by
  obtain ⟨hsearch, hincludes, hstarts, hsettled⟩ := literal_kept street "ΟΔΟΣ"
  have hsearches : (search "ΟΔΟΣ" none).Searches "ΟΔΟΣ" := ⟨by decide, rfl⟩
  have hin : (inTitle .findIncludes "ΟΔΟΣ").LooksIn .findIncludes "title" "ΟΔΟΣ" :=
    ⟨by decide, rfl, rfl⟩
  have hat : (inTitle .findStartsWith "ΟΔΟΣ").LooksIn .findStartsWith "title" "ΟΔΟΣ" :=
    ⟨by decide, rfl, rfl⟩
  have hplace : Settled [] "ΟΔΟΣ".toList " ΑΘΗΝΑΣ".toList :=
    hsettled _ _ (.inr ⟨by decide +kernel, by decide +kernel⟩)
  have htext : (street.textOf "title").toList = "ΟΔΟΣ".toList ++ " ΑΘΗΝΑΣ".toList := by decide
  have hstands : Stands "ΟΔΟΣ" (street.textOf "title") := ⟨[], _, htext, hplace⟩
  refine ⟨hsearches, hin, hat, hstands, ?_, hincludes _ _ hin hstands, ?_⟩
  · exact hsearch _ hsearches ⟨_, List.mem_append_left _ (by simp [Filter.searchedFields]), hstands⟩
  · exact (hstarts _ _ hat _ (by simp [Bookmark.startsOf]) _ htext).1 hplace

/-- A title that starts with a text, a capital sigma of which ends no word there, is not found by
that text. -/
theorem sigma_missed :
    "ΟΔΟΣ".toList <+: (streetSign.textOf "title").toList ∧
    ¬(search "ΟΔΟΣ" none).Keeps streetSign ∧ ¬(inTitle .findIncludes "ΟΔΟΣ").Keeps streetSign ∧
      ¬(inTitle .findStartsWith "ΟΔΟΣ").Keeps streetSign := by
  have hsearches : (search "ΟΔΟΣ" none).Searches "ΟΔΟΣ" := ⟨by decide, rfl⟩
  have hin : (inTitle .findIncludes "ΟΔΟΣ").LooksIn .findIncludes "title" "ΟΔΟΣ" :=
    ⟨by decide, rfl, rfl⟩
  have hat : (inTitle .findStartsWith "ΟΔΟΣ").LooksIn .findStartsWith "title" "ΟΔΟΣ" :=
    ⟨by decide, rfl, rfl⟩
  rw [hsearches.keeps_iff, hin.includes_iff, hat.starts_iff]
  decide +kernel

end Example

end Step

end LinkShelf
