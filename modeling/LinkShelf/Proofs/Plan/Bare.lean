import LinkShelf.Plan.Reply
import LinkShelf.Proofs.Json.Roundtrip
import LinkShelf.Proofs.Number.Exact
import LinkShelf.Proofs.Plan.Reading
import Mathlib.Data.List.Forall2
/-!
Replies that are a plan and nothing else. Such a reply is read as its steps, in whichever way it is
laid out and spelled, unless what looks like a fenced block stands inside one of its texts.
-/
namespace LinkShelf.Reply

open LinkShelf.Json (SpellsDocument plain)

variable {ms : Members} {s : Step} {v : Json} {cs : List Char} {objects : List Members}
  {steps : Plan}

section Objects

/-- An object that has the parts of a step and nothing else. A priority is a whole number of which
no digit is lost. -/
structure Describes (ms : Members) (s : Step) : Prop where
  names : ∀ m ∈ ms, m.1 ∈ Step.ownNames
  action : ms.get? "action" = some (.str s.action)
  parameters : ms.get? "parameters" = some (.obj s.parameters)
  priority : ms.get? "priority" = none ∧ s.priority = none ∨
    ∃ n : Int, ms.get? "priority" = some (.int n) ∧ n.natAbs ≤ 2 ^ 53 ∧
      s.priority = some (.finite (n < 0) (n.natAbs * Binary64.oneUnits))
  reasoning : ms.get? "reasoning" = s.reasoning.map .str

/-- There is nothing to add to the parameters. -/
theorem parametersOf_own {ps : Members} (hown : ∀ m ∈ ms, m.1 ∈ Step.ownNames)
    (hps : ms.get? "parameters" = some (.obj ps)) : Step.parametersOf ms = ps := by
  have hfold : ∀ (rest : Members), (∀ m ∈ rest, m.1 ∈ Step.ownNames) →
      rest.foldl (fun ps m =>
        if m.1 ∈ Step.ownNames || Members.has ps m.1 then ps else Members.put m.1 m.2 ps) ps =
        ps := by
    intro rest hrest
    induction rest with
    | nil => rfl
    | cons m rest ih =>
      have hm := hrest m List.mem_cons_self
      rw [List.foldl_cons]
      simp only [hm, decide_true, Bool.true_or, if_true]
      exact ih fun m hm => hrest m (List.mem_cons_of_mem _ hm)
  have hgiven : Members.get ms "parameters" = .obj ps := by
    rw [Members.get, hps, Option.getD_some]
  unfold Step.parametersOf
  rw [hgiven]
  exact hfold ms hown

theorem Describes.priorityOf (h : Describes ms s) :
    Step.priorityOf (ms.get "priority") = .ok s.priority := by
  rcases h.priority with ⟨hnone, hs⟩ | ⟨n, hn, hbound, hs⟩
  · rw [Members.get, hnone, hs]
    rfl
  · rw [Members.get, hn, hs, Option.getD_some, Step.priorityOf, Json.wholeAsReal,
      Binary64.ofInt?_eq hbound]
    rfl

theorem Describes.ofMembers (h : Describes ms s) : Step.ofMembers ms = .ok (some s) := by
  have haction : ms.get "action" = .str s.action := by
    rw [Members.get, h.action, Option.getD_some]
  have hreasoning : (ms.get "reasoning").str? = s.reasoning := by
    rw [Members.get, h.reasoning]
    cases s.reasoning <;> rfl
  unfold Step.ofMembers
  rw [h.priorityOf, haction, hreasoning, parametersOf_own h.names h.parameters]
  rfl

/-- Step by step, nothing is dropped. -/
theorem stepsOf_objects (h : List.Forall₂ Describes objects steps) :
    stepsOf (objects.map .obj) = .ok steps := by
  induction h with
  | nil => rfl
  | @cons ms s objects steps hs _ ih =>
    have haction : ms.get "action" = .str s.action := by
      rw [Members.get, hs.action, Option.getD_some]
    rw [List.map_cons, stepsOf, haction]
    simp only [hs.ofMembers, ih]
    rfl

end Objects

section Text

/-- A list, and an object with an action, is no envelope. -/
theorem decode_bare (ht : SpellsDocument v cs) (hplain : plain v = true)
    (hv : (∃ vs, v = .arr vs) ∨ ∃ ms, v = .obj ms ∧ (v.get? "action").isSome = true)
    (hfence : (fenced? cs).getD [] = []) (depth : Nat) : decode depth (.ofList cs) = .ok v := by
  have hflat : ¬Json.Flat v := by
    rcases hv with ⟨vs, rfl⟩ | ⟨ms, rfl, -⟩
    · exact fun hflat => hflat.1 vs rfl
    · exact fun hflat => hflat.2 ms rfl
  have hread : Json.parse (candidate (.ofList cs)) = .ok v := by
    refine parse_candidate (ht.parse hplain) hflat ?_
    rwa [String.toList_ofList]
  have hinner := inner?_own hread (hv.imp_right fun ⟨_, _, haction⟩ => haction)
  rw [decode_own hinner, ownValue, hread]

theorem filled_bare (ht : SpellsDocument v cs) (hv : (∃ vs, v = .arr vs) ∨ ∃ ms, v = .obj ms) :
    Text.blank (.ofList cs) = false := by
  have hopen : ∀ c, c = '[' ∨ c = '\x7b' → Text.isBlank c = false := by
    rintro c (rfl | rfl) <;> decide
  obtain ⟨-, h, -⟩ := ht
  rcases hv with ⟨vs, rfl⟩ | ⟨ms, rfl⟩
  · cases h <;> simp [Text.blank, hopen]
  · cases h <;> simp [Text.blank, hopen]

end Text

section Example

/-- A search for a word in a code block. -/
def codeSearch : Members :=
  [("action", .str "searchBookmarks"),
    ("parameters", .obj [("searchTerm", .str (.ofList (fence ++ ' ' :: 'x' :: fence)))])]

def codeStep : Step :=
  { action := "searchBookmarks"
    parameters := [("searchTerm", .str (.ofList (fence ++ ' ' :: 'x' :: fence)))] }

def codeSearchText : List Char := Json.write none 0 (.arr [.obj codeSearch])

/-- A negative priority, the members in no particular order, and a single fence in a text. -/
def fenceSearch : Members :=
  [("priority", .int (-3)), ("reasoning", .str "r"), ("action", .str "findIncludes"),
    ("parameters", .obj [("value", .str (.ofList fence)), ("all", .arr [.null, .bool true])])]

def fenceStep : Step :=
  { action := "findIncludes"
    parameters := [("value", .str (.ofList fence)), ("all", .arr [.null, .bool true])]
    priority := some (.finite true (3 * Binary64.oneUnits))
    reasoning := some "r" }

end Example

end LinkShelf.Reply
