import LinkShelf.Proofs.Json.Roundtrip
import LinkShelf.Proofs.Number.Numeral
import LinkShelf.Proofs.Number.Range
import LinkShelf.Proofs.Plan.Reading
import Mathlib.Data.List.Forall2
/-!
Replies that are the text of a list, without a fence. Each object that names an action by a text is
read as one step and nothing else is, whatever the list holds, unless a priority is a whole number
beyond all doubles.
-/
namespace LinkShelf.Reply

open LinkShelf.Json (Flat)

variable {ms : Members} {s : Step} {vs : List Json} {text : String}

section Steps

/-- The priority that a value stands for. -/
def numericPriority : Json → Option Binary64
  | .int n => Binary64.ofInt? n
  | .float x => if x.isNaN then none else some x
  | _ => none

/-- That an object is read as a step: its own members as far as they have the right type, and all
others as parameters. -/
structure ReadAs (ms : Members) (s : Step) : Prop where
  action : ms.get "action" = .str s.action
  parameters : s.parameters = Step.parametersOf ms
  priority : s.priority = numericPriority (ms.get "priority")
  reasoning : s.reasoning = (ms.get "reasoning").str?

/-- A priority that is a whole number beyond all doubles. -/
def Oversized (ms : Members) : Prop :=
  ∃ n : Int, ms.get "priority" = .int n ∧ Binary64.firstOverflow ≤ n.natAbs

def tooLarge : Fault := .overflow "int too large to convert to float"

/-- The members of an object that names an action by a text. -/
def stepObject? : Json → Option Members
  | .obj ms => if (Members.get ms "action").str?.isSome then some ms else none
  | _ => none

def stepObjects (vs : List Json) : List Members := vs.filterMap stepObject?

theorem priorityOf_sized (h : ¬Oversized ms) :
    Step.priorityOf (ms.get "priority") = .ok (numericPriority (ms.get "priority")) := by
  unfold Oversized at h
  generalize ms.get "priority" = v at h
  cases v with
  | int n =>
    have hsome : Binary64.ofInt? n ≠ none := fun hn =>
      h ⟨n, rfl, Binary64.ofInt?_eq_none.mp hn⟩
    obtain ⟨x, hx⟩ := Option.ne_none_iff_exists'.mp hsome
    rw [Step.priorityOf, Json.wholeAsReal, numericPriority, hx]
    rfl
  | float x => cases x <;> rfl
  | _ => rfl

theorem priorityOf_oversized (h : Oversized ms) :
    Step.priorityOf (ms.get "priority") = .error tooLarge := by
  obtain ⟨n, hn, hlarge⟩ := h
  rw [hn, Step.priorityOf, Json.wholeAsReal, Binary64.ofInt?_eq_none.mpr hlarge]
  rfl

theorem ofMembers_sized {action : String} (h : ¬Oversized ms) (ha : ms.get "action" = .str action) :
    ∃ s, Step.ofMembers ms = .ok (some s) ∧ ReadAs ms s := by
  unfold Step.ofMembers
  rw [priorityOf_sized h, ha]
  exact ⟨_, rfl, ha, rfl, rfl, rfl⟩

theorem ofMembers_oversized (h : Oversized ms) : Step.ofMembers ms = .error tooLarge := by
  unfold Step.ofMembers
  rw [priorityOf_oversized h]
  rfl

/-- Any value is the object of a step or passed over. -/
theorem stepsOf_cons (v : Json) (vs : List Json) :
    stepObject? v = none ∧ stepsOf (v :: vs) = stepsOf vs ∨
    ∃ ms action, stepObject? v = some ms ∧ ms.get "action" = .str action ∧
      stepsOf (v :: vs) = (do
        let step ← Step.ofMembers ms
        pure (step.toList ++ (← stepsOf vs))) := by
  cases v with
  | obj ms =>
    cases ha : Members.get ms "action" with
    | str action =>
      refine .inr ⟨ms, action, ?_, ha, ?_⟩
      · rw [stepObject?, ha]
        rfl
      · rw [stepsOf, ha]
    | _ =>
      refine .inl ⟨?_, ?_⟩
      · rw [stepObject?, ha]
        rfl
      · rw [stepsOf, ha]
  | _ => exact .inl ⟨rfl, rfl⟩

/-- Every object of a step gives one, in order. -/
theorem stepsOf_sized (h : ∀ ms ∈ stepObjects vs, ¬Oversized ms) :
    ∃ steps, stepsOf vs = .ok steps ∧ List.Forall₂ ReadAs (stepObjects vs) steps := by
  induction vs with
  | nil => exact ⟨[], rfl, .nil⟩
  | cons v vs ih =>
    rcases stepsOf_cons v vs with ⟨hnone, hcons⟩ | ⟨ms, action, hsome, ha, hcons⟩
    · rw [stepObjects, List.filterMap_cons_none hnone] at h ⊢
      rw [hcons]
      exact ih h
    · rw [stepObjects, List.filterMap_cons_some hsome] at h ⊢
      obtain ⟨s, hs, hread⟩ := ofMembers_sized (h ms List.mem_cons_self) ha
      obtain ⟨steps, hsteps, hall⟩ := ih fun ms hms => h ms (List.mem_cons_of_mem _ hms)
      refine ⟨s :: steps, ?_, .cons hread hall⟩
      rw [hcons, hs, hsteps]
      rfl

/-- One priority that is too large, wherever it stands, and no step is read. -/
theorem stepsOf_oversized (h : ∃ ms ∈ stepObjects vs, Oversized ms) :
    stepsOf vs = .error tooLarge := by
  induction vs with
  | nil =>
    obtain ⟨ms, hms, -⟩ := h
    cases hms
  | cons v vs ih =>
    rcases stepsOf_cons v vs with ⟨hnone, hcons⟩ | ⟨ms, action, hsome, ha, hcons⟩
    · rw [stepObjects, List.filterMap_cons_none hnone] at h
      rw [hcons]
      exact ih h
    · rw [stepObjects, List.filterMap_cons_some hsome] at h
      rw [hcons]
      by_cases hms : Oversized ms
      · rw [ofMembers_oversized hms]
        rfl
      · obtain ⟨s, hs, -⟩ := ofMembers_sized hms ha
        have hlater : ∃ ms ∈ stepObjects vs, Oversized ms := by
          obtain ⟨ms', hms', hover⟩ := h
          rcases List.mem_cons.mp hms' with rfl | hmem
          · exact (hms hover).elim
          · exact ⟨ms', hmem, hover⟩
        rw [hs, ih hlater]
        rfl

end Steps

theorem plan_unfenced (h : Json.parse text = .ok (.arr vs)) (hfence : ¬fence <:+: text.toList)
    (depth : Nat) : plan depth text = (stepsOf vs >>= fun
      | [] => .error (.plan "Unable to interpret agent response.")
      | steps => pure steps) := by
  have hv : ¬Flat (.arr vs) := fun hflat => hflat.1 vs rfl
  have hnone : (fenced? text.toList).getD [] = [] := by
    rw [fenced?_of_no_fence hfence, Option.getD_none]
  exact plan_own (filled_of_parse h hv) (parse_candidate h hv hnone) (.inl ⟨vs, rfl⟩) depth

section Example

/-- A step between values that are none. -/
def loose : List Json :=
  [.str "junk", .obj [("action", .int 5)],
    .obj [("action", .str "help"), ("priority", .str "high"), ("value", .arr [.null])], .arr []]

def looseText : String := .ofList (Json.write none 0 (.arr loose))

/-- A step with a whole number as its priority. -/
def urgent (n : Int) : List Json := [.obj [("action", .str "help"), ("priority", .int n)]]

theorem no_fence_urgent (n : Int) : ¬fence <:+: Json.write none 0 (.arr (urgent n)) := by
  refine no_fence_of_not_mem fun hmem => ?_
  have htext : Json.write none 0 (.arr (urgent n)) =
      "[\x7b\"action\": \"help\", \"priority\": ".toList ++ (Json.intText n).toList ++
        "\x7d]".toList := by
    simp only [urgent, Json.write, Json.writeItems, Json.writeMembers]
    generalize (Json.intText n).toList = digits
    simp [Json.literal, Json.Indent.first, Json.Indent.separator, Json.escapeChar]
  rw [htext, List.mem_append, List.mem_append] at hmem
  rcases hmem with (hmem | hmem) | hmem
  · revert hmem
    decide
  · rcases Numeral.isWholeChar_intText n _ hmem with hd | he
    · cases hd
    · revert he
      decide
  · revert hmem
    decide

/-- A priority with four hundred zeros. -/
def vast : List Json := urgent (Int.pow 10 400)

def vastText : String := .ofList (Json.write none 0 (.arr vast))

end Example

end LinkShelf.Reply
