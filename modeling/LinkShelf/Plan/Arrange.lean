import LinkShelf.Plan.Step
import LinkShelf.Sorting
/-!
The order in which the steps of a plan run: by ascending priority, steps without one last, and
otherwise as given.
-/
namespace LinkShelf

namespace Step

def comparePriority (a b : Step) : Ordering :=
  match a.priority, b.priority with
  | none, none => .eq
  | none, some _ => .gt
  | some _, none => .lt
  | some x, some y => (x.compare? y).getD .eq

end Step

namespace Plan

def arrange (p : Plan) : Plan :=
  if p.any (·.priority.isSome) then MergeSort.sort Step.comparePriority p else p

/-- What a step that saves an order sorts by. Key and direction come from the step; else the key
comes from the first sort step of the plan and the direction from the name of the action. -/
def criterion (step : Step) (p : Plan) : Criterion :=
  let order := step.parameters.get "order"
  let order := if order.truthy then order
    else .str (if Text.contains (Text.lower step.action) "descending" then "desc" else "asc")
  let sorts := p.filter fun s => s.is (· = .sortBookmarks) && (s.parameters.get "sortBy").truthy
  let key := match step.parameters.get "sortBy", sorts.head? with
    | v, some s => if v.truthy then v else s.parameters.get "sortBy"
    | v, none => v
  .ofJson (key.orElse (.str "title")) order

end Plan

end LinkShelf
