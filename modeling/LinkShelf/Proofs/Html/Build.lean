import LinkShelf.Proofs.Html.Markup
/-!
Building the tree of written markup. How its text was cut makes no difference, and an element that
holds nothing but text is added as one node.
-/
namespace LinkShelf.Html

namespace Builder

variable {b b' : Builder} {name : String} {as : Attributes}

/-- Two builders that are the same but for how the text that waits is cut. -/
inductive Alike : Builder → Builder → Prop
  | same (b : Builder) : Alike b b
  | cut (b : Builder) {ps ps' : List (List Char)} (hne : ps ≠ []) (hne' : ps' ≠ [])
      (htext : ps.reverse.flatten = ps'.reverse.flatten) :
      Alike { b with pending := ps } { b with pending := ps' }

theorem Alike.flush (h : Alike b b') : b.flush = b'.flush := by
  cases h with
  | same => rfl
  | cut b hne hne' htext => simp [Builder.flush, hne, hne', htext, shrink, isOpen, add]

/-- Text that comes in one character at a time. -/
def typed (cs : List Char) (b : Builder) : Builder :=
  { b with pending := (cs.map fun c => [c]).reverse ++ b.pending }

theorem foldl_singles (cs : List Char) (b : Builder) :
    (cs.map fun c => Token.text [c]).foldl step b = b.typed cs := by
  unfold typed
  induction cs generalizing b with
  | nil => rfl
  | cons c cs ih => simp [ih, step]

theorem flatten_singles (cs : List Char) : (cs.map fun c => [c]).flatten = cs := by
  rw [← List.flatMap_def, List.flatMap_singleton']

theorem Alike.step_text (h : Alike b b') {cs : List Char} (hne : cs ≠ []) :
    Alike (b.step (.text cs)) ((cs.map fun c => Token.text [c]).foldl step b') := by
  rw [foldl_singles]
  have hsingles : (cs.map fun c => [c]).reverse ≠ [] := by simpa using hne
  cases h with
  | same =>
    refine .cut b (by simp) (by simp [hne]) ?_
    simp [flatten_singles]
  | cut b _ _ htext =>
    refine .cut b (by simp) (by simp [hne]) ?_
    simp [flatten_singles, htext]

/-- An end tag either is used up or puts the text in first, and every other mark does so. -/
theorem Alike.step_mark (h : Alike b b') {t : Token} (ht : ∀ cs, t ≠ .text cs) :
    Alike (b.step t) (b'.step t) := by
  have hflush := h.flush
  cases t with
  | text cs => exact (ht cs rfl).elim
  | closing name =>
    simp only [step, endTag, hflush]
    cases h with
    | same => exact .same _
    | cut b hne hne' htext =>
      dsimp only
      split
      · exact .cut { b with voids := b.voids.erase name } hne hne' htext
      · exact .same _
  | _ =>
    simp only [step, hflush]
    exact .same _

theorem Alike.foldl (h : Alike b b') {ts : List Token} (hfilled : .text [] ∉ ts) :
    Alike (ts.foldl step b) ((ts.flatMap Token.singles).foldl step b') := by
  induction ts generalizing b b' with
  | nil => exact h
  | cons t ts ih =>
    rw [List.mem_cons, not_or] at hfilled
    rw [List.flatMap_cons, List.foldl_cons, List.foldl_append]
    refine ih ?_ hfilled.2
    cases t with
    | text cs => exact h.step_text fun he => hfilled.1 (by rw [he])
    | _ => exact h.step_mark (by simp)

section Element

/-- The names of the open elements, from the innermost on. -/
def names (b : Builder) : List String := b.stack.map Frame.name

@[simp] theorem names_add (n : Node) (b : Builder) : (b.add n).names = b.names := by
  unfold add names
  cases b.stack <;> rfl

@[simp] theorem voids_add (n : Node) (b : Builder) : (b.add n).voids = b.voids := by
  unfold add
  cases b.stack <;> rfl

@[simp] theorem pending_add (n : Node) (b : Builder) : (b.add n).pending = b.pending := by
  unfold add
  cases b.stack <;> rfl

@[simp] theorem names_flush (b : Builder) : b.flush.names = b.names := by
  unfold flush
  split
  · rfl
  · exact names_add _ _

@[simp] theorem voids_flush (b : Builder) : b.flush.voids = b.voids := by
  unfold flush
  split
  · rfl
  · exact voids_add _ _

@[simp] theorem pending_flush (b : Builder) : b.flush.pending = [] := by
  unfold flush
  split
  · exact List.isEmpty_iff.mp ‹_›
  · exact pending_add _ _

@[simp] theorem names_pop (b : Builder) : b.pop.names = b.names.tail := by
  obtain ⟨stack, top, pending, voids⟩ := b
  cases stack with
  | nil => rfl
  | cons f fs =>
    rw [pop, names_add]
    rfl

@[simp] theorem voids_pop (b : Builder) : b.pop.voids = b.voids := by
  unfold pop
  split
  · rfl
  · exact voids_add _ _

/-- Text is shown, and what is only blanks in it shrinks. -/
def Ordinary (name : String) : Prop := name ∉ hiddenNames ∧ name ∉ verbatimNames

instance (name : String) : Decidable (Ordinary name) := by
  unfold Ordinary
  infer_instance

/-- Text as it is put in where it is ordinary. -/
def shrunk (cs : List Char) : List Char :=
  if cs.all isSpace then if cs.contains '\n' then ['\n'] else [' '] else cs

theorem flush_ordinary (h : ∀ n ∈ b.names, Ordinary n) : b.flush =
    if b.pending = [] then b
    else { b with pending := [] }.add
      (.text (.ofList (shrunk b.pending.reverse.flatten)) true) := by
  have hclosed : b.isOpen hiddenNames = false ∧ b.isOpen verbatimNames = false := by
    constructor <;> rw [isOpen, List.any_eq_false] <;> intro f hf
    · simpa using (h f.name (List.mem_map_of_mem hf)).1
    · simpa using (h f.name (List.mem_map_of_mem hf)).2
  cases hp : b.pending with
  | nil => simp [flush, hp]
  | cons p ps => simp [flush, hp, hclosed, shrink, shrunk]

/-- The children of an element that holds a text only. -/
def leaf (s : String) : List Node :=
  if s = "" then [] else [.text (.ofList (shrunk s.toList)) true]

theorem flush_typed (h : ∀ n ∈ b.names, Ordinary n) (hb : b.pending = []) (s : String) :
    (b.typed s.toList).flush = (leaf s).foldr add b := by
  have hnames : ∀ n ∈ (b.typed s.toList).names, Ordinary n := h
  rw [flush_ordinary hnames]
  obtain ⟨stack, top, pending, voids⟩ := b
  obtain rfl : pending = [] := hb
  by_cases hs : s = ""
  · simp [leaf, typed, hs]
  · simp [leaf, typed, hs, flatten_singles]

theorem close_innermost (name : String) (as : Attributes) (ns : List Node) (fs : List Frame)
    (b : Builder) : close name { b with stack := ⟨name, as, ns⟩ :: fs } =
      { b with stack := fs }.add (.element name as ns.reverse) := by
  simp [close, isOpen, popTo, pop]

theorem foldr_leaf (s : String) (name : String) (as : Attributes) (b : Builder) :
    (leaf s).foldr add (b.push name as) =
      { b with stack := ⟨name, as, (leaf s).reverse⟩ :: b.stack } := by
  unfold leaf
  split <;> rfl

/-- An element that holds a text only is added as one node. -/
theorem foldl_element (h : ∀ n ∈ b.names, Ordinary n) (as : Attributes) (s : String)
    (hname : Ordinary name) (hvoid : name ∉ voidNames) (hvoids : name ∉ b.voids) :
    (Token.opening name as :: ((Atom.ofText s).map Atom.token ++ [.closing name])).foldl step b =
      b.flush.add (.element name as (leaf s)) := by
  have hopened : b.step (.opening name as) = b.flush.push name as := by
    simp [step, hvoid]
  have hordinary : ∀ n ∈ (b.flush.push name as).names, Ordinary n := by
    intro n hn
    rcases List.mem_cons.mp hn with rfl | hn
    · exact hname
    · exact h n (names_flush b ▸ hn)
  have hpending : (b.flush.push name as).pending = [] := pending_flush b
  have hclosing : name ∉ ((b.flush.push name as).typed s.toList).voids := by
    rw [← voids_flush b] at hvoids
    exact hvoids
  rw [List.foldl_cons, hopened, List.foldl_append, Atom.map_token_ofText, foldl_singles,
    List.foldl_cons, List.foldl_nil, step, endTag, if_neg hclosing, flush_typed hordinary hpending,
    foldr_leaf, close_innermost, List.reverse_reverse]

end Element

end Builder

/-- The cut of the text does not show in the tree. -/
theorem Cut.nodes {ts singles : List Token} (h : Cut ts singles) : nodes ts = nodes singles := by
  have halike := (Builder.Alike.same {}).foldl h.filled
  rw [h.same] at halike
  rw [Html.nodes, Html.nodes, Builder.finish, Builder.finish, halike.flush]

end LinkShelf.Html
