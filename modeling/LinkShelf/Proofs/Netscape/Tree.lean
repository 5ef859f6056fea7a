import LinkShelf.Netscape.Reader
import LinkShelf.Proofs.Html.Build
/-!
The links of a tree that is still being built. A list takes its folder from the element before it
when it is opened, and a link its folder from the innermost list, so what comes later changes
neither.
-/
namespace LinkShelf.Netscape

open Html

def isElement : Node → Bool
  | .text .. => false
  | .element .. => true

/-- The last element among nodes of which the last one comes first. -/
def lastElement (ns : List Node) : Option Node := ns.find? isElement

theorem linksIn_append (folder : String) (before : Option Node) (xs ys : List Node) :
    linksIn folder before (xs ++ ys) =
      linksIn folder before xs ++ linksIn folder ((lastElement xs.reverse).or before) ys := by
  induction xs generalizing before with
  | nil => simp [linksIn, lastElement]
  | cons n xs ih =>
    cases n with
    | text s shown => simp [linksIn, ih, lastElement, isElement]
    | element name as children => simp [linksIn, ih, lastElement, isElement]

/-- The nodes at the place where the next one comes in, the last one first. -/
def levelOf (top : List Node) : List Frame → List Node
  | [] => top
  | f :: _ => f.done

/-- The folder inside the innermost open element. -/
def folderOf (top : List Node) : List Frame → String
  | [] => ""
  | f :: fs =>
    if f.name = "dl" then folderAfter (lastElement (levelOf top fs)) else folderOf top fs

/-- The links that stand in the open elements and before them. -/
def linksUpTo (top : List Node) : List Frame → List Link
  | [] => linksIn "" none top.reverse
  | f :: fs => linksUpTo top fs ++ linksIn (folderOf top (f :: fs)) none f.done.reverse

end LinkShelf.Netscape

namespace LinkShelf.Html.Builder

open Netscape

variable {b : Builder}

def folder (b : Builder) : String := folderOf b.top b.stack

def links (b : Builder) : List Link := linksUpTo b.top b.stack

/-- The element right before the place where the next node comes in. -/
def before (b : Builder) : Option Node := lastElement (levelOf b.top b.stack)

@[simp] theorem folder_add (n : Node) (b : Builder) : (b.add n).folder = b.folder := by
  obtain ⟨stack, top, pending, voids⟩ := b
  cases stack with
  | nil => rfl
  | cons f fs => simp [folder, add, folderOf]

theorem links_add (n : Node) (b : Builder) :
    (b.add n).links = b.links ++ linksOf b.folder b.before n := by
  obtain ⟨stack, top, pending, voids⟩ := b
  cases stack <;>
    simp [links, add, linksUpTo, linksIn_append, before, folder, levelOf, folderOf, linksIn]

theorem before_add (n : Node) (b : Builder) :
    (b.add n).before = if isElement n then some n else b.before := by
  obtain ⟨stack, top, pending, voids⟩ := b
  cases stack <;> simp [before, add, levelOf, lastElement, List.find?_cons] <;> split <;> simp_all

section Text

variable (b : Builder)

@[simp] theorem before_typed (cs : List Char) : (b.typed cs).before = b.before := rfl

@[simp] theorem folder_flush : b.flush.folder = b.folder := by
  unfold flush
  split
  · rfl
  · exact folder_add ..

@[simp] theorem links_flush : b.flush.links = b.links := by
  unfold flush
  split
  · rfl
  · rw [links_add, linksOf, List.append_nil]
    rfl

@[simp] theorem before_flush : b.flush.before = b.before := by
  unfold flush
  split
  · rfl
  · rw [before_add]
    rfl

end Text

theorem links_push (name : String) (as : Attributes) (b : Builder) :
    (b.push name as).links = b.links := by
  simp [links, push, linksUpTo, linksIn]

theorem folder_push (name : String) (as : Attributes) (b : Builder) :
    (b.push name as).folder = if name = "dl" then folderAfter b.before else b.folder := rfl

/-- An element that is no link holds the links inside it and no more. -/
theorem links_pop (h : "a" ∉ b.names) : b.pop.links = b.links := by
  obtain ⟨stack, top, pending, voids⟩ := b
  cases stack with
  | nil => rfl
  | cons f fs =>
    have hname : f.name ≠ "a" := fun he => h (by simp [names, he])
    rw [pop, links_add, linksOf]
    simp [links, linksUpTo, hname, folder, before, folderOf]

end LinkShelf.Html.Builder

namespace LinkShelf.Netscape

open Html Builder

variable {b : Builder} {links : List Link} {folder name : String} {as : Attributes}

/-- Only lists, entries and paragraphs are open, and the one kind of void element met so far is
the one that a bookmark file has at its head. -/
structure Quiet (b : Builder) : Prop where
  names : ∀ n ∈ b.names, n = "dl" ∨ n = "dt" ∨ n = "p"
  voids : ∀ n ∈ b.voids, n = "meta"

theorem Quiet.ordinary (h : Quiet b) : ∀ n ∈ b.names, Ordinary n := by
  intro n hn
  rcases h.names n hn with rfl | rfl | rfl <;> decide

/-- A quiet builder that has met these links and stands in this folder. -/
structure Stands (b : Builder) (links : List Link) (folder : String) : Prop extends Quiet b where
  links : b.links = links
  folder : b.folder = folder

theorem Stands.flush (h : Stands b links folder) : Stands b.flush links folder where
  names := by simpa using h.names
  voids := by simpa using h.voids
  links := by rw [links_flush, h.links]
  folder := by rw [folder_flush, h.folder]

theorem Stands.typed (h : Stands b links folder) (cs : List Char) :
    Stands (b.typed cs) links folder := { h with }

/-- An entry or a paragraph stays in the folder around it. -/
theorem Stands.opening (h : Stands b links folder) (hname : name = "dt" ∨ name = "p") :
    Stands (b.step (.opening name as)) links folder := by
  have hvoid : name ∉ voidNames := by rcases hname with rfl | rfl <;> decide
  have hlist : name ≠ "dl" := by rcases hname with rfl | rfl <;> decide
  have hstep : b.step (.opening name as) = b.flush.push name as := by simp [step, hvoid]
  have hflush := h.flush
  rw [hstep]
  refine ⟨⟨fun n hn => ?_, hflush.voids⟩, ?_, ?_⟩
  · rcases List.mem_cons.mp hn with rfl | hn
    · exact .inr hname
    · exact hflush.names n hn
  · rw [links_push, hflush.links]
  · rw [folder_push, if_neg hlist, hflush.folder]

/-- A list is in the folder that the element before it names. -/
theorem Stands.list (h : Stands b links folder) (as : Attributes) :
    Stands (b.step (.opening "dl" as)) links (folderAfter b.before) := by
  have hvoid : "dl" ∉ voidNames := by decide
  have hstep : b.step (.opening "dl" as) = b.flush.push "dl" as := by simp [step, hvoid]
  have hflush := h.flush
  rw [hstep]
  refine ⟨⟨fun n hn => ?_, hflush.voids⟩, ?_, ?_⟩
  · rcases List.mem_cons.mp hn with rfl | hn
    · exact .inl rfl
    · exact hflush.names n hn
  · rw [links_push, hflush.links]
  · rw [folder_push, if_pos rfl, before_flush]

theorem Stands.pop (h : Stands b links folder) : ∃ outer, Stands b.pop links outer := by
  have hlink : "a" ∉ b.names := by
    intro ha
    rcases h.names "a" ha with he | he | he <;> exact absurd he (by decide)
  refine ⟨b.pop.folder, ⟨fun n hn => ?_, by simpa using h.voids⟩, ?_, rfl⟩
  · rw [names_pop] at hn
    exact h.names n (List.mem_of_mem_tail hn)
  · rw [links_pop hlink, h.links]

theorem Stands.popTo (h : Stands b links folder) (name : String) (fuel : Nat) :
    ∃ outer, Stands (popTo name fuel b) links outer := by
  induction fuel generalizing b folder with
  | zero => exact ⟨folder, h⟩
  | succ fuel ih =>
    obtain ⟨outer, hpop⟩ := h.pop
    rw [Builder.popTo]
    split
    · exact ⟨folder, h⟩
    · split
      · exact ⟨outer, hpop⟩
      · exact ih hpop

/-- The end of a list leads to some folder around it. -/
theorem Stands.closing (h : Stands b links folder) :
    ∃ outer, Stands (b.step (.closing "dl")) links outer := by
  have hvoid : "dl" ∉ b.voids := fun hv => absurd (h.voids "dl" hv) (by decide)
  rw [step, endTag, if_neg hvoid, close]
  split
  · exact h.flush.popTo "dl" _
  · exact ⟨folder, h.flush⟩

/-- An element of text is added whole. -/
theorem Stands.element (h : Stands b links folder) (name s : String) (as : Attributes)
    (hname : (name = "title" ∨ name = "h1" ∨ name = "h3") ∨ name = "a") :
    let b' :=
      (Token.opening name as :: ((Atom.ofText s).map Atom.token ++ [.closing name])).foldl step b
    let n := Node.element name as (leaf s)
    Stands b' (links ++ linksOf folder b.before n) folder ∧ b'.before = some n := by
  have hord : Ordinary name := by rcases hname with (rfl | rfl | rfl) | rfl <;> decide
  have hvoid : name ∉ voidNames := by rcases hname with (rfl | rfl | rfl) | rfl <;> decide
  have hvoids : name ∉ b.voids := by
    intro hv
    obtain rfl := h.voids name hv
    simp at hname
  have hflush := h.flush
  intro b' n
  have hb' : b' = b.flush.add n := foldl_element h.ordinary as s hord hvoid hvoids
  rw [hb']
  refine ⟨⟨⟨?_, ?_⟩, ?_, ?_⟩, ?_⟩
  · simpa using h.names
  · simpa using h.voids
  · rw [links_add, hflush.links, hflush.folder, before_flush]
  · rw [folder_add, hflush.folder]
  · rw [before_add]
    rfl

theorem Stands.foldl_pop (h : Stands b links folder) (fs : List Frame)
    (hlength : b.stack.length = fs.length) :
    linksIn "" none (fs.foldl (fun b _ => b.pop) b).top.reverse = links := by
  induction fs generalizing b folder with
  | nil =>
    rw [← h.links, Builder.links, List.eq_nil_of_length_eq_zero hlength]
    rfl
  | cons f fs ih =>
    obtain ⟨outer, hpop⟩ := h.pop
    refine ih hpop ?_
    have := congrArg List.length (names_pop b)
    simp only [names, List.length_map, List.length_tail, hlength] at this
    simpa using this

/-- What was met is in the tree. -/
theorem Stands.finish (h : Stands b links folder) : linksIn "" none b.finish = links :=
  h.flush.foldl_pop _ rfl

end LinkShelf.Netscape
