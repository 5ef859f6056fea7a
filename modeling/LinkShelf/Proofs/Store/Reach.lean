import LinkShelf.Proofs.Store.Operation
/-!
The states a shelf can come into: by its own operations, whether they succeed or fail, while the
disk and the listeners change in any way between them. All of them are in order.
-/
namespace LinkShelf.Shelf

open LinkShelf.Act

variable {s t u : Shelf} {bs : List Bookmark}

/-- The collection was read from its file. -/
structure Loaded (s t : Shelf) : Prop extends Setup s t where
  notices : t.notices = s.notices
  disk : t.disk = s.disk
  items : match s.medium with
    | .memory => t.items = s.items
    | .file path _ => ∃ bs cs, s.stored path = .ok bs ∧
        Identified s.supply [] s.drawn bs cs t.drawn ∧ t.items = numbered cs

/-- The bookmarks that a shelf finds in its file. -/
def found (s : Shelf) : List Bookmark :=
  match s.medium with
  | .memory => []
  | .file path _ => (s.stored path).toOption.getD []

theorem Met.loaded (h : Met s t) (hl : Loaded t u) : Loaded s u := by
  rw [h] at hl
  exact ⟨{ hl.toSetup with }, hl.notices, hl.disk, hl.items⟩

theorem ends_load (s : Shelf) : Ends load s (fun _ t => Loaded s t) (fun _ t => Kept s t) := by
  refine ends_meeting (fun u hu => ?_) fun _ _ hu => hu.kept
  rw [ends_get_bind]
  cases hm : u.medium with
  | memory =>
    refine hu.loaded ⟨.refl u, rfl, rfl, ?_⟩
    rw [hm]
  | file path indent =>
    refine ends_lift_bind (fun bs hbs => ?_) fun _ _ => hu.kept
    refine (ends_identify bs u).bind ?_
    rintro cs t ⟨hcs, hdrew⟩
    refine hu.loaded ⟨{ hdrew.kept.toSetup with }, hdrew.kept.notices, by rw [hdrew.1], ?_⟩
    rw [hm]
    exact ⟨bs, cs, hbs, hcs, rfl⟩

theorem Loaded.orderly (hs : Orderly s) (hf : Unused s.supply s.drawn (found s))
    (h : Loaded s t) : Orderly t := by
  have hitems := h.items
  have hheard : ∀ n ∈ t.notices, Sound n.collection := by
    rw [h.notices]
    exact hs.heard
  unfold found at hf
  cases hm : s.medium with
  | memory =>
    rw [hm] at hitems
    refine hs.after h.toSetup ?_ ?_ hheard
    · rw [hitems]
      exact hs.unused.mono h.drawn
    · rw [hitems]
      exact hs.sound
  | file path indent =>
    simp only [hm] at hitems hf
    obtain ⟨bs, cs, hbs, hcs, hitems⟩ := hitems
    simp only [hbs, Except.toOption, Option.getD_some] at hf
    refine hs.after h.toSetup ?_ ?_ hheard
    · rw [hitems]
      exact (hcs.ids_new hs.fresh (by simp) hf).2.of_ids (by simp)
    · rw [hitems]
      exact (hcs.named hs.fresh hf).numbered

/-- An order is stored in whichever way the shelf can, or it is not stored at all. -/
theorem ends_saveOrder (hs : Orderly s) (c : Criterion) : Ends (saveOrder c) s
    (fun order t => Sorted c order s t) (fun _ t => Kept s t) := by
  have hanyway : Ends (saveOrderAnyway c) s (fun order t => Sorted c order s t)
      (fun _ t => Kept s t) := by
    refine (ends_list s).bind ?_
    rintro _ t ⟨rfl, ht⟩
    refine ends_lift_bind (fun order horder => ?_) fun _ _ => ht
    rw [← ht.items] at horder
    have hsorted := (ends_sorted (ht.orderly hs) horder).mono (fun _ _ hv => ht.sorted hv)
      fun _ _ hv => ht.trans hv
    refine hsorted.tryCatch fun f v hv => ?_
    by_cases hf : f.family? = some .unsupported
    · rw [if_pos hf]
      exact (ends_saveSorted (hv.orderly hs) c).mono (fun _ _ hw => hv.sorted hw) fun _ _ hw =>
        hv.trans hw
    · rw [if_neg hf]
      exact hv
  unfold saveOrder
  rw [ends_get_bind]
  exact hanyway.tryCatch fun _ _ h => h

inductive Op where
  | load
  | list
  | fetch (id : String)
  | write (w : Write)
  | removeAll (ids : List String)
  | saveOrder (c : Criterion)

namespace Op

def act : Op → Act Unit
  | .load => Shelf.load
  | .list => do let _ ← Shelf.list
  | .fetch id => do let _ ← Shelf.fetch id
  | .write w => w.act
  | .removeAll ids => do let _ ← Shelf.removeAll ids
  | .saveOrder c => do let _ ← Shelf.saveOrder c

/-- The bookmarks that come to a shelf with an operation. -/
def brings (s : Shelf) : Op → List Bookmark
  | .load => found s
  | .write w => w.brings
  | _ => []

end Op

/-- What an operation can come to, from one shelf to another. -/
inductive Op.Comes (s t : Shelf) : Op → Prop where
  | kept {o : Op} (h : Kept s t) : Comes s t o
  | loaded (h : Loaded s t) : Comes s t .load
  | written {w : Write} (h : w.Done s t) : Comes s t (.write w)
  | removed {targets : List String} {count : Nat} (h : Removed targets count s t) :
      Comes s t (.removeAll targets)
  | ordered {c : Criterion} {order : List String} (h : (Write.reorder order).Done s t) :
      Comes s t (.saveOrder c)

theorem ends_op (o : Op) (hs : Orderly s) (ho : Unused s.supply s.drawn (o.brings s)) :
    Ends o.act s (fun _ t => o.Comes s t) (fun _ t => o.Comes s t) := by
  cases o with
  | load => exact (ends_load s).mono (fun _ _ h => .loaded h) fun _ _ h => .kept h
  | list =>
    exact ((ends_list s).mono (fun _ _ h => .kept h.2) fun _ _ h => .kept h).bind fun _ _ h => h
  | fetch id =>
    exact ((ends_fetch s).mono (fun _ _ h => .kept h.2) fun _ _ h => .kept h).bind fun _ _ h => h
  | write w => exact (ends_write w hs ho).mono (fun _ _ h => .written h) fun _ _ h => .kept h
  | removeAll targets =>
    exact ((ends_removeAll targets hs).mono (fun _ _ h => .removed h) fun _ _ ⟨_, h⟩ =>
      .removed h).bind fun _ _ h => h
  | saveOrder c =>
    exact ((ends_saveOrder hs c).mono (fun _ _ h => .ordered (h.reordered hs)) fun _ _ h =>
      .kept h).bind fun _ _ h => h

theorem Op.Comes.setup {o : Op} (h : o.Comes s t) : Setup s t := by
  cases h with
  | kept h => exact h.toSetup
  | loaded h => exact h.toSetup
  | written h | ordered h =>
    obtain ⟨bs, -, hc⟩ := h
    exact hc.toSetup
  | removed h => exact h.toSetup

/-- An operation leaves a shelf in order, whether it succeeds or fails. -/
theorem Op.Comes.orderly {o : Op} (hs : Orderly s) (ho : Unused s.supply s.drawn (o.brings s))
    (h : o.Comes s t) : Orderly t := by
  cases h with
  | kept h => exact h.orderly hs
  | loaded h => exact h.orderly hs ho
  | written h => exact h.orderly hs ho
  | removed h => exact h.orderly
  | ordered h => exact h.orderly hs (unused_nil _ _)

/-- A shelf as it is made: nothing is in it, and nobody was told anything. -/
structure New (s : Shelf) : Prop where
  items : s.items = []
  notices : s.notices = []
  fresh : Fresh s.supply

def freshShelf : Shelf :=
  { name := "json", medium := .file { parts := ["links", "b.json"] } (some 2), supply := unary }

theorem freshShelf_new : New freshShelf := ⟨rfl, rfl, fresh_unary⟩

/-- The states of a shelf. New ids are those that nothing else has when they are drawn. -/
inductive Reachable : Shelf → Prop where
  | new {s : Shelf} (h : New s) : Reachable s
  | filled {s t : Shelf} {bs : List Bookmark} (h : New s) (hbs : Unused s.supply s.drawn bs)
      (hrun : run (fill bs) s = (.ok (), t)) : Reachable t
  | op {s t : Shelf} {r : Except Fault Unit} (h : Reachable s) (o : Op)
      (ho : Unused s.supply s.drawn (o.brings s)) (hrun : run o.act s = (r, t)) : Reachable t
  | surroundings {s : Shelf} (h : Reachable s) (disk : Disk)
      (outages : Call → List (Option Fault)) : Reachable { s with disk, outages }
  | listeners {s : Shelf} (h : Reachable s) (listeners : List Listener) :
      Reachable { s with listeners }

theorem New.orderly (h : New s) : Orderly s := by
  refine ⟨h.fresh, ?_, ?_, ?_⟩
  · simp [Unused, h.items]
  · rw [h.items]
    exact named_nil.numbered
  · simp [h.notices]

theorem ends_fill (hs : Orderly s) (hbs : Unused s.supply s.drawn bs) :
    Ends (fill bs) s (fun _ t => Orderly t) (fun _ _ => False) := by
  refine (ends_identify bs s).bind ?_
  rintro cs t ⟨hcs, hdrew⟩
  have hk := hdrew.kept
  refine hs.after { hk.toSetup with } ?_ (hcs.named hs.fresh hbs).numbered ?_
  · exact (hcs.ids_new hs.fresh (by simp) hbs).2.of_ids (by simp)
  · intro n hn
    exact hs.heard n (hk.notices ▸ hn)

theorem Reachable.orderly (h : Reachable s) : Orderly s := by
  induction h with
  | new h => exact h.orderly
  | filled h hbs hrun => exact (ends_iff.mp (ends_fill h.orderly hbs)).1 _ _ hrun
  | op _ o ho hrun ih => exact ((ends_op o ih ho).state hrun).orderly ih ho
  | surroundings _ disk outages ih => exact ih.amid disk outages _
  | listeners _ ls ih => exact ih.amid _ _ ls

section Representation

/-- Every bookmark has an id that no other one has, the number of its place, a rating of at most
five and no blank tag. -/
def WellKept (bs : List Bookmark) : Prop :=
  (∀ b ∈ bs, ∃ id, b.id = some id ∧ id ≠ "") ∧ (bs.map (·.id)).Nodup ∧
    (∀ (i : Nat) (b : Bookmark), bs[i]? = some b → b.position = .int i) ∧
    ∀ b ∈ bs, b.rating ≤ 5 ∧ ∀ t ∈ b.tags, Text.blank t = false

theorem numbered_eq_iff : numbered bs = bs ↔
    ∀ (i : Nat) (b : Bookmark), bs[i]? = some b → b.position = .int i := by
  constructor
  · intro h i b hb
    have hi := numbered_getElem? bs i
    rw [h, hb, Option.map_some] at hi
    exact congrArg Bookmark.position (Option.some.inj hi)
  · intro h
    apply List.ext_getElem?
    intro i
    rw [numbered_getElem?]
    cases hb : bs[i]? with
    | none => rfl
    | some b => rw [Option.map_some, ← h i b hb]

theorem sound_iff : Sound bs ↔ WellKept bs := by
  constructor
  · intro h
    have hformed := fun b hb => Bookmark.formed_iff.mp (h.formed b hb)
    exact ⟨h.filled, h.distinct, numbered_eq_iff.mp h.placed, hformed⟩
  · intro h
    obtain ⟨hfilled, hdistinct, hplaced, hformed⟩ := h
    have hformed := fun b hb => Bookmark.formed_iff.mpr (hformed b hb)
    exact ⟨⟨hfilled, hdistinct, hformed⟩, numbered_eq_iff.mpr hplaced⟩

/-- However a shelf was filled and whatever was done to it since, successful or not: it is well
kept, and so was every collection that a listener has received. -/
theorem reachable_wellKept (h : Reachable s) :
    WellKept s.items ∧ ∀ n ∈ s.notices, WellKept n.collection := by
  have horderly := h.orderly
  exact ⟨sound_iff.mp horderly.sound, fun n hn => sound_iff.mp (horderly.heard n hn)⟩

/-- One bookmark without an id, one with a blank one, and two with the same. -/
def strays : List Bookmark :=
  [{ rating := 9, tags := [" ", "a"] }, { id := some "" }, { id := some "a", position := .int 7 },
    { id := some "a" }]

def strayPatch : Members :=
  [("id", .str "x"), ("rating", .str "7"), ("tags", .str "b, ,c"), ("position", .int 0)]

@[irreducible] def strayShelf : Shelf := (run (fill strays) { supply := unary }).2

def saveFails : Call → List (Option Fault)
  | .save => [some (.badValue "full")]
  | _ => []

/-- After a removal that could not be saved. -/
@[irreducible] def strayBlocked : Shelf :=
  (run (Op.write (.remove "a")).act { strayShelf with outages := saveFails }).2

@[irreducible] def strayPatched : Shelf :=
  (run (Op.write (.update "now" "a" strayPatch)).act strayBlocked).2

theorem strayPatched_reachable : Reachable strayPatched := by
  have hnew : New { supply := unary } := ⟨rfl, rfl, fresh_unary⟩
  have hunused : Unused unary 0 strays := by
    intro k _ b hb hid
    simp only [strays, List.mem_cons, List.not_mem_nil, or_false] at hb
    rcases hb with rfl | rfl | rfl | rfl
    · cases hid
    · exact ne_unary (by decide) k (Option.some.inj hid)
    · exact ne_unary (by decide) k (Option.some.inj hid)
    · exact ne_unary (by decide) k (Option.some.inj hid)
  have hfilled : Reachable strayShelf := by
    unfold strayShelf
    exact .filled hnew hunused rfl
  have hblocked : Reachable strayBlocked := by
    unfold strayBlocked
    refine .op (hfilled.surroundings strayShelf.disk saveFails) (.write (.remove "a")) ?_ rfl
    simp [Unused, Op.brings, Write.brings]
  unfold strayPatched
  refine .op hblocked (.write (.update "now" "a" strayPatch)) ?_ rfl
  simp [Unused, Op.brings, Write.brings]

theorem strayPatched_wellKept :
    strayPatched.items.map (fun b => (b.id, b.rating, b.tags)) =
        [(some "x", 5, ["a"]), (some "xx", 0, []), (some "a", 5, ["b", "c"]),
          (some "xxx", 0, [])] ∧
      WellKept strayPatched.items ∧ ∀ n ∈ strayPatched.notices, WellKept n.collection :=
  ⟨by decide +kernel, reachable_wellKept strayPatched_reachable⟩

end Representation

end LinkShelf.Shelf
