import LinkShelf.Proofs.Store.Reach
import LinkShelf.Proofs.Store.Trouble
/-!
What it is to put a collection into an order of ids, any of which may be unknown, given twice or
missing. The named bookmarks come first, by the first place of their ids, and the others stay in
their order behind them. There is one such collection only, so that a second time changes nothing.
-/
namespace LinkShelf.Shelf

open LinkShelf.Act

variable {s t : Shelf} {bs cs ds : List Bookmark} {b : Bookmark} {id : String}
  {order current : List String}

def isNamed (order : List String) (b : Bookmark) : Bool := order.any (hasId · b)

/-- The place at which the id of a bookmark is first given. -/
def firstPlace (order : List String) (b : Bookmark) : Nat := order.findIdx (hasId · b)

/-- A collection with the bookmarks of another one, in the order of some ids and with the places
that they have there. -/
structure Reordered (order : List String) (bs cs : List Bookmark) : Prop where
  perm : (contents cs).Perm (contents bs)
  placed : ∀ (i : Nat) (b : Bookmark), cs[i]? = some b → b.position = .int i
  parts : contents cs =
    (contents cs).filter (isNamed order) ++ (contents bs).filter (!isNamed order ·)
  ordered : ((contents cs).filter (isNamed order)).Pairwise fun b c =>
    firstPlace order b < firstPlace order c

section Order

theorem idxOf_filter_lt {α : Type} [BEq α] [LawfulBEq α] {p : α → Bool} {x y : α}
    (hx : p x = true) (hy : p y = true) (as : List α) :
    (as.filter p).idxOf x < (as.filter p).idxOf y ↔ as.idxOf x < as.idxOf y := by
  induction as with
  | nil => rfl
  | cons a as ih =>
    cases ha : p a with
    | true =>
      rw [List.filter_cons_of_pos ha, List.idxOf_cons, List.idxOf_cons, List.idxOf_cons,
        List.idxOf_cons]
      cases a == x with
      | true => cases a == y <;> simp
      | false => cases a == y <;> simp [ih]
    | false =>
      have hne : ∀ {z : α}, p z = true → (a == z) = false := by
        intro z hz
        rw [beq_eq_false_iff_ne]
        rintro rfl
        rw [ha] at hz
        cases hz
      rw [List.filter_cons_of_neg (by simp [ha]), ih, List.idxOf_cons, List.idxOf_cons, hne hx,
        hne hy]
      simp

/-- Ids that are given twice count where they are first given. -/
theorem eraseDups_ordered (order : List String) :
    order.eraseDups.Pairwise fun x y => order.idxOf x < order.idxOf y := by
  induction order using eraseDups_induction with
  | nil => simp
  | cons x order ih =>
    have hother : ∀ y ∈ (order.filter fun y => !(y == x)).eraseDups, (!(y == x)) = true :=
      fun y hy => (List.mem_filter.mp (List.mem_eraseDups.mp hy)).2
    have hne : ∀ {y : String}, (!(y == x)) = true → (x == y) = false := by
      intro y hy
      rw [Bool.not_eq_true', beq_eq_false_iff_ne] at hy
      exact beq_eq_false_iff_ne.mpr hy.symm
    rw [List.eraseDups_cons, List.pairwise_cons]
    refine ⟨fun y hy => ?_, ih.imp_of_mem fun {y z} hy hz hyz => ?_⟩
    · rw [List.idxOf_cons_self, List.idxOf_cons, hne (hother y hy)]
      exact Nat.succ_pos _
    · have hrest : order.idxOf y < order.idxOf z :=
        (idxOf_filter_lt (p := fun y => !(y == x)) (hother y hy) (hother z hz) order).mp hyz
      rw [List.idxOf_cons, List.idxOf_cons, hne (hother y hy), hne (hother z hz)]
      exact Nat.succ_lt_succ hrest

theorem firstPlace_eq (h : b.id = some id) (order : List String) :
    firstPlace order b = order.idxOf id := by
  unfold firstPlace hasId
  rw [h, List.idxOf]
  refine congrArg (List.findIdx · order) (funext fun x => ?_)
  by_cases hx : x = id
  · simp [hx]
  · simp [hx, Ne.symm hx]

end Order

section Unique

theorem mem_isNamed (h : b ∈ order.eraseDups.filterMap fun id => bs.find? (hasId id)) :
    isNamed order b = true := by
  obtain ⟨id, hid, hb⟩ := List.mem_filterMap.mp h
  exact List.any_eq_true.mpr ⟨id, List.mem_eraseDups.mp hid, List.find?_some hb⟩

/-- Such a collection is what the shelf makes of the other one. -/
theorem reordered_arranged (h : Named bs) (order : List String) :
    Reordered order bs (numbered (arranged order bs)) := by
  let named := order.eraseDups.filterMap fun id => bs.find? (hasId id)
  let rest := bs.filter (!isNamed order ·)
  have hcontents : contents (numbered (arranged order bs)) = contents named ++ contents rest := by
    rw [contents_numbered]
    exact List.map_append
  have hnamed : (contents named ++ contents rest).filter (isNamed order) = contents named := by
    have hall : ∀ b ∈ contents named, isNamed order b = true := by
      intro b hb
      obtain ⟨c, hc, rfl⟩ := List.mem_map.mp hb
      show isNamed order c = true
      exact mem_isNamed hc
    have hnone : ∀ b ∈ contents rest, ¬isNamed order b = true := by
      intro b hb
      obtain ⟨c, hc, rfl⟩ := List.mem_map.mp hb
      have hother := (List.mem_filter.mp hc).2
      rw [Bool.not_eq_true'] at hother
      exact Bool.eq_false_iff.mp hother
    rw [List.filter_append, List.filter_eq_self.mpr hall, List.filter_eq_nil_iff.mpr hnone,
      List.append_nil]
  have hrest : contents rest = (contents bs).filter (!isNamed order ·) :=
    contents_filter _ (fun _ => rfl) bs
  refine ⟨?_, numbered_eq_iff.mp (numbered_numbered _), ?_, ?_⟩
  · rw [contents_numbered]
    exact (arranged_perm h order).map Bookmark.unplaced
  · rw [hcontents, hnamed, hrest]
  · rw [hcontents, hnamed, contents, List.pairwise_map, List.pairwise_filterMap]
    refine (eraseDups_ordered order).imp fun {x y} hxy b hb c hc => ?_
    have hbid := hasId_iff.mp (List.find?_some hb)
    have hcid := hasId_iff.mp (List.find?_some hc)
    have hplaces : firstPlace order b < firstPlace order c := by
      rw [firstPlace_eq hbid, firstPlace_eq hcid]
      exact hxy
    exact hplaces

/-- And there is no other one. -/
theorem Reordered.unique (h : Reordered order bs cs) (h' : Reordered order bs ds) : cs = ds := by
  have hnamed : (contents cs).filter (isNamed order) = (contents ds).filter (isNamed order) := by
    refine List.Perm.eq_of_pairwise (fun b c _ _ hb hc => ?_) h.ordered h'.ordered
      ((h.perm.trans h'.perm.symm).filter _)
    omega
  have hcontents : contents cs = contents ds := by
    rw [h.parts, h'.parts, hnamed]
  rw [← numbered_eq_iff.mpr h.placed, ← numbered_eq_iff.mpr h'.placed]
  exact numbered_congr hcontents

theorem Reordered.again (h : Reordered order bs cs) : Reordered order cs cs := by
  refine ⟨.refl _, h.placed, ?_, h.ordered⟩
  have hrest : (contents cs).filter (!isNamed order ·) = (contents bs).filter (!isNamed order ·) := by
    rw [h.parts, List.filter_append, List.filter_filter, List.filter_filter]
    simp
  rw [hrest]
  exact h.parts

end Unique

/-- The ids of a collection, in its order. -/
def IdsOf (current : List String) (bs : List Bookmark) : Prop := current.map some = ids bs

theorem IdsOf.arranged (h : IdsOf current bs) (hbs : Sound bs) :
    numbered (arranged current bs) = bs := by
  have hids : current = orderIds bs := by
    refine List.map_injective_iff.mpr (fun _ _ => Option.some.inj) ?_
    exact h.trans hbs.toNamed.ids_eq
  rw [hids, arranged_orderIds hbs.toNamed (.refl bs), hbs.placed]

theorem run_reorder (hdue : s.due .reorder = none) (hs : s.reorders = true)
    (order : List String) :
    run (reorder order) s = run (commit (arranged order s.items)) (s.begun .reorder) := by
  have hreorders : (s.begun .reorder).reorders = true := hs
  rw [reorder, run_meeting_begun hdue]
  simp only [run, run_bind, run_get, hreorders, if_true]
  rfl

/-- Whatever ids a shelf is asked to put first, there is one collection in their order. Unless the
shelf refuses, it comes to hold that one just if it can be saved, and otherwise it stays as it was.
Asked for the same order once more, or for the order that is there, it keeps its collection. -/
theorem reorder_once (h : Reachable s) (order : List String) :
    ∃ cs, (∀ ds, Reordered order s.items ds ↔ ds = cs) ∧
      Ends (reorder order) s (fun _ t => t.items = cs) (fun _ t => t.items = s.items) ∧
      (s.due .reorder = none → s.reorders = true → (run (reorder order) s).1.isOk =
        (run save { s.begun .reorder with items := cs }).1.isOk) ∧
      (∀ u, Reachable u → u.items = cs →
        Ends (reorder order) u (fun _ v => v.items = cs) (fun _ v => v.items = cs)) ∧
      ∀ current, IdsOf current s.items →
        Ends (reorder current) s (fun _ t => t.items = s.items) (fun _ t => t.items = s.items) := by
  have hs := h.orderly
  have hordered := reordered_arranged hs.sound.toNamed order
  refine ⟨_, fun ds => ⟨fun hds => hds.unique hordered, fun hds => hds ▸ hordered⟩,
    (ends_reorder hs order).mono (fun _ _ ht => ht.items) fun _ _ ht => ht.items, ?_, ?_, ?_⟩
  · intro hdue hreorders
    rw [run_reorder hdue hreorders, run_commit]
    rcases run save { s.begun .reorder with items := numbered (arranged order s.items) }
      with ⟨x, t⟩
    cases x with
    | ok _ => rfl
    | error f => rfl
  · intro u hu hitems
    refine (ends_reorder hu.orderly order).mono (fun _ v hv => ?_) fun _ v hv =>
      hv.items.trans hitems
    have hagain := reordered_arranged hu.orderly.sound.toNamed order
    rw [← hv.items, hitems] at hagain
    exact hagain.unique hordered.again
  · intro current hcurrent
    refine (ends_reorder hs current).mono (fun _ t ht => ?_) fun _ t ht => ht.items
    rw [ht.items, hcurrent.arranged hs.sound]

/-- The last two of four bookmarks are asked for, the last one twice and one that is unknown. -/
theorem stray_reordered :
    ids (run (reorder ["xxx", "y", "a", "xxx"]) strayPatched).2.items =
        [some "xxx", some "a", some "x", some "xx"] ∧
      ∃ cs, (∀ ds, Reordered ["xxx", "y", "a", "xxx"] strayPatched.items ds ↔ ds = cs) ∧
        Ends (reorder ["xxx", "y", "a", "xxx"]) strayPatched (fun _ t => t.items = cs)
          (fun _ t => t.items = strayPatched.items) ∧
        (strayPatched.due .reorder = none → strayPatched.reorders = true →
          (run (reorder ["xxx", "y", "a", "xxx"]) strayPatched).1.isOk =
            (run save { strayPatched.begun .reorder with items := cs }).1.isOk) ∧
        (∀ u, Reachable u → u.items = cs → Ends (reorder ["xxx", "y", "a", "xxx"]) u
          (fun _ v => v.items = cs) (fun _ v => v.items = cs)) ∧
        ∀ current, IdsOf current strayPatched.items →
          Ends (reorder current) strayPatched (fun _ t => t.items = strayPatched.items)
            (fun _ t => t.items = strayPatched.items) :=
  ⟨by decide +kernel, reorder_once strayPatched_reachable _⟩

end LinkShelf.Shelf
