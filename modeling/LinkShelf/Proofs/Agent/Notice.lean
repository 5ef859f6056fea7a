import LinkShelf.Agent.Session
import LinkShelf.Proofs.Store.Reach
/-!
What the agent hears of its shelf. Whatever is done to the shelf, and whether it succeeds, fails or
stops part way: whoever had the collection before and goes by the notices alone has it after.
-/
namespace LinkShelf.Session

open LinkShelf.Act
open LinkShelf.Shelf (Setup Kept Committed Orderly Removed Write Op Unused)

variable {s t u : Shelf} {bs : List Bookmark}

theorem lastHeard_append (earlier later : List Notice) :
    lastHeard (earlier ++ later) = (lastHeard later).or (lastHeard earlier) := by
  unfold lastHeard
  rw [List.filter_append, List.getLast?_append]
  cases (later.filter (·.listener = .agent)).getLast? <;> rfl

theorem lastHeard_told {listeners : List Listener} (h : .agent ∈ listeners) (bs : List Bookmark) :
    lastHeard (listeners.map fun l => ⟨l, bs⟩) = some bs := by
  let notices : List Notice := listeners.map fun l => ⟨l, bs⟩
  have hmem : ⟨.agent, bs⟩ ∈ notices.filter (·.listener = .agent) :=
    List.mem_filter.mpr ⟨List.mem_map.mpr ⟨_, h, rfl⟩, by simp⟩
  obtain ⟨last, hlast⟩ := Option.ne_none_iff_exists'.mp
    fun hnone => List.ne_nil_of_mem hmem (List.getLast?_eq_none_iff.mp hnone)
  obtain ⟨l, -, hl⟩ := List.mem_map.mp (List.mem_filter.mp (List.mem_of_getLast? hlast)).1
  unfold lastHeard
  rw [hlast, ← hl]
  rfl

/-- The notices sent from one shelf to another tell the collection. -/
structure Told (s t : Shelf) : Prop where
  setup : Setup s t
  orderly : Orderly t
  news : ∃ news, t.notices = s.notices ++ news ∧ (lastHeard news).getD s.items = t.items

theorem Told.of_kept (hs : Orderly s) (h : Kept s t) : Told s t := by
  refine ⟨h.toSetup, h.orderly hs, [], ?_, h.items.symm⟩
  rw [h.notices, List.append_nil]

theorem Told.of_committed (hl : .agent ∈ s.listeners) (h : Committed bs s t) (ht : Orderly t) :
    Told s t := by
  refine ⟨h.toSetup, ht, _, h.notices, ?_⟩
  rw [lastHeard_told hl, h.items, Option.getD_some]

theorem Told.trans (h : Told s t) (h' : Told t u) : Told s u := by
  obtain ⟨earlier, hearlier, hitems⟩ := h.news
  obtain ⟨later, hlater, hitems'⟩ := h'.news
  refine ⟨h.setup.trans h'.setup, h'.orderly, earlier ++ later, ?_, ?_⟩
  · rw [hlater, hearlier, List.append_assoc]
  · rw [lastHeard_append, ← hitems', ← hitems]
    cases lastHeard later <;> rfl

theorem Told.of_done {w : Write} (hs : Orderly s) (hl : .agent ∈ s.listeners)
    (hw : Unused s.supply s.drawn w.brings) (h : w.Done s t) : Told s t := by
  have ht := h.orderly hs hw
  obtain ⟨bs, -, hc⟩ := h
  exact .of_committed hl hc ht

/-- Each of several removals is told, up to the one that stops them. -/
theorem told_removeEach (targets : List String) (hs : Orderly s) (hl : .agent ∈ s.listeners)
    (r : Removal) : Ends (targets.foldlM Shelf.removeOne r) s (fun _ t => Told s t)
      (fun _ t => Told s t) := by
  induction targets generalizing r s with
  | nil => exact .of_kept hs (.refl s)
  | cons id targets ih =>
    rw [List.foldlM_cons]
    have hone : Ends (Shelf.removeOne r id) s (fun _ t => Told s t) (fun _ t => Told s t) := by
      refine (Shelf.ends_removeOne hs r).mono ?_ fun _ t ht => .of_kept hs ht
      rintro r' t (⟨ht, -⟩ | ⟨ht, -⟩)
      · exact .of_done hs hl (Shelf.unused_nil _ _) ht
      · exact .of_kept hs ht
    refine hone.bind fun r' t ht => ?_
    have hlt : .agent ∈ t.listeners := ht.setup.listeners ▸ hl
    exact (ih ht.orderly hlt r').mono (fun _ _ hu => ht.trans hu) fun _ _ hu => ht.trans hu

theorem told_removeAll (targets : List String) (hs : Orderly s) (hl : .agent ∈ s.listeners) :
    Ends (Shelf.removeAll targets) s (fun _ t => Told s t) (fun _ t => Told s t) := by
  refine Shelf.ends_meeting (fun u hu => ?_) fun _ t ht => .of_kept hs ht.kept
  have hus := Told.of_kept hs hu.kept
  have hlu : .agent ∈ u.listeners := hu.kept.listeners ▸ hl
  exact (told_removeEach targets hus.orderly hlu {}).mono (fun _ _ h => hus.trans h)
    fun _ _ h => hus.trans h

theorem told_saveOrder (c : Criterion) (hs : Orderly s) (hl : .agent ∈ s.listeners) :
    Ends (Shelf.saveOrder c) s (fun _ t => Told s t) (fun _ t => Told s t) :=
  (Shelf.ends_saveOrder hs c).mono
    (fun _ _ h => .of_done hs hl (Shelf.unused_nil _ _) (h.reordered hs))
    fun _ _ h => .of_kept hs h

/-- What is done to a shelf is told, unless it is to read the file anew. -/
theorem told_op {o : Op} (ho : o ≠ .load) (hs : Orderly s) (hl : .agent ∈ s.listeners)
    (hbrings : Unused s.supply s.drawn (o.brings s)) :
    Ends o.act s (fun _ t => Told s t) (fun _ t => Told s t) := by
  cases o with
  | load => exact (ho rfl).elim
  | list =>
    exact ((Shelf.ends_list s).mono (fun _ _ h => .of_kept hs h.2) fun _ _ h =>
      .of_kept hs h).bind fun _ _ h => h
  | fetch id =>
    exact ((Shelf.ends_fetch s).mono (fun _ _ h => .of_kept hs h.2) fun _ _ h =>
      .of_kept hs h).bind fun _ _ h => h
  | write w =>
    exact (Shelf.ends_write w hs hbrings).mono (fun _ _ h => .of_done hs hl hbrings h)
      fun _ _ h => .of_kept hs h
  | removeAll targets => exact (told_removeAll targets hs hl).bind fun _ _ h => h
  | saveOrder c => exact (told_saveOrder c hs hl).bind fun _ _ h => h

end LinkShelf.Session
