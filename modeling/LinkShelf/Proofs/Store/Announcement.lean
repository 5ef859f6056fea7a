import LinkShelf.Proofs.Store.Reach
/-!
Who is told what. In whatever state a shelf is, a write that succeeds tells each listener once, in
their order, what the collection has become; a write that fails tells nobody. Several removals are
told one by one.
-/
namespace LinkShelf.Shelf

open LinkShelf.Act

variable {s t u : Shelf} {bs : List Bookmark} {id now : String}

/-- Nobody was told anything. -/
structure Silent (s t : Shelf) : Prop where
  listeners : t.listeners = s.listeners
  notices : t.notices = s.notices

/-- Each listener was told, in their order, the collection that there is now. -/
structure Announced (s t : Shelf) : Prop where
  listeners : t.listeners = s.listeners
  notices : t.notices = s.notices ++ s.listeners.map fun l => ⟨l, t.items⟩

theorem Silent.refl (s : Shelf) : Silent s s := ⟨rfl, rfl⟩

theorem Silent.trans (h : Silent s t) (h' : Silent t u) : Silent s u :=
  ⟨h'.listeners.trans h.listeners, h'.notices.trans h.notices⟩

theorem Silent.announced (h : Silent s t) (h' : Announced t u) : Announced s u :=
  ⟨h'.listeners.trans h.listeners, by rw [h'.notices, h.notices, h.listeners]⟩

theorem Kept.silent (h : Kept s t) : Silent s t := ⟨h.listeners, h.notices⟩

section Commit

theorem announced_commit (bs : List Bookmark) (s : Shelf) : Ends (commit bs) s
    (fun _ t => Announced s t ∧ t.items = numbered bs) (fun _ t => Silent s t) := by
  let placed : Shelf := { s with items := numbered bs }
  have hsave : Ends (tryCatch save fun f => do place s.items; throw f) placed
      (fun _ t => Silent s t ∧ t.items = numbered bs) (fun _ t => Silent s t) := by
    have hsave : Ends save placed (fun _ t => Silent s t ∧ t.items = numbered bs)
        (fun _ t => Silent s t) := by
      refine (ends_save placed).mono ?_ fun _ t ht => ⟨ht.listeners, ht.notices⟩
      rintro _ t ⟨hsetup, hitems, hnotices, -⟩
      exact ⟨⟨hsetup.listeners, hnotices⟩, hitems⟩
    refine hsave.tryCatch fun f t ht => ?_
    unfold place
    rw [ends_modify_bind, ends_throw]
    exact ⟨ht.listeners, ht.notices⟩
  unfold commit
  rw [ends_get_bind]
  unfold place
  rw [ends_modify_bind]
  refine hsave.bind ?_
  rintro _ t ⟨ht, hitems⟩
  unfold notify
  rw [ends_modify]
  refine ⟨⟨ht.listeners, ?_⟩, hitems⟩
  simp only [ht.notices, ht.listeners]

/-- A commit, after nobody was told anything. -/
theorem Silent.commit (h : Silent s t) (bs : List Bookmark) : Ends (commit bs) t
    (fun _ u => Announced s u ∧ u.items = numbered bs) (fun _ u => Silent s u) :=
  (announced_commit bs t).mono (fun _ _ hu => ⟨h.announced hu.1, hu.2⟩) fun _ _ hu => h.trans hu

end Commit

section Write

theorem announced_create (now : String) (b : Bookmark) (s : Shelf) : Ends (create now b) s
    (fun _ t => Announced s t) (fun _ t => Silent s t) := by
  refine ends_meeting (fun u hu => ?_) fun _ _ hu => hu.kept.silent
  rw [ends_get_bind]
  refine (ends_idFor u.items b).bind fun id t ht => ?_
  refine ((hu.kept.trans ht.2.kept).silent.commit _).bind fun _ v hv => ?_
  unfold newest
  rw [ends_get_bind]
  exact hv.1

theorem announced_update (now id : String) (patch : Members) (s : Shelf) :
    Ends (update now id patch) s (fun _ t => Announced s t) (fun _ t => Silent s t) := by
  refine ends_meeting (fun u hu => ?_) fun _ _ hu => hu.kept.silent
  refine ends_lookUp_bind (fun b hb => ?_) fun _ => hu.kept.silent
  refine ends_lift_bind (fun c hc => ?_) fun _ _ => hu.kept.silent
  rw [ends_get_bind]
  refine (hu.kept.silent.commit _).bind fun _ t ht => ends_lookUp (fun _ _ => ht.1) fun hnone => ?_
  -- What was put in the place of the bookmark is found under its id.
  obtain ⟨xs, ys, hsplit, hid⟩ := find?_hasId hb
  have hfound : some id ∈ ids t.items := by
    rw [ht.2, ids_numbered, hsplit]
    simp [ids, hasId_iff.mpr hid, (Bookmark.patch_ok hc).1, hid]
  obtain ⟨x, hx, hxid⟩ := List.mem_map.mp hfound
  exact absurd (hasId_iff.mpr hxid) (List.find?_eq_none.mp hnone x hx)

theorem announced_remove (id : String) (s : Shelf) : Ends (remove id) s
    (fun _ t => Announced s t) (fun _ t => Silent s t) := by
  refine ends_meeting (fun u hu => ?_) fun _ _ hu => hu.kept.silent
  refine ends_lookUp_bind (fun b _ => ?_) fun _ => hu.kept.silent
  rw [ends_get_bind]
  exact (hu.kept.silent.commit _).mono (fun _ _ h => h.1) fun _ _ h => h

theorem announced_replaceAll (bs : List Bookmark) (s : Shelf) : Ends (replaceAll bs) s
    (fun _ t => Announced s t) (fun _ t => Silent s t) := by
  refine ends_meeting (fun u hu => ?_) fun _ _ hu => hu.kept.silent
  refine (ends_identify bs u).bind fun cs t ht => ?_
  refine ((hu.kept.trans ht.2.kept).silent.commit cs).bind fun _ v hv => ?_
  rw [ends_get_bind]
  exact hv.1

theorem announced_reorder (order : List String) (s : Shelf) : Ends (reorder order) s
    (fun _ t => Announced s t) (fun _ t => Silent s t) := by
  refine ends_meeting (fun u hu => ?_) fun _ _ hu => hu.kept.silent
  rw [ends_get_bind]
  cases hr : u.reorders with
  | false => simpa [hr] using hu.kept.silent
  | true =>
    simp only [if_true]
    exact (hu.kept.silent.commit _).mono (fun _ _ h => h.1) fun _ _ h => h

/-- An order that is stored, after nobody was told anything. -/
theorem Silent.ordered (h : Silent s t) (order : List String) :
    Ends (do reorder order; pure order) t (fun _ u => Announced s u) (fun _ u => Silent s u) :=
  ((announced_reorder order t).mono (fun _ _ hu => h.announced hu) fun _ _ hu =>
    h.trans hu).bind fun _ _ hu => hu

theorem announced_saveSorted (c : Criterion) (s : Shelf) : Ends (saveSorted c) s
    (fun _ t => Announced s t) (fun _ t => Silent s t) := by
  refine ends_meeting (fun u hu => ?_) fun _ _ hu => hu.kept.silent
  have hlist := (ends_list u).mono (fun _ _ h => (hu.kept.trans h.2).silent) fun _ _ h =>
    (hu.kept.trans h).silent
  refine hlist.bind fun bs t ht => ?_
  exact ends_lift_bind (fun order _ => ht.ordered order) fun _ _ => ht

/-- A write is announced, or nobody is told anything. -/
theorem announced_write (w : Write) (s : Shelf) : Ends w.act s (fun _ t => Announced s t)
    (fun _ t => Silent s t) := by
  cases w with
  | create now b => exact (announced_create now b s).bind fun _ _ h => h
  | update now id patch => exact (announced_update now id patch s).bind fun _ _ h => h
  | remove id => exact announced_remove id s
  | replaceAll bs => exact (announced_replaceAll bs s).bind fun _ _ h => h
  | reorder order => exact announced_reorder order s
  | saveSorted c => exact (announced_saveSorted c s).bind fun _ _ h => h

theorem announced_saveOrder (c : Criterion) (s : Shelf) : Ends (saveOrder c) s
    (fun _ t => Announced s t) (fun _ t => Silent s t) := by
  have hanyway : Ends (saveOrderAnyway c) s (fun _ t => Announced s t)
      (fun _ t => Silent s t) := by
    have hlist := (ends_list s).mono (fun _ _ h => h.2.silent) fun _ _ h => h.silent
    refine hlist.bind fun bs t ht => ?_
    refine ends_lift_bind (fun order _ => ?_) fun _ _ => ht
    refine (ht.ordered order).tryCatch fun f v hv => ?_
    by_cases hf : f.family? = some .unsupported
    · rw [if_pos hf]
      exact (announced_saveSorted c v).mono (fun _ _ h => hv.announced h) fun _ _ h => hv.trans h
    · rw [if_neg hf]
      exact hv
  unfold saveOrder
  rw [ends_get_bind]
  exact hanyway.tryCatch fun _ _ h => h

end Write

section Removal

/-- Some changes were announced one after the other, and between them nobody was told anything;
so many of them. -/
inductive Rounds : Nat → Shelf → Shelf → Prop where
  | none {s t : Shelf} (h : Silent s t) : Rounds 0 s t
  | round {s t u : Shelf} {n : Nat} (h : Announced s t) (hrest : Rounds n t u) :
      Rounds (n + 1) s u

theorem Silent.rounds {n : Nat} (h : Silent s t) (hu : Rounds n t u) : Rounds n s u := by
  cases hu with
  | none hu => exact .none (h.trans hu)
  | round hu hrest => exact .round (h.announced hu) hrest

theorem announced_removeOne (r : Removal) (id : String) (s : Shelf) : Ends (removeOne r id) s
    (fun r' t => Announced s t ∧ r'.succeeded = r.succeeded + 1 ∨
      Silent s t ∧ r'.succeeded = r.succeeded) (fun _ t => Silent s t) := by
  refine (ends_accounted (announced_remove id s) r).mono ?_ fun _ _ h => h.2
  rintro r' t (⟨ht, rfl⟩ | ⟨_, ht, rfl⟩)
  · exact .inl ⟨ht, rfl⟩
  · exact .inr ⟨ht, rfl⟩

theorem rounds_removeEach (targets : List String) (r : Removal) (s : Shelf) :
    Ends (targets.foldlM removeOne r) s
      (fun r' t => ∃ n, Rounds n s t ∧ r'.succeeded = r.succeeded + n)
      (fun _ t => ∃ n, Rounds n s t) := by
  induction targets generalizing r s with
  | nil => exact ⟨0, .none (.refl s), rfl⟩
  | cons id targets ih =>
    rw [List.foldlM_cons]
    refine ((announced_removeOne r id s).mono (fun _ _ h => h) fun _ _ h =>
      ⟨0, .none h⟩).bind ?_
    rintro r' t (⟨ht, hr⟩ | ⟨ht, hr⟩)
    · refine (ih r' t).mono ?_ fun _ _ ⟨n, hn⟩ => ⟨n + 1, .round ht hn⟩
      rintro r'' u ⟨n, hn, hcount⟩
      exact ⟨n + 1, .round ht hn, by omega⟩
    · refine (ih r' t).mono ?_ fun _ _ ⟨n, hn⟩ => ⟨n, ht.rounds hn⟩
      rintro r'' u ⟨n, hn, hcount⟩
      exact ⟨n, ht.rounds hn, by omega⟩

/-- Removing several bookmarks announces each that is removed, also if it stops part way. -/
theorem rounds_removeAll (targets : List String) (s : Shelf) : Ends (removeAll targets) s
    (fun r t => Rounds r.succeeded s t) (fun _ t => ∃ n, Rounds n s t) := by
  refine ends_meeting (fun u hu => ?_) fun _ _ hu => ⟨0, .none hu.kept.silent⟩
  refine (rounds_removeEach targets {} u).mono ?_ fun _ _ ⟨n, hn⟩ =>
    ⟨n, hu.kept.silent.rounds hn⟩
  rintro r t ⟨n, hn, hcount⟩
  obtain rfl : r.succeeded = n := by
    rw [hcount]
    exact Nat.zero_add n
  exact hu.kept.silent.rounds hn

end Removal

/-- What is told of the changes of a shelf, whether they succeed or fail. -/
structure Announces (s : Shelf) : Prop where
  write : ∀ w : Write, Ends w.act s (fun _ t => Announced s t) (fun _ t => Silent s t)
  saveOrder : ∀ c, Ends (saveOrder c) s (fun _ t => Announced s t) (fun _ t => Silent s t)
  removeAll : ∀ targets, Ends (removeAll targets) s (fun r t => Rounds r.succeeded s t)
    (fun _ t => ∃ n, Rounds n s t)

theorem announces (s : Shelf) : Announces s :=
  ⟨fun w => announced_write w s, fun c => announced_saveOrder c s, fun targets =>
    rounds_removeAll targets s⟩

theorem Rounds.listeners {n : Nat} (h : Rounds n s t) : t.listeners = s.listeners := by
  induction h with
  | none h => exact h.listeners
  | round h _ ih => exact ih.trans h.listeners

/-- Who listens is not changed by anything that is done to the collection. -/
theorem listeners_op (o : Op) (s : Shelf) : Ends o.act s (fun _ t => t.listeners = s.listeners)
    (fun _ t => t.listeners = s.listeners) := by
  cases o with
  | load => exact (ends_load s).mono (fun _ _ h => h.listeners) fun _ _ h => h.listeners
  | list =>
    exact ((ends_list s).mono (fun _ _ h => h.2.listeners) fun _ _ h => h.listeners).discard
  | fetch id =>
    exact ((ends_fetch s).mono (fun _ _ h => h.2.listeners) fun _ _ h => h.listeners).discard
  | write w =>
    exact (announced_write w s).mono (fun _ _ h => h.listeners) fun _ _ h => h.listeners
  | removeAll targets =>
    exact ((rounds_removeAll targets s).mono (fun _ _ h => h.listeners) fun _ _ ⟨_, h⟩ =>
      h.listeners).discard
  | saveOrder c =>
    exact ((announced_saveOrder c s).mono (fun _ _ h => h.listeners) fun _ _ h =>
      h.listeners).discard

end LinkShelf.Shelf
