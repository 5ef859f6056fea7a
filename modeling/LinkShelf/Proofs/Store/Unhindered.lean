import LinkShelf.Proofs.Store.Trouble
/-!
Removals in whose way nothing stands: every call goes through, and all that is to be removed is.
For a shelf in memory it is enough that nothing is due to fail and that all of it is there.
-/
namespace LinkShelf.Shelf

open LinkShelf.Act

variable {s t : Shelf} {c : Call} {α : Type} {id : String} {targets gone : List String}
  {bs : List Bookmark}

/-- No call fails that is made to remove several bookmarks, nor the one for the collection after
them. -/
def Unhindered (targets : List String) (s : Shelf) : Prop :=
  Ends (removeAll targets) s
    (fun r t => r.failures = [] ∧ Ends list t (fun _ _ => True) fun _ _ => False)
    fun _ _ => False

theorem Removes.all (h : Removes targets gone [] s t) : gone = targets := by
  generalize hlost : ([] : List (String × String)) = lost at h
  induction h with
  | nil => rfl
  | gone _ _ ih => rw [ih hlost]
  | kept => cases hlost

theorem Unhindered.removes (hs : Orderly s) (h : Unhindered targets s) :
    Ends (removeAll targets) s
      (fun r t => r.succeeded = targets.length ∧ Removes targets targets [] s t ∧
        Ends list t (fun _ _ => True) fun _ _ => False)
      fun _ _ => False := by
  refine (Ends.and h (ends_removeAll_each targets hs)).mono ?_ fun _ _ h => h.1
  rintro _ t ⟨⟨hnone, hlist⟩, gone, lost, hremoves, rfl⟩
  have hlost : lost = [] := hnone
  subst hlost
  obtain rfl := hremoves.all
  exact ⟨Nat.zero_add _, hremoves, hlist⟩

/-- A shelf in memory, with no failure due. -/
structure Quiet (s : Shelf) : Prop where
  medium : s.medium = .memory
  due : ∀ c f, some f ∉ s.outages c

section Quiet

theorem Quiet.meeting {act : Act α} {ok : α → Shelf → Prop} {bad : Fault → Shelf → Prop}
    (hs : Quiet s) (h : ∀ t, Met s t → Quiet t → Ends act t ok bad) :
    Ends (meeting c act) s ok bad := by
  unfold Shelf.meeting
  rw [ends_get_bind]
  cases hout : s.outages c with
  | nil => exact h s rfl hs
  | cons outcome rest =>
    have hsuffix := suffix_setOutages (s := s) (hout ▸ List.suffix_cons outcome rest)
    have hrest : Quiet (s.setOutages c rest) :=
      ⟨hs.medium, fun d f hf => hs.due d f ((hsuffix d).subset hf)⟩
    simp only [ends_modify_bind]
    cases outcome with
    | none => exact h _ rfl hrest
    | some f => exact absurd (hout ▸ List.mem_cons_self) (hs.due c f)

theorem quiet_save (hs : Quiet s) : Ends save s (fun _ t => Quiet t ∧ t.items = s.items)
    (fun _ _ => False) := by
  refine hs.meeting fun t hmet ht => ?_
  rw [ends_get_bind, ht.medium]
  exact ⟨ht, hmet.kept.items⟩

theorem quiet_commit (hs : Quiet s) (bs : List Bookmark) :
    Ends (commit bs) s (fun _ t => Quiet t) (fun _ _ => False) := by
  unfold commit
  rw [ends_get_bind]
  unfold place
  rw [ends_modify_bind]
  have hplaced : Quiet { s with items := numbered bs } := ⟨hs.medium, hs.due⟩
  refine ((quiet_save hplaced).tryCatch fun _ _ h => h.elim).bind fun _ t ht => ?_
  unfold notify
  rw [ends_modify]
  exact ⟨ht.1.medium, ht.1.due⟩

/-- What is on a shelf can be removed from it. -/
theorem quiet_remove (hs : Quiet s) (hid : some id ∈ ids s.items) :
    Ends (remove id) s (fun _ t => Quiet t) (fun _ _ => False) := by
  refine hs.meeting fun t hmet ht => ?_
  refine ends_lookUp_bind (fun b _ => ?_) fun hnone => ?_
  · rw [ends_get_bind]
    exact quiet_commit ht _
  · rw [← hmet.kept.items] at hid
    obtain ⟨b, hb, hbid⟩ := List.mem_map.mp hid
    exact absurd (hasId_iff.mpr hbid) (List.find?_eq_none.mp hnone b hb)

theorem Write.Done.others {other : String} (h : (Write.remove id).Done s t) (hne : other ≠ id)
    (hother : some other ∈ ids s.items) : some other ∈ ids t.items := by
  obtain ⟨_, ⟨xs, b, ys, hsplit, hid, rfl⟩, hc⟩ := h
  rw [hc.items, ids_numbered]
  rw [hsplit] at hother
  simp only [ids, List.map_append, List.map_cons, List.mem_append, List.mem_cons] at hother ⊢
  rcases hother with hx | hb | hy
  · exact .inl hx
  · exact absurd (Option.some.inj (hb.trans hid)) hne
  · exact .inr hy

theorem quiet_removeEach (ho : Orderly s) (hs : Quiet s) (hdistinct : targets.Nodup)
    (hthere : ∀ id ∈ targets, some id ∈ ids s.items) (r : Removal) :
    Ends (targets.foldlM removeOne r) s (fun r' t => r'.failures = r.failures ∧ Quiet t)
      (fun _ _ => False) := by
  induction targets generalizing r s with
  | nil => exact ⟨rfl, hs⟩
  | cons id targets ih =>
    obtain ⟨hnew, hdistinct⟩ := List.nodup_cons.mp hdistinct
    have hremove := (quiet_remove hs (hthere id List.mem_cons_self)).and (ends_remove ho)
    have hone : Ends (removeOne r id) s
        (fun r' t => r'.failures = r.failures ∧ Quiet t ∧ (Write.remove id).Done s t)
        (fun _ _ => False) := by
      refine (ends_accounted hremove r).mono ?_ fun _ _ h => h.2.1
      rintro r' t (⟨ht, rfl⟩ | ⟨_, ⟨hno, -⟩, -⟩)
      · exact ⟨List.append_nil _, ht⟩
      · exact hno.elim
    rw [List.foldlM_cons]
    refine hone.bind ?_
    rintro r' t ⟨hr', ht, hdone⟩
    have hto : Orderly t := hdone.orderly ho (unused_nil _ _)
    have hrest : ∀ other ∈ targets, some other ∈ ids t.items := fun other hother =>
      hdone.others (fun he => hnew (he ▸ hother)) (hthere other (List.mem_cons_of_mem id hother))
    rw [← hr']
    exact ih hto ht hdistinct hrest r'

/-- In memory, with no failure due, everything that is there can be removed. -/
theorem unhindered_quiet (ho : Orderly s) (hs : Quiet s) (hdistinct : targets.Nodup)
    (hthere : ∀ id ∈ targets, some id ∈ ids s.items) : Unhindered targets s := by
  refine hs.meeting fun t hmet ht => ?_
  rw [← hmet.kept.items] at hthere
  refine (quiet_removeEach (hmet.orderly ho) ht hdistinct hthere {}).mono ?_ fun _ _ h => h
  rintro r u ⟨hr, hu⟩
  exact ⟨hr, hu.meeting fun w _ _ => by rw [ends_get_bind]; trivial⟩

end Quiet

end LinkShelf.Shelf
