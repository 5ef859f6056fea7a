import LinkShelf.Proofs.Exchange.Reimport
import LinkShelf.Proofs.Store.Reach
/-!
What a shelf finds when it is opened on the file that another one has written: the collection of
that other shelf, every bookmark reread.
-/
namespace LinkShelf.Shelf

open LinkShelf.Act

variable {s t u : Shelf} {bs cs : List Bookmark} {b c : Bookmark} {path : Path}
  {indent : Json.Indent}

section Reading

/-- A collection whose bookmarks can all be read back. -/
structure Readable (bs : List Bookmark) : Prop extends Sound bs where
  typed : ∀ b ∈ bs, b.Typed

theorem Readable.plain (h : Readable bs) :
    Json.plain (.arr (bs.map Bookmark.toJson)) = true :=
  Exchange.plain_records fun b hb => Bookmark.plain_record (h.typed b hb)

theorem Readable.ofRecord (h : Readable bs) (hb : b ∈ bs) :
    Bookmark.ofRecord b.record = .ok b.reread := by
  obtain ⟨id, hid, hne⟩ := h.filled b hb
  refine Bookmark.ofRecord_record (h.typed b hb) (h.formed b hb) fun he => hne ?_
  exact Option.some.inj (hid.symm.trans he)

theorem stored_of_find (hbs : Readable bs)
    (hf : u.disk.find path = .ok (.file (Exchange.toJsonText indent bs))) :
    u.stored path = .ok (bs.map Bookmark.reread) := by
  have hexists : u.disk.exists? path = .ok true := by
    rw [Disk.exists?, hf]
  have htext : u.disk.readText path = .ok (Exchange.toJsonText indent bs) := by
    have hreturn : '\r' ∉ (Exchange.toJsonText indent bs).toList := by
      rw [Exchange.toJsonText, Json.render, String.toList_ofList]
      exact Json.return_not_mem_write indent _ 0 hbs.plain
    rw [Disk.readText, hf]
    simp only [Disk.unifyLines_eq hreturn, String.ofList_toList]
  have hitems : u.readItems path = .ok (bs.map Bookmark.toJson) := by
    rw [readItems, htext]
    simp only [Exchange.toJsonText, Json.parse_render hbs.plain]
    rfl
  rw [stored, hexists]
  refine bind_eq_ok.mpr ⟨true, rfl, ?_⟩
  rw [if_pos rfl, hitems]
  exact Exchange.ofItems_records fun b hb => hbs.ofRecord hb

theorem reread_formed (b : Bookmark) (hf : b.formed = b) : b.reread.formed = b.reread := by
  rw [Bookmark.formed_iff] at hf ⊢
  exact ⟨hf.1, Bookmark.clean_not_blank [] b.tags⟩

theorem numbered_reread (bs : List Bookmark) :
    numbered (bs.map Bookmark.reread) = (numbered bs).map Bookmark.reread := by
  apply List.ext_getElem?
  intro i
  simp only [numbered_getElem?, List.getElem?_map, Option.map_map]
  rfl

theorem Sound.reread (h : Sound bs) : Sound (bs.map Bookmark.reread) := by
  have hids : ids (bs.map Bookmark.reread) = ids bs := by
    simp [ids, Bookmark.reread]
  refine ⟨⟨?_, hids ▸ h.distinct, ?_⟩, ?_⟩
  · intro x hx
    obtain ⟨b, hb, rfl⟩ := List.mem_map.mp hx
    exact h.filled b hb
  · intro x hx
    obtain ⟨b, hb, rfl⟩ := List.mem_map.mp hx
    exact reread_formed b (h.formed b hb)
  · rw [numbered_reread, h.placed]

theorem Identified.same {supply : Nat → String} {seen : List String} {n m : Nat}
    (h : Identified supply seen n bs cs m)
    (hnew : ∀ b ∈ bs, ∃ id, b.id = some id ∧ id ≠ "" ∧ id ∉ seen) (hd : (ids bs).Nodup)
    (hf : ∀ b ∈ bs, b.formed = b) : cs = bs ∧ m = n := by
  induction h with
  | nil => exact ⟨rfl, rfl⟩
  | @keep seen n m b bs cs id given filled new rest ih =>
    obtain ⟨hb, hd⟩ := List.nodup_cons.mp hd
    have hrest : ∀ c ∈ bs, ∃ i, c.id = some i ∧ i ≠ "" ∧ i ∉ id :: seen := by
      intro c hc
      obtain ⟨i, hi, hne, hs⟩ := hnew c (by simp [hc])
      refine ⟨i, hi, hne, ?_⟩
      rw [List.mem_cons, not_or]
      refine ⟨fun he => hb ?_, hs⟩
      have hid : c.id = b.id := by rw [given, hi, he]
      exact List.mem_map.mpr ⟨c, hc, hid⟩
    obtain ⟨hcs, hm⟩ := ih hrest hd fun c hc => hf c (by simp [hc])
    have hsame : b.underId id = b := by
      rw [Bookmark.underId, hf b (by simp), ← given]
    rw [hsame, hcs]
    exact ⟨rfl, hm⟩
  | @draw seen n m b bs cs given rest ih =>
    obtain ⟨i, hi, hne, hs⟩ := hnew b (by simp)
    rw [hi, Option.getD_some] at given
    exact (given.elim hne hs).elim

theorem Sound.identify (h : Sound bs) (u : Shelf) : run (identify [] bs) u = (.ok bs, u) := by
  obtain ⟨cs, m, hrun, hcs⟩ := identify_run bs [] u
  have hnew : ∀ b ∈ bs, ∃ id, b.id = some id ∧ id ≠ "" ∧ id ∉ [] := by
    intro b hb
    obtain ⟨id, hid, hne⟩ := h.filled b hb
    exact ⟨id, hid, hne, by simp⟩
  obtain ⟨hsame, hm⟩ := hcs.same hnew h.distinct h.formed
  rw [hrun, hsame, hm]

theorem run_meeting {α : Type} {c : Call} (act : Act α) (h : u.outages c = []) :
    run (meeting c act) u = run act u := by
  unfold meeting
  simp only [run, run_bind, run_get, h]

theorem run_list (h : u.outages .list = []) : run list u = (.ok u.items, u) := by
  rw [list, run_meeting _ h]
  rfl

/-- Opened on the file of a collection, a shelf holds its bookmarks, reread. -/
theorem load_found {opened : Json.Indent} (hbs : Readable bs) (hm : u.medium = .file path opened)
    (hcalm : u.outages .load = [])
    (hf : u.disk.find path = .ok (.file (Exchange.toJsonText indent bs))) :
    run load u = (.ok (), { u with items := bs.map Bookmark.reread }) := by
  have hsound := hbs.toSound.reread
  rw [load, run_meeting _ hcalm]
  simp only [run, run_bind, run_get, hm]
  rw [run_lift, stored_of_find hbs hf]
  simp only [hsound.identify u]
  rw [place, run_modify, hsound.placed]
  simp only [hm]

end Reading

section Runs

/-- Every bookmark and every patch that comes with an operation gives each field a value of the
declared type. -/
def Op.Declares (o : Op) (s : Shelf) : Prop :=
  (∀ b ∈ o.brings s, b.Typed) ∧
    match o with
    | .write (.update _ _ patch) => Bookmark.TypedPatch patch
    | _ => True

/-- The states of a shelf that is given nothing but values of the declared types. -/
inductive Declared : Shelf → Prop where
  | new {s : Shelf} (h : New s) : Declared s
  | op {s t : Shelf} {r : Except Fault Unit} (h : Declared s) (o : Op)
      (ho : Unused s.supply s.drawn (o.brings s)) (hd : o.Declares s)
      (hrun : run o.act s = (r, t)) : Declared t
  | surroundings {s : Shelf} (h : Declared s) (disk : Disk)
      (outages : Call → List (Option Fault)) : Declared { s with disk, outages }
  | listeners {s : Shelf} (h : Declared s) (listeners : List Listener) :
      Declared { s with listeners }

theorem Declared.reachable (h : Declared s) : Reachable s := by
  induction h with
  | new h => exact .new h
  | op _ o ho _ hrun ih => exact ih.op o ho hrun
  | surroundings _ disk outages ih => exact ih.surroundings disk outages
  | listeners _ listeners ih => exact ih.listeners listeners

def AllTyped (bs : List Bookmark) : Prop := ∀ b ∈ bs, b.Typed

theorem AllTyped.numbered (h : AllTyped bs) : AllTyped (numbered bs) := by
  intro b hb
  obtain ⟨c, hc, i, rfl⟩ := mem_numbered hb
  exact (h c hc).placed i

theorem Entered.typed {supply : Nat → String} {n m : Nat} {before : List Bookmark}
    (h : Entered supply n m before b c) (hb : b.Typed) : c.Typed := by
  unfold Entered at h
  split at h
  · obtain ⟨k, -, -, rfl⟩ := h
    exact hb.underId _
  · rw [h]
    exact hb.formed

theorem EnteredAll.typed {supply : Nat → String} {n m : Nat} (h : EnteredAll supply n m bs cs)
    (hbs : AllTyped bs) : AllTyped cs := by
  intro c hc
  obtain ⟨i, hi⟩ := List.mem_iff_getElem?.mp hc
  have hlt : i < bs.length := by
    rw [← h.length]
    exact (List.getElem?_eq_some_iff.mp hi).1
  exact (h.each i _ c (List.getElem?_eq_getElem hlt) hi).typed (hbs _ (List.getElem_mem hlt))

theorem Write.Yields.typed {w : Write} (hs : AllTyped s.items) (hd : (Op.write w).Declares s)
    (h : w.Yields s t bs) : AllTyped bs := by
  obtain ⟨hbrings, hpatch⟩ := hd
  cases w with
  | create now b =>
    obtain ⟨c, hc, rfl⟩ := h
    have htyped := hc.typed (hbrings b (by simp [Op.brings, Write.brings]))
    intro x hx
    rcases List.mem_append.mp hx with hx | hx
    · exact hs x hx
    · rw [List.mem_singleton.mp hx]
      exact (htyped.created now).updated now
  | update now id patch =>
    obtain ⟨xs, b, ys, c, hsplit, hid, hc, -, rfl⟩ := h
    have hb : b.Typed := hs b (by simp [hsplit])
    intro x hx
    by_cases hxc : x = { c with updatedAt := .str now }
    · rw [hxc]
      exact (hb.patch hpatch hc).updated now
    · refine hs x ?_
      simp only [List.mem_append, List.mem_cons, hxc, false_or] at hx
      rw [hsplit]
      simp only [List.mem_append, List.mem_cons]
      tauto
  | remove id =>
    obtain ⟨xs, b, ys, hsplit, hid, rfl⟩ := h
    intro x hx
    refine hs x ?_
    rw [hsplit]
    simp only [List.mem_append, List.mem_cons] at hx ⊢
    tauto
  | replaceAll given => exact EnteredAll.typed h hbrings
  | reorder order | saveSorted c => exact fun x hx => hs x (h.subset hx)

theorem AllTyped.subset (h : AllTyped bs) (hcs : cs ⊆ bs) : AllTyped cs :=
  fun c hc => h c (hcs hc)

theorem Loaded.typed (hs : Orderly s) (ho : Unused s.supply s.drawn (found s))
    (hitems : AllTyped s.items) (hfound : AllTyped (found s)) (h : Loaded s t) :
    AllTyped t.items := by
  have ht := h.items
  unfold found at ho hfound
  cases hm : s.medium with
  | memory =>
    rw [hm] at ht
    rw [ht]
    exact hitems
  | file path indent =>
    simp only [hm] at ht ho hfound
    obtain ⟨bs, cs, hbs, hcs, ht⟩ := ht
    simp only [hbs, Except.toOption, Option.getD_some] at ho hfound
    rw [ht]
    exact ((hcs.enteredAll hs.fresh ho).typed hfound).numbered

theorem Op.Comes.typed {o : Op} (hs : Orderly s) (ho : Unused s.supply s.drawn (o.brings s))
    (hitems : AllTyped s.items) (hd : o.Declares s) (h : o.Comes s t) : AllTyped t.items := by
  cases h with
  | kept h =>
    rw [h.items]
    exact hitems
  | loaded h => exact h.typed hs ho hitems hd.1
  | written h =>
    obtain ⟨bs, hy, hc⟩ := h
    rw [hc.items]
    exact (hy.typed hitems hd).numbered
  | removed h =>
    obtain ⟨gone, -, hi⟩ := h.items
    rw [hi]
    exact (hitems.subset fun x hx => (List.mem_filter.mp hx).1).numbered
  | ordered h =>
    obtain ⟨bs, hy, hc⟩ := h
    rw [hc.items]
    exact (hitems.subset hy.subset).numbered

theorem Declared.typed (h : Declared s) : AllTyped s.items := by
  induction h with
  | new h => simp [AllTyped, h.items]
  | op hs o ho hd hrun ih =>
    have hord := hs.reachable.orderly
    exact ((ends_op o hord ho).state hrun).typed hord ho ih hd
  | surroundings _ _ _ ih => exact ih
  | listeners _ _ ih => exact ih

theorem Declared.readable (h : Declared s) : Readable s.items :=
  ⟨h.reachable.orderly.sound, h.typed⟩

/-- Something has been written, in the last place by this operation. -/
def Op.Wrote (o : Op) (s t : Shelf) : Prop :=
  match o with
  | .write w => run w.act s = (.ok (), t)
  | .removeAll targets => ∃ r, run (Shelf.removeAll targets) s = (.ok r, t) ∧ 0 < r.succeeded
  | .saveOrder c => ∃ order, run (Shelf.saveOrder c) s = (.ok order, t)
  | _ => False

theorem Op.Wrote.stored {o : Op} (hs : Orderly s) (ho : Unused s.supply s.drawn (o.brings s))
    (h : o.Wrote s t) : Stored t := by
  cases o with
  | write w =>
    obtain ⟨bs, -, hc⟩ := (ends_iff.mp (ends_write w hs ho)).1 _ _ h
    exact hc.stored
  | removeAll targets =>
    obtain ⟨r, hrun, hpos⟩ := h
    exact ((ends_iff.mp (ends_removeAll targets hs)).1 _ _ hrun).stored hpos
  | saveOrder c =>
    obtain ⟨order, hrun⟩ := h
    exact ((ends_iff.mp (ends_saveOrder hs c)).1 _ _ hrun).stored
  | load | list | fetch id => exact h.elim

theorem Op.Wrote.ran {o : Op} (h : o.Wrote s t) : run o.act s = (.ok (), t) := by
  cases o with
  | write w => exact h
  | removeAll targets =>
    obtain ⟨r, hrun, -⟩ := h
    rw [Op.act, run, run_bind, ← run, hrun]
    rfl
  | saveOrder c =>
    obtain ⟨order, hrun⟩ := h
    rw [Op.act, run, run_bind, ← run, hrun]
    rfl
  | load | list | fetch id => exact h.elim

/-- What is stored stays what it is, or is stored anew, as long as nothing is loaded. -/
theorem Op.Comes.stored {o : Op} (hl : o ≠ .load) (hs : Stored s) (h : o.Comes s t) :
    Stored t := by
  cases h with
  | kept h => exact h.stored hs
  | loaded h => exact (hl rfl).elim
  | written h =>
    obtain ⟨bs, -, hc⟩ := h
    exact hc.stored
  | @removed targets count h =>
    rcases Nat.eq_zero_or_pos count with h0 | hpos
    · exact (h.kept h0).stored hs
    · exact h.stored hpos
  | ordered h =>
    obtain ⟨bs, -, hc⟩ := h
    exact hc.stored

/-- The states of a shelf in which the last write that was done is what the file holds: something
was written, and after it the file was changed by the shelf only. -/
inductive Saved : Shelf → Prop where
  | wrote {s t : Shelf} (h : Declared s) (o : Op) (ho : Unused s.supply s.drawn (o.brings s))
      (hd : o.Declares s) (hw : o.Wrote s t) : Saved t
  | later {s t : Shelf} {r : Except Fault Unit} (h : Saved s) (o : Op) (hl : o ≠ .load)
      (ho : Unused s.supply s.drawn (o.brings s)) (hd : o.Declares s)
      (hrun : run o.act s = (r, t)) : Saved t
  | outages {s : Shelf} (h : Saved s) (outages : Call → List (Option Fault)) :
      Saved { s with outages }
  | listeners {s : Shelf} (h : Saved s) (listeners : List Listener) : Saved { s with listeners }

theorem Saved.stored (h : Saved s) : Declared s ∧ Stored s := by
  induction h with
  | wrote h o ho hd hw =>
    exact ⟨h.op o ho hd hw.ran, hw.stored h.reachable.orderly ho⟩
  | later _ o hl ho hd hrun ih =>
    obtain ⟨hs, hstored⟩ := ih
    have hcomes := (ends_op o hs.reachable.orderly ho).state hrun
    exact ⟨hs.op o ho hd hrun, hcomes.stored hl hstored⟩
  | outages _ outages ih => exact ⟨ih.1.surroundings _ outages, ih.2⟩
  | listeners _ listeners ih => exact ⟨ih.1.listeners listeners, ih.2⟩

end Runs

theorem Saved.reopened {opened : Json.Indent} (hs : Saved s) (hm : s.medium = .file path indent)
    (hu : u.medium = .file path opened) (hdisk : u.disk = s.disk)
    (hload : u.outages .load = []) (hlist : u.outages .list = []) :
    (run (do load; list) u).1 = .ok (s.items.map Bookmark.reread) := by
  obtain ⟨hdeclared, hstored⟩ := hs.stored
  have hf : u.disk.find path = .ok (.file (Exchange.toJsonText indent s.items)) := by
    unfold Stored at hstored
    rw [hm] at hstored
    rw [hdisk]
    exact hstored
  have hrun := load_found hdeclared.readable hu hload hf
  rw [run, run_bind, ← run, hrun]
  have hlisted := @run_list { u with items := s.items.map Bookmark.reread } hlist
  exact congrArg Prod.fst hlisted

/-- A shelf opened on the file of another lists the bookmarks of the other, reread. They are the
same bookmarks just when each of them is settled. -/
theorem reopen_reread {opened : Json.Indent} (hs : Saved s) (hm : s.medium = .file path indent)
    (hu : u.medium = .file path opened) (hdisk : u.disk = s.disk)
    (hload : u.outages .load = []) (hlist : u.outages .list = []) :
    (run (do load; list) u).1 = .ok (s.items.map Bookmark.reread) ∧
      (s.items.map Bookmark.reread = s.items ↔ ∀ b ∈ s.items, b.Settled) := by
  have hread := hs.stored.1.readable
  have hsame := List.map_inj_left (l := s.items) (f := Bookmark.reread) (g := id)
  rw [List.map_id] at hsame
  constructor
  · exact hs.reopened hm hu hdisk hload hlist
  · rw [hsame]
    refine forall₂_congr fun b hb => ?_
    exact Bookmark.reread_eq_iff (hread.typed b hb) (hread.formed b hb)

section TwoCases

def bare : Bookmark := { url := .str "u" }

def caseTags : Members := [("tags", .arr [.str "JS", .str "js"])]

@[irreducible] def bareShelf : Shelf := (run (Write.create "now" bare).act freshShelf).2

@[irreducible] def caseShelf : Shelf := (run (Write.update "now" "x" caseTags).act bareShelf).2

theorem bareShelf_declared : Declared bareShelf ∧ bareShelf.medium = freshShelf.medium := by
  have hbare : bare.Typed := ⟨⟨_, rfl⟩, ⟨_, rfl⟩, ⟨_, rfl⟩, ⟨_, rfl⟩, ⟨_, rfl⟩, ⟨_, rfl⟩, .inl rfl,
    .inl rfl, .inl rfl⟩
  let o := Op.write (.create "now" bare)
  have hunused : Unused freshShelf.supply freshShelf.drawn (o.brings freshShelf) := by
    simp [o, Op.brings, Write.brings, Unused, bare]
  have hdeclares : o.Declares freshShelf := by
    refine ⟨fun b hb => ?_, trivial⟩
    rw [List.mem_singleton.mp hb]
    exact hbare
  unfold bareShelf
  have hcomes := (ends_op o freshShelf_new.orderly hunused).state rfl
  exact ⟨(Declared.new freshShelf_new).op o hunused hdeclares rfl, hcomes.setup.medium⟩

theorem ran_ok {act : Act Unit} (h : (run act s).1.isOk = true) :
    run act s = (.ok (), (run act s).2) := by
  cases hr : run act s with
  | mk r t =>
    rw [hr] at h
    cases r with
    | ok a => rfl
    | error e => cases h

theorem caseShelf_saved : Saved caseShelf ∧ caseShelf.medium = freshShelf.medium := by
  have htyped : Bookmark.TypedPatch caseTags := ⟨⟨_, rfl⟩, ⟨_, rfl⟩, ⟨_, rfl⟩, ⟨_, rfl⟩, ⟨_, rfl⟩,
    ⟨_, rfl⟩, .inl rfl, .inl rfl, .inl rfl⟩
  obtain ⟨hdeclared, hmedium⟩ := bareShelf_declared
  let o := Op.write (.update "now" "x" caseTags)
  have hunused : Unused bareShelf.supply bareShelf.drawn (o.brings bareShelf) := by
    simp [o, Op.brings, Write.brings, Unused]
  have hdeclares : o.Declares bareShelf := ⟨by simp [o, Op.brings, Write.brings], htyped⟩
  have hwrote : o.Wrote bareShelf caseShelf := by
    unfold caseShelf
    exact ran_ok (by decide +kernel)
  have hcomes := (ends_op o hdeclared.reachable.orderly hunused).state hwrote.ran
  exact ⟨.wrote hdeclared o hunused hdeclares hwrote, hcomes.setup.medium.trans hmedium⟩

theorem caseShelf_reopened :
    (run (do load; list) { freshShelf with disk := caseShelf.disk }).1 =
        .ok (caseShelf.items.map Bookmark.reread) ∧
      (caseShelf.items.map Bookmark.reread = caseShelf.items ↔
        ∀ b ∈ caseShelf.items, b.Settled) :=
  reopen_reread caseShelf_saved.1 caseShelf_saved.2 rfl rfl rfl rfl

/-- A tag that comes in two cases comes back in one. -/
theorem reopen_drops_tag : Saved caseShelf ∧
    (run (do load; list) { freshShelf with disk := caseShelf.disk }).1 ≠ .ok caseShelf.items := by
  obtain ⟨hsaved, hmedium⟩ := caseShelf_saved
  have hreopened := @Saved.reopened caseShelf { freshShelf with disk := caseShelf.disk } _ _ _
    hsaved hmedium rfl rfl rfl rfl
  refine ⟨hsaved, fun h => ?_⟩
  have hsame := Except.ok.inj (hreopened.symm.trans h)
  have htags := congrArg (fun bs => bs.map Bookmark.tags) hsame
  revert htags
  decide +kernel

end TwoCases

end LinkShelf.Shelf
