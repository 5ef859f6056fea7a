import LinkShelf.Proofs.Store.Reach
/-!
Every write is all or nothing: in any state a shelf can come into, a write that fails has changed
nothing that can be seen, and one that succeeds has changed the collection in the one way its name
says, stored it and told it to all listeners.
-/
namespace LinkShelf.Shelf

open LinkShelf.Act

variable {s t : Shelf}

def FileSpared (s t : Shelf) : Prop :=
  match s.medium with
  | .memory => True
  | .file path _ => Disk.Spares path s.disk t.disk

/-- The collection, the store file and what every listener has received are what they were. -/
structure Undone (s t : Shelf) : Prop where
  items : t.items = s.items
  notices : t.notices = s.notices
  file : FileSpared s t

/-- The collection is what the write yields, every bookmark at its place and under an id of its
own; it is stored, and each listener has received it once more. -/
structure Write.Effected (w : Write) (s t : Shelf) : Prop where
  items : ∃ bs, w.Yields s t bs ∧ t.items = numbered bs
  sound : Sound t.items
  notices : t.notices = s.notices ++ s.listeners.map fun l => ⟨l, t.items⟩
  stored : Stored t

theorem Kept.undone (h : Kept s t) : Undone s t := by
  refine ⟨h.items, h.notices, ?_⟩
  have hd := h.disk
  unfold Drafted at hd
  unfold FileSpared
  cases hm : s.medium with
  | memory => trivial
  | file path indent =>
    rw [hm] at hd
    exact hd.spares

theorem Write.Done.effected {w : Write} (hs : Orderly s) (hw : Unused s.supply s.drawn w.brings)
    (h : w.Done s t) : w.Effected s t := by
  have ht := h.orderly hs hw
  obtain ⟨bs, hy, hc⟩ := h
  refine ⟨⟨bs, hy, hc.items⟩, ht.sound, ?_, hc.stored⟩
  rw [hc.notices, hc.items]

/-- A write takes effect as a whole or not at all. -/
theorem write_all_or_nothing (w : Write) (hs : Reachable s)
    (hw : Unused s.supply s.drawn w.brings) :
    Ends w.act s (fun _ t => w.Effected s t) (fun _ t => Undone s t) :=
  (ends_write w hs.orderly hw).mono (fun _ _ h => h.effected hs.orderly hw) fun _ _ h => h.undone

theorem create_all_or_nothing :
    Ends (Write.create "now" { url := .str "u" }).act freshShelf
      (fun _ t => (Write.create "now" { url := .str "u" }).Effected freshShelf t)
      (fun _ t => Undone freshShelf t) :=
  write_all_or_nothing _ (.new freshShelf_new) (by simp [Unused, Write.brings])

end LinkShelf.Shelf
