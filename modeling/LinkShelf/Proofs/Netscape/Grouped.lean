import LinkShelf.Netscape.Writer
import LinkShelf.Proofs.Bookmark.Reread
import Mathlib.Data.List.Induction
import Mathlib.Data.List.Perm.Basic
/-!
The folders of a bookmark file. Going through the bookmarks one by one puts each into the list of
its folder; nothing is lost and nothing comes twice.
-/
namespace LinkShelf.Netscape

open Bookmark

variable {bs : List Bookmark} {b : Bookmark}

/-- The bookmarks of a folder. -/
def inFolder (bs : List Bookmark) (label : String) : List Bookmark :=
  bs.filter fun b => textOr b.folder = label

/-- The folders in the order in which they first come up. -/
def labels (bs : List Bookmark) : List String :=
  ((bs.map fun b => textOr b.folder).filter (· ≠ "")).eraseDups

/-- The bookmarks in the order in which they are written: first those without a folder. -/
def regrouped (bs : List Bookmark) : List Bookmark :=
  inFolder bs "" ++ (labels bs).flatMap (inFolder bs)

section Labels

theorem eraseDups_snoc (ls : List String) (l : String) :
    (ls ++ [l]).eraseDups = if l ∈ ls then ls.eraseDups else ls.eraseDups ++ [l] := by
  rw [List.eraseDups_append, List.removeAll]
  by_cases h : l ∈ ls <;> simp [h, List.eraseDups_cons]

theorem nodup_labels (bs : List Bookmark) : (labels bs).Nodup := Shelf.nodup_eraseDups _

theorem mem_labels {l : String} : l ∈ labels bs ↔ l ≠ "" ∧ ∃ b ∈ bs, textOr b.folder = l := by
  rw [labels, List.mem_eraseDups, List.mem_filter, List.mem_map, decide_eq_true_eq, and_comm]

theorem inFolder_snoc (bs : List Bookmark) (b : Bookmark) (l : String) :
    inFolder (bs ++ [b]) l =
      if textOr b.folder = l then inFolder bs l ++ [b] else inFolder bs l := by
  rw [inFolder, List.filter_append, inFolder]
  by_cases h : textOr b.folder = l <;> simp [h]

theorem labels_snoc (bs : List Bookmark) (b : Bookmark) :
    labels (bs ++ [b]) = if textOr b.folder = "" ∨ textOr b.folder ∈ labels bs then labels bs
      else labels bs ++ [textOr b.folder] := by
  rw [labels, List.map_append, List.filter_append, List.map_singleton, labels]
  by_cases h : textOr b.folder = ""
  · simp [h]
  · rw [List.filter_cons_of_pos (by simp [h]), List.filter_nil, eraseDups_snoc]
    simp [h]

end Labels

section Group

variable {f : String} {ls : List String} {g : String → List Bookmark}

theorem map_others (b : Bookmark) (hf : f ∉ ls) :
    (ls.map fun l => (Json.str l, if f = l then g l ++ [b] else g l)) =
      ls.map fun l => (Json.str l, g l) := by
  refine List.map_congr_left fun l hl => ?_
  rw [if_neg]
  rintro rfl
  exact hf hl

/-- A bookmark goes to the end of its folder, and a new folder to the end of the folders. -/
theorem addToFolder_labels (hb : b.folder = .str f) (hnodup : ls.Nodup)
    (hnew : f ∉ ls → g f = []) :
    addToFolder b (ls.map fun l => (.str l, g l)) =
      (if f ∈ ls then ls else ls ++ [f]).map
        fun l => (.str l, if f = l then g l ++ [b] else g l) := by
  induction ls with
  | nil => simp [addToFolder, hb, hnew]
  | cons l ls ih =>
    obtain ⟨hl, hrest⟩ := List.nodup_cons.mp hnodup
    by_cases h : f = l
    · subst h
      have hsame : (Json.str f).sameScalar (.str f) = true := by simp [Json.sameScalar]
      rw [List.map_cons, addToFolder, hb, if_pos hsame, if_pos List.mem_cons_self, List.map_cons,
        if_pos rfl, map_others b hl]
    · have hother : (Json.str l).sameScalar (.str f) = false := by
        simpa [Json.sameScalar] using Ne.symm h
      have hmore := ih hrest fun hf => hnew (by simp [h, hf])
      have hsame : (if f ∈ l :: ls then l :: ls else l :: ls ++ [f]) =
          l :: if f ∈ ls then ls else ls ++ [f] := by
        by_cases hf : f ∈ ls <;> simp [h, hf]
      rw [List.map_cons, addToFolder, hb, hother, if_neg Bool.false_ne_true, hmore, hsame,
        List.map_cons, if_neg h]

theorem inFolder_of_not_mem (hf : f ≠ "") (h : f ∉ labels bs) : inFolder bs f = [] := by
  rw [inFolder, List.filter_eq_nil_iff]
  intro b hb hfolder
  exact h (mem_labels.mpr ⟨hf, b, hb, of_decide_eq_true hfolder⟩)

/-- The groups are the folders, each with its bookmarks. -/
theorem group_eq (h : ∀ b ∈ bs, IsText b.folder) :
    group bs = .ok ((labels bs).map fun l => (.str l, inFolder bs l)) := by
  induction bs using List.reverseRecOn with
  | nil => simp [group, labels, pure, Except.pure]
  | append_singleton bs b ih =>
    obtain ⟨f, hf⟩ := h b (by simp)
    have hlabel : textOr b.folder = f := by rw [hf, textOr_str]
    have hbefore := ih fun c hc => h c (by simp [hc])
    rw [group] at hbefore ⊢
    rw [List.foldlM_append, hbefore, labels_snoc]
    simp only [inFolder_snoc, hlabel, List.foldlM_cons, List.foldlM_nil, bind, Except.bind]
    by_cases hempty : f = ""
    · have hnone : f ∉ labels bs := fun hl => (mem_labels.mp hl).1 hempty
      have hfalse : b.folder.truthy = false := by simp [hf, hempty, Json.truthy]
      simp only [hfalse, hempty, true_or, if_true, Bool.not_false]
      rw [hempty] at hnone
      rw [map_others b hnone]
      rfl
    · have htrue : b.folder.truthy = true := by simp [hf, hempty, Json.truthy]
      have hsimple : b.folder.isCompound = false := by rw [hf]; rfl
      have hadd := addToFolder_labels hf (nodup_labels bs) (inFolder_of_not_mem hempty)
      simp only [htrue, hsimple, hempty, hadd, false_or, Bool.not_true, Bool.false_eq_true,
        if_false]
      rfl

end Group

/-- The lists of some folders together hold the bookmarks of these folders, each once. -/
theorem perm_inFolders {ls : List String} (h : ls.Nodup) (bs : List Bookmark) :
    (ls.flatMap (inFolder bs)).Perm (bs.filter fun b => textOr b.folder ∈ ls) := by
  induction ls with
  | nil => simp
  | cons l ls ih =>
    obtain ⟨hl, hrest⟩ := List.nodup_cons.mp h
    have hsplit := List.filter_append_perm (fun b => decide (textOr b.folder = l))
      (bs.filter fun b => textOr b.folder ∈ l :: ls)
    have hfirst : (bs.filter fun b => textOr b.folder ∈ l :: ls).filter
        (fun b => decide (textOr b.folder = l)) = inFolder bs l := by
      rw [List.filter_filter, inFolder]
      refine List.filter_congr fun b _ => ?_
      by_cases h : textOr b.folder = l <;> simp [h]
    have hothers : (bs.filter fun b => textOr b.folder ∈ l :: ls).filter
        (fun b => !decide (textOr b.folder = l)) = bs.filter fun b => textOr b.folder ∈ ls := by
      rw [List.filter_filter]
      refine List.filter_congr fun b _ => ?_
      by_cases h : textOr b.folder = l <;> simp [h, hl]
    rw [hfirst, hothers] at hsplit
    rw [List.flatMap_cons]
    exact ((ih hrest).append_left (inFolder bs l)).trans hsplit

/-- No bookmark is lost on the way and none comes twice. -/
theorem perm_regrouped (bs : List Bookmark) : (regrouped bs).Perm bs := by
  have hnodup : ("" :: labels bs).Nodup :=
    List.nodup_cons.mpr ⟨fun h => (mem_labels.mp h).1 rfl, nodup_labels bs⟩
  have hall : (bs.filter fun b => textOr b.folder ∈ "" :: labels bs) = bs := by
    refine List.filter_eq_self.mpr fun b hb => ?_
    rw [decide_eq_true_eq, List.mem_cons, mem_labels, or_iff_not_imp_left]
    exact fun h => ⟨h, b, hb, rfl⟩
  have hperm := perm_inFolders hnodup bs
  rwa [hall] at hperm

end LinkShelf.Netscape
