import LinkShelf.File.Disk
/-!
What a disk refuses. All of it is a failure of the system, as long as no null character is in a
path.
-/
namespace LinkShelf

namespace Path

variable {p : Path}

/-- No name on the way holds a null character, which no disk takes. -/
def Clean (p : Path) : Prop := '\x00' ∉ p.root.toList ∧ ∀ name ∈ p.parts, '\x00' ∉ name.toList

theorem not_mem_intercalate {c : Char} {sep : String} {parts : List String}
    (hsep : c ∉ sep.toList) (h : ∀ part ∈ parts, c ∉ part.toList) :
    c ∉ (sep.intercalate parts).toList := by
  induction parts with
  | nil => simp
  | cons part parts ih =>
    have hpart := h part List.mem_cons_self
    have hrest := ih fun other hother => h other (List.mem_cons_of_mem part hother)
    cases parts with
    | nil => simpa using hpart
    | cons next parts =>
      rw [String.intercalate_cons_cons, String.toList_append, String.toList_append]
      simp only [List.mem_append, not_or]
      exact ⟨⟨hpart, hsep⟩, hrest⟩

theorem Clean.text (h : p.Clean) : '\x00' ∉ p.text.toList := by
  unfold Path.text
  split
  · decide
  · rw [String.toList_append, List.mem_append, not_or]
    exact ⟨h.1, not_mem_intercalate (by decide) h.2⟩

theorem Clean.parent (h : p.Clean) : p.parent.Clean :=
  ⟨h.1, fun name hname => h.2 name (List.dropLast_subset _ hname)⟩

theorem Clean.extend (h : p.Clean) {s : String} (hs : '\x00' ∉ s.toList) : (p.extend s).Clean := by
  refine ⟨h.1, fun name hname => ?_⟩
  rcases List.mem_append.mp hname with hname | hname
  · exact h.2 name (List.dropLast_subset _ hname)
  · rw [List.mem_singleton.mp hname, String.toList_append, List.mem_append, not_or]
    refine ⟨?_, hs⟩
    unfold Path.name
    cases hlast : p.parts.getLast? with
    | none => simp
    | some last => exact h.2 last (List.mem_of_getLast? hlast)

end Path

namespace Disk

variable {d : Disk} {p q : Path} {l : Location} {names : List String} {r : Refusal} {f : Fault}
  {text : String}

theorem fault_system (h : r ≠ .nullName) (path : String) :
    (r.fault path).family? = some .system := by
  cases r with
  | nullName => exact absurd rfl h
  | _ => rfl

theorem walk_refusal (h : d.walk l names = .error r) : r ≠ .nullName := by
  induction names generalizing l with
  | nil => cases h
  | cons name names ih =>
    unfold walk at h
    split at h
    · cases h
      exact nofun
    · cases h
      exact nofun
    · split at h
      · exact ih h
      · split at h
        · cases h
          exact nofun
        · exact ih h

theorem locate_refusal (hp : p.Clean) (h : d.locate p = .error r) : r ≠ .nullName := by
  have hclean : p.text.toList.contains '\x00' = false := by
    simpa using hp.text
  unfold locate at h
  rw [hclean, if_neg Bool.false_ne_true] at h
  split at h
  · cases h
    exact nofun
  · exact walk_refusal h

theorem makeFolder_refusal (hp : p.Clean) (h : d.makeFolder p = .error r) : r ≠ .nullName := by
  unfold makeFolder at h
  cases hl : d.locate p with
  | error r' =>
    rw [hl] at h
    cases h
    exact locate_refusal hp hl
  | ok l =>
    simp only [hl, bind, Except.bind] at h
    split at h
    · cases h
      exact nofun
    · cases h

theorem makeFolderAt_fault (hp : p.Clean) (h : d.makeFolderAt p = .error f) :
    f.family? = some .system := by
  unfold makeFolderAt at h
  split at h
  · cases h
  · rename_i r hr
    split at h
    · cases h
    · rw [← Except.error.inj h]
      exact fault_system (makeFolder_refusal hp hr) p.text

theorem makeFolders_fault (hp : p.Clean) (h : d.makeFolders p = .error f) :
    f.family? = some .system := by
  have hgo : ∀ (n : Nat) (p : Path), p.Clean → makeFolders.go d n p = .error f →
      f.family? = some .system := by
    intro n
    induction n with
    | zero => exact fun p hp h => makeFolderAt_fault hp h
    | succ n ih =>
      intro p hp h
      unfold makeFolders.go at h
      split at h
      · cases hparent : makeFolders.go d n p.parent with
        | error f' =>
          rw [hparent] at h
          cases h
          exact ih p.parent hp.parent hparent
        | ok d' =>
          rw [hparent] at h
          exact makeFolderAt_fault hp h
      · exact makeFolderAt_fault hp h
  exact hgo _ p hp h

theorem writeText_fault (hp : p.Clean) (h : d.writeText p text = .error f) :
    f.family? = some .system := by
  unfold writeText at h
  split at h
  · rename_i r hr
    rw [← Except.error.inj h]
    exact fault_system (locate_refusal hp hr) p.text
  · split at h
    · rw [← Except.error.inj h]
      rfl
    · cases h

theorem moveFile_fault (h : d.moveFile p q = .error f) : f.family? = some .system := by
  unfold moveFile at h
  split at h
  · rw [← Except.error.inj h]
    rfl
  · rw [← Except.error.inj h]
    rfl
  · split at h
    · rw [← Except.error.inj h]
      rfl
    · rw [← Except.error.inj h]
      rfl
    · rw [← Except.error.inj h]
      rfl
    · cases h

end Disk

end LinkShelf
