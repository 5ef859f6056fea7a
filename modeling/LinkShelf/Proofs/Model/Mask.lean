import LinkShelf.Model.Key
import LinkShelf.Proofs.Text.Piece
/-!
What masking a key leaves to be seen of it. The key of a hosted provider comes back out of a masked
message only where the message held it with another one that overlaps it in at most three
characters.
-/
namespace LinkShelf.Key

open LinkShelf.Text (prefix_split infix_append_cases infix_split)

variable {k cs out xs ys p : List Char} {c : Char} {key provider : String}

section Replacing

/-- A text, and what it becomes when each occurrence of a piece is replaced, from the left. -/
inductive Replaced (old new : List Char) : List Char → List Char → Prop where
  | nil : Replaced old new [] []
  | keep {c : Char} {cs out : List Char} (hno : ¬old <+: c :: cs) (rest : Replaced old new cs out) :
      Replaced old new (c :: cs) (c :: out)
  | swap {cs out : List Char} (rest : Replaced old new cs out) :
      Replaced old new (old ++ cs) (new ++ out)

theorem replaceFrom_skip (old new xs cs : List Char) :
    Text.replaceFrom old new xs.length (xs ++ cs) = Text.replaceFrom old new 0 cs := by
  induction xs with
  | nil => rfl
  | cons x xs ih => exact ih

theorem replaceFrom_found {old : List Char} (hne : old ≠ []) (new rest : List Char) :
    Text.replaceFrom old new 0 (old ++ rest) = new ++ Text.replaceFrom old new 0 rest := by
  have hstart : old.isPrefixOf (old ++ rest) = true :=
    List.isPrefixOf_iff_prefix.mpr (List.prefix_append old rest)
  have hskip := replaceFrom_skip old new old.tail rest
  obtain ⟨d, old', rfl⟩ := List.exists_cons_of_ne_nil hne
  rw [List.cons_append] at hstart ⊢
  rw [Text.replaceFrom, if_pos hstart]
  exact congrArg (new ++ ·) hskip

/-- By induction on the length, an occurrence being left behind as a whole. -/
theorem replaced_replaceFrom {old : List Char} (hne : old ≠ []) (new cs : List Char) :
    Replaced old new cs (Text.replaceFrom old new 0 cs) := by
  induction hn : cs.length using Nat.strongRecOn generalizing cs with
  | ind n ih =>
    cases cs with
    | nil => exact .nil
    | cons c cs =>
      by_cases hp : old <+: c :: cs
      · obtain ⟨rest, hrest⟩ := hp
        have hlen : rest.length < n := by
          have hpos := List.length_pos_iff.mpr hne
          rw [← hn, ← hrest, List.length_append]
          omega
        rw [← hrest, replaceFrom_found hne]
        exact .swap (ih _ hlen rest rfl)
      · rw [Text.replaceFrom, if_neg fun h => hp (List.isPrefixOf_iff_prefix.mp h)]
        exact .keep hp (ih _ (by rw [← hn]; simp) cs rfl)

end Replacing

section Overlap

/-- The hint of a key as characters. -/
def hintChars (k : List Char) : List Char := k.take 6 ++ "...".toList ++ k.drop (k.length - 3)

/-- The ends of a key are the same for so many characters. -/
def Bordered (k : List Char) (n : Nat) : Prop :=
  1 ≤ n ∧ n ≤ 3 ∧ k.drop (k.length - n) = k.take n

/-- That a text holds a key and, at the end of it, the start of the same key again. -/
def Overlapped (k cs : List Char) : Prop := ∃ n, Bordered k n ∧ k ++ k.drop n <:+: cs

/-- What a masked text starts with is there before, up to the first dots. -/
theorem Replaced.start (h : Replaced k (hintChars k) cs out) (hp : p <+: out) (hdot : '.' ∉ p) :
    p <+: cs := by
  induction h generalizing p with
  | nil => exact hp
  | keep hno _ ih =>
    cases p with
    | nil => exact List.nil_prefix
    | cons d p =>
      obtain ⟨rfl, hnext⟩ := List.cons_prefix_cons.mp hp
      have hrest := ih hnext fun hm => hdot (List.mem_cons_of_mem _ hm)
      exact List.cons_prefix_cons.mpr ⟨rfl, hrest⟩
  | @swap cs out _ _ =>
    have hsplit : hintChars k ++ out =
        k.take 6 ++ '.' :: ("..".toList ++ k.drop (k.length - 3) ++ out) := by
      simp [hintChars]
    rw [hsplit] at hp
    exact ((prefix_split hp hdot).trans (List.take_prefix 6 k)).trans (List.prefix_append k cs)

/-- A key that can be seen in a masked text starts in the last characters of a hint and goes on
with what follows there, since neither a hint nor what is between two of them holds all of it. -/
theorem Replaced.overlapped (h : Replaced k (hintChars k) cs out) (hlong : 6 < k.length)
    (hdot : '.' ∉ k) (hk : k <:+: out) : Overlapped k cs := by
  induction h with
  | nil =>
    rw [List.infix_nil.mp hk] at hlong
    cases hlong
  | @keep c cs out hno hrest ih =>
    rcases List.infix_cons_iff.mp hk with hp | hk
    · exact (hno ((Replaced.keep hno hrest).start hp hdot)).elim
    · obtain ⟨n, hn, hover⟩ := ih hk
      exact ⟨n, hn, hover.trans (List.infix_cons_iff.mpr (.inr List.infix_rfl))⟩
  | @swap cs out hrest ih =>
    have hafter : k <:+: k.drop (k.length - 3) ++ out := by
      have hsplit : hintChars k ++ out =
          k.take 6 ++ '.' :: ([] ++ '.' :: ([] ++ '.' :: (k.drop (k.length - 3) ++ out))) := by
        simp [hintChars]
      have hshort : ∀ xs : List Char, xs.length ≤ 6 → ¬k <:+: xs := fun xs hxs h =>
        absurd h.length_le (by omega)
      rw [hsplit] at hk
      have h₁ := (infix_split hk hdot).resolve_left (hshort _ (List.length_take_le 6 k))
      have h₂ := (infix_split h₁ hdot).resolve_left (hshort [] (Nat.zero_le 6))
      exact (infix_split h₂ hdot).resolve_left (hshort [] (Nat.zero_le 6))
    rcases infix_append_cases hafter with hk | ⟨s, hs, hne, hp⟩
    · obtain ⟨n, hn, hover⟩ := ih hk
      exact ⟨n, hn, hover.trans (List.suffix_append k cs).isInfix⟩
    · have hsuffix : s <:+ k := hs.trans (List.drop_suffix _ k)
      have hlast : s = k.drop (k.length - s.length) := List.suffix_iff_eq_drop.mp hsuffix
      have hfirst : s <+: k :=
        List.prefix_of_prefix_length_le (List.prefix_append s out) hp hsuffix.length_le
      have htake : s = k.take s.length := List.prefix_iff_eq_take.mp hfirst
      have hpos : 1 ≤ s.length := List.length_pos_iff.mpr hne
      have hshort : s.length ≤ 3 := by
        have hle := hs.length_le
        rw [List.length_drop] at hle
        omega
      have hnext : k.drop s.length <+: out := by
        refine (List.prefix_append_right_inj s).mp ?_
        have hwhole : k.take s.length ++ k.drop s.length = k := List.take_append_drop ..
        rw [← htake] at hwhole
        rwa [hwhole]
      have hstart := hrest.start hnext fun hm => hdot (List.mem_of_mem_drop hm)
      refine ⟨s.length, ⟨hpos, hshort, hlast.symm.trans htake⟩, ?_⟩
      exact ((List.prefix_append_right_inj k).mpr hstart).isInfix

theorem replaceFrom_short {old new : List Char} (h : cs.length < old.length) :
    Text.replaceFrom old new 0 cs = cs := by
  induction cs with
  | nil => rfl
  | cons c cs ih =>
    have hno : ¬old.isPrefixOf (c :: cs) = true := fun hp => by
      have hle := (List.isPrefixOf_iff_prefix.mp hp).length_le
      omega
    rw [Text.replaceFrom, if_neg hno, ih (by rw [List.length_cons] at h; omega)]

/-- The last characters of the hint are those at which the key starts again. -/
theorem Bordered.shown {n : Nat} (h : Bordered k n) (hlong : 6 < k.length) :
    k <:+: Text.replaceFrom k (hintChars k) 0 (k ++ k.drop n) := by
  obtain ⟨hpos, hle, hends⟩ := h
  have hne : k ≠ [] := List.ne_nil_of_length_pos (by omega)
  have hrest : (k.drop n).length < k.length := by
    rw [List.length_drop]
    omega
  have hlast : k.drop (k.length - n) <:+ k.drop (k.length - 3) := by
    have hdrop : k.drop (k.length - n) = (k.drop (k.length - 3)).drop (3 - n) := by
      rw [List.drop_drop]
      congr 1
      omega
    rw [hdrop]
    exact List.drop_suffix _ _
  obtain ⟨before, hbefore⟩ := hlast
  have hwhole : k.drop (k.length - n) ++ k.drop n = k := by
    rw [hends, List.take_append_drop]
  have hsplit : hintChars k ++ k.drop n = k.take 6 ++ "...".toList ++ before ++ k := by
    rw [hintChars, ← hbefore]
    simp only [List.append_assoc, hwhole]
  rw [replaceFrom_found hne, replaceFrom_short hrest, hsplit]
  exact (List.suffix_append _ k).isInfix

end Overlap

section Accepted

/-- A key that a hosted provider takes. -/
structure Accepted (provider key : String) : Prop where
  hosted : Provider.keyless provider = false
  valid : problem? provider (some key) = none

theorem Accepted.fits (h : Accepted provider key) : ∃ s, shape? provider = some s ∧
    s.length ≤ key.length ∧ s.start.toList <+: key.toList ∧ s.fits key = true := by
  have hvalid := h.valid
  unfold problem? at hvalid
  rw [h.hosted] at hvalid
  simp only [Bool.false_eq_true, if_false, Option.getD_some] at hvalid
  split at hvalid
  · cases hvalid
  · split at hvalid
    · cases hvalid
    · rename_i s hs
      split at hvalid
      · cases hvalid
      · rename_i hlength
        split at hvalid
        · cases hvalid
        · rename_i hstart
          split at hvalid
          · rename_i hfits
            refine ⟨s, hs, by omega, ?_, hfits⟩
            rw [Bool.not_eq_true', Bool.not_eq_false] at hstart
            exact List.isPrefixOf_iff_prefix.mp hstart
          · cases hvalid

/-- What the forms of keys have in common. -/
theorem shape?_start {s : Shape} (h : shape? provider = some s) :
    23 ≤ s.length ∧ s.start.toList ≠ [] ∧ (∀ c ∈ s.start.toList, isKeyChar c = true) ∧
      ∀ c ∈ s.start.toList.head?, c ∈ ['A', 's', 'x'] := by
  have hsound : 23 ≤ s.length ∧ s.start.toList ≠ [] ∧ s.start.toList.all isKeyChar = true ∧
      (s.start.toList.head?.all fun c => ['A', 's', 'x'].contains c) = true := by
    unfold shape? at h
    split at h
    · cases h
      decide
    · cases h
      decide
    · cases h
      decide
    · cases h
  obtain ⟨hlength, hne, hall, hhead⟩ := hsound
  refine ⟨hlength, hne, List.all_eq_true.mp hall, fun c hc => ?_⟩
  rw [Option.mem_def.mp hc] at hhead
  exact List.contains_iff_mem.mp hhead

theorem Accepted.long (h : Accepted provider key) : 23 ≤ key.toList.length := by
  obtain ⟨s, hs, hlength, -⟩ := h.fits
  have hmin := (shape?_start hs).1
  rw [String.length_toList]
  omega

/-- A key starts with a letter. -/
theorem Accepted.head (h : Accepted provider key) :
    ∃ c tail, key.toList = c :: tail ∧ c ∈ ['A', 's', 'x'] := by
  obtain ⟨s, hs, -, ⟨rest, hrest⟩, -⟩ := h.fits
  obtain ⟨-, hne, -, hhead⟩ := shape?_start hs
  obtain ⟨c, tail, hstart⟩ := List.exists_cons_of_ne_nil hne
  rw [hstart] at hrest hhead
  exact ⟨c, tail ++ rest, hrest.symm, hhead c rfl⟩

theorem mem_dropLineEnd (h : c ∈ cs) : c = '\n' ∨ c ∈ dropLineEnd cs := by
  unfold dropLineEnd
  split
  · rename_i rest hrev
    have hcs : cs = rest.reverse ++ ['\n'] := by
      rw [← List.reverse_reverse cs, hrev, List.reverse_cons]
    rw [hcs] at h
    rcases List.mem_append.mp h with h | h
    · exact .inr h
    · exact .inl (List.mem_singleton.mp h)
  · exact .inr h

/-- A key has no other characters but a line break at its end. -/
theorem Accepted.chars (h : Accepted provider key) (hc : c ∈ key.toList) :
    isKeyChar c = true ∨ c = '\n' := by
  obtain ⟨s, hs, -, -, hfits⟩ := h.fits
  obtain ⟨-, -, hstart, -⟩ := shape?_start hs
  unfold Shape.fits at hfits
  simp only [Bool.and_eq_true] at hfits
  obtain ⟨⟨hp, hall⟩, -⟩ := hfits
  rcases mem_dropLineEnd hc with hc | hc
  · exact .inr hc
  · obtain ⟨rest, hrest⟩ := List.isPrefixOf_iff_prefix.mp hp
    rw [← hrest] at hc
    rcases List.mem_append.mp hc with hc | hc
    · exact .inl (hstart c hc)
    · refine .inl (List.all_eq_true.mp hall c ?_)
      rw [← hrest, ← String.length_toList, List.drop_left]
      exact hc

theorem Accepted.not_mem (h : Accepted provider key) (hc : isKeyChar c = false) (hn : c ≠ '\n') :
    c ∉ key.toList := by
  intro hm
  rcases h.chars hm with hkey | hline
  · rw [hkey] at hc
    cases hc
  · exact hn hline

end Accepted

section Masking

/-- That a text holds another one in one piece. -/
def Shows (text key : String) : Prop := key.toList <:+: text.toList

theorem mask_toList (message : String) (h : 10 ≤ key.toList.length) :
    (mask message [key]).toList =
      Text.replaceFrom key.toList (hintChars key.toList) 0 message.toList := by
  have hne : key ≠ "" := by
    rintro rfl
    simp at h
  have hhint : (hint key).toList = hintChars key.toList := by
    unfold hint hintChars
    rw [if_neg (by omega)]
    simp
  simp only [mask, List.foldl_cons, List.foldl_nil, if_neg hne, Text.replace, hhint,
    String.toList_ofList]

theorem Accepted.mask_shows (h : Accepted provider key) {message : String}
    (hshow : Shows (mask message [key]) key) : Overlapped key.toList message.toList := by
  have hlong := h.long
  have hne : key.toList ≠ [] := List.ne_nil_of_length_pos (by omega)
  rw [Shows, mask_toList message (by omega)] at hshow
  exact (replaced_replaceFrom hne _ _).overlapped (by omega)
    (h.not_mem (by decide) (by decide)) hshow

theorem Accepted.mask_overlapped (h : Accepted provider key) {n : Nat}
    (hn : Bordered key.toList n) :
    Shows (mask (key ++ .ofList (key.toList.drop n)) [key]) key := by
  have hlong := h.long
  rw [Shows, mask_toList _ (by omega), String.toList_append, String.toList_ofList]
  exact hn.shown (by omega)

end Masking

end LinkShelf.Key
