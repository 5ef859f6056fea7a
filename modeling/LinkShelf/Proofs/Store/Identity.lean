import LinkShelf.Proofs.Store.Collection
/-!
How bookmarks come by their ids. Each keeps the id it has unless another one before it has the
same; all others are drawn from a supply that is asked for nothing but fresh ids.
-/
namespace LinkShelf.Shelf

/-- No id of the supply is empty or comes twice. -/
structure Fresh (supply : Nat → String) : Prop where
  filled : ∀ n, supply n ≠ ""
  distinct : ∀ m n, supply m = supply n → m = n

def unary (n : Nat) : String := .ofList (List.replicate (n + 1) 'x')

theorem fresh_unary : Fresh unary := by
  refine ⟨fun n h => ?_, fun m n h => ?_⟩
  · have := congrArg String.length h
    simp [unary] at this
  · have := congrArg String.length h
    simpa [unary] using this

theorem ne_unary {id : String} (h : id.toList.head? ≠ some 'x') (n : Nat) : id ≠ unary n := by
  rintro rfl
  simp [unary, List.replicate_succ] at h

/-- None of the bookmarks has an id that is still to be drawn. -/
def Unused (supply : Nat → String) (n : Nat) (bs : List Bookmark) : Prop :=
  ∀ k, n ≤ k → ∀ b ∈ bs, b.id ≠ some (supply k)

theorem unused_nil (supply : Nat → String) (n : Nat) : Unused supply n [] :=
  fun _ _ _ hb => absurd hb List.not_mem_nil

/-- What becomes of a list of bookmarks when ids are given out, from one number of drawn ids to
another. -/
inductive Identified (supply : Nat → String) :
    List String → Nat → List Bookmark → List Bookmark → Nat → Prop where
  | nil {seen : List String} {n : Nat} : Identified supply seen n [] [] n
  | keep {seen : List String} {n m : Nat} {b : Bookmark} {bs cs : List Bookmark} {id : String}
      (given : b.id = some id) (filled : id ≠ "") (new : id ∉ seen)
      (rest : Identified supply (id :: seen) n bs cs m) :
      Identified supply seen n (b :: bs) (b.underId id :: cs) m
  | draw {seen : List String} {n m : Nat} {b : Bookmark} {bs cs : List Bookmark}
      (given : b.id.getD "" = "" ∨ b.id.getD "" ∈ seen)
      (rest : Identified supply (supply n :: seen) (n + 1) bs cs m) :
      Identified supply seen n (b :: bs) (b.underId (supply n) :: cs) m

variable {supply : Nat → String} {seen : List String} {n m : Nat} {bs cs : List Bookmark}

theorem run_drawId (s : Shelf) :
    run drawId s = (.ok (s.supply s.drawn), { s with drawn := s.drawn + 1 }) := rfl

/-- Giving out ids never fails, and draws ids only. -/
theorem identify_run (bs : List Bookmark) (seen : List String) (s : Shelf) :
    ∃ cs m, run (identify seen bs) s = (.ok cs, { s with drawn := m }) ∧
      Identified s.supply seen s.drawn bs cs m := by
  induction bs generalizing seen s with
  | nil => exact ⟨[], s.drawn, rfl, .nil⟩
  | cons b bs ih =>
    by_cases hb : b.id.getD "" = "" ∨ b.id.getD "" ∈ seen
    · obtain ⟨cs, m, hrun, hcs⟩ := ih (s.supply s.drawn :: seen) { s with drawn := s.drawn + 1 }
      refine ⟨_, m, ?_, .draw hb hcs⟩
      simp [identify, idFor, if_pos hb, Act.run_bind, Act.run_map, run_drawId, hrun]
    · rw [not_or] at hb
      obtain ⟨cs, m, hrun, hcs⟩ := ih (b.id.getD "" :: seen) s
      refine ⟨_, m, ?_, .keep ?_ hb.1 hb.2 hcs⟩
      · simp [identify, idFor, hb.1, hb.2, Act.run_map, hrun]
      · cases hid : b.id with
        | none => simp [hid] at hb
        | some id => rfl

namespace Identified

theorem le (h : Identified supply seen n bs cs m) : n ≤ m := by
  induction h with
  | nil => exact Nat.le_refl _
  | keep _ _ _ _ ih => exact ih
  | draw _ _ ih => omega

theorem formed (h : Identified supply seen n bs cs m) : ∀ c ∈ cs, c.formed = c := by
  induction h with
  | nil => simp
  | keep _ _ _ _ ih | draw _ _ ih =>
    intro c hc
    rcases List.mem_cons.mp hc with rfl | hc
    · exact Bookmark.underId_formed _ _
    · exact ih c hc

/-- Ids other than those seen, one more of which has now been seen. -/
theorem ids_new_cons {id : String} (b : Bookmark) (filled : id ≠ "") (new : id ∉ seen)
    (hnew : ∀ c ∈ cs, ∃ i, c.id = some i ∧ i ≠ "" ∧ i ∉ id :: seen) (hcs : (ids cs).Nodup) :
    (∀ c ∈ b.underId id :: cs, ∃ i, c.id = some i ∧ i ≠ "" ∧ i ∉ seen) ∧
      (ids (b.underId id :: cs)).Nodup := by
  constructor
  · intro c hc
    rcases List.mem_cons.mp hc with rfl | hc
    · exact ⟨id, rfl, filled, new⟩
    · obtain ⟨i, hi, hne, hs⟩ := hnew c hc
      exact ⟨i, hi, hne, fun hm => hs (by simp [hm])⟩
  · refine List.nodup_cons.mpr ⟨?_, hcs⟩
    intro hm
    obtain ⟨c, hc, hid⟩ := List.mem_map.mp hm
    obtain ⟨i, hi, -, hs⟩ := hnew c hc
    have he : i = id := Option.some.inj (hi.symm.trans hid)
    exact hs (by simp [he])

/-- Each of the new ids was given or drawn, and none is one of those seen. -/
theorem ids_new (hf : Fresh supply) (h : Identified supply seen n bs cs m)
    (hseen : ∀ k, n ≤ k → supply k ∉ seen) (hbs : Unused supply n bs) :
    ((∀ c ∈ cs, ∃ i, c.id = some i ∧ i ≠ "" ∧ i ∉ seen) ∧ (ids cs).Nodup) ∧
      Unused supply m cs := by
  induction h with
  | nil => exact ⟨⟨by simp, by simp [ids]⟩, by simp [Unused]⟩
  | @keep seen n m b bs cs id given filled new rest ih =>
    have hid : ∀ k, n ≤ k → supply k ≠ id := by
      rintro k hk rfl
      exact hbs k hk b (by simp) given
    obtain ⟨⟨hnew, hdistinct⟩, hunused⟩ := ih
      (fun k hk => by simp [hid k hk, hseen k hk]) (fun k hk c hc => hbs k hk c (by simp [hc]))
    refine ⟨ids_new_cons b filled new hnew hdistinct, ?_⟩
    intro k hk c hc
    rcases List.mem_cons.mp hc with rfl | hc
    · simpa using (hid k (by have := rest.le; omega)).symm
    · exact hunused k hk c hc
  | @draw seen n m b bs cs given rest ih =>
    have hlater : ∀ k, n + 1 ≤ k → supply k ≠ supply n := by
      intro k hk he
      have := hf.distinct k n he
      omega
    obtain ⟨⟨hnew, hdistinct⟩, hunused⟩ := ih
      (fun k hk => by simp [hlater k hk, hseen k (by omega)])
      (fun k hk c hc => hbs k (by omega) c (by simp [hc]))
    refine ⟨ids_new_cons b (hf.filled n) (hseen n (Nat.le_refl n)) hnew hdistinct, ?_⟩
    intro k hk c hc
    rcases List.mem_cons.mp hc with rfl | hc
    · simpa using (hlater k (by have := rest.le; omega)).symm
    · exact hunused k hk c hc

theorem named (hf : Fresh supply) (h : Identified supply [] n bs cs m)
    (hbs : Unused supply n bs) : Named cs := by
  obtain ⟨⟨hnew, hdistinct⟩, -⟩ := h.ids_new hf (by simp) hbs
  refine ⟨fun c hc => ?_, hdistinct, h.formed⟩
  obtain ⟨id, hid, hne, -⟩ := hnew c hc
  exact ⟨id, hid, hne⟩

end Identified

/-- What comes of a bookmark when some others come before it: it keeps its id, or gets a drawn one
if it has none or one of theirs. -/
def Entered (supply : Nat → String) (n m : Nat) (before : List Bookmark) (b c : Bookmark) : Prop :=
  if b.id.getD "" = "" ∨ b.id ∈ ids before then ∃ k, n ≤ k ∧ k < m ∧ c = b.underId (supply k)
  else c = b.formed

theorem Entered.mono {k : Nat} {before : List Bookmark} {b c : Bookmark}
    (h : Entered supply n m before b c) (hm : m ≤ k) : Entered supply n k before b c := by
  unfold Entered at h ⊢
  by_cases hb : b.id.getD "" = "" ∨ b.id ∈ ids before
  · rw [if_pos hb] at h ⊢
    obtain ⟨i, hn, hi, hc⟩ := h
    exact ⟨i, hn, by omega, hc⟩
  · rw [if_neg hb] at h ⊢
    exact h

/-- The ids seen are those that the bookmarks before had, and drawn ones. -/
structure Accounted (supply : Nat → String) (start : Nat) (before : List Bookmark)
    (seen : List String) : Prop where
  source : ∀ id ∈ seen, some id ∈ ids before ∨ ∃ k, start ≤ k ∧ id = supply k
  given : ∀ id, id ≠ "" → some id ∈ ids before → id ∈ seen

theorem Accounted.snoc {start : Nat} {before : List Bookmark} {b : Bookmark} {x : String}
    (h : Accounted supply start before seen)
    (hx : b.id = some x ∨ ∃ k, start ≤ k ∧ x = supply k)
    (hb : ∀ id, id ≠ "" → b.id = some id → id ∈ x :: seen) :
    Accounted supply start (before ++ [b]) (x :: seen) := by
  have hids : ids (before ++ [b]) = ids before ++ [b.id] := by simp [ids]
  constructor
  · intro id hid
    rw [hids, List.mem_append, List.mem_singleton]
    rcases List.mem_cons.mp hid with rfl | hid
    · exact hx.imp_left fun hb => .inr hb.symm
    · exact (h.source id hid).imp_left .inl
  · intro id hne hid
    rw [hids, List.mem_append, List.mem_singleton] at hid
    rcases hid with hid | hid
    · exact List.mem_cons_of_mem x (h.given id hne hid)
    · exact hb id hne hid.symm

theorem Identified.entered {start : Nat} {before : List Bookmark}
    (h : Identified supply seen n bs cs m) (hstart : start ≤ n)
    (hseen : Accounted supply start before seen) (hbs : Unused supply start bs) (i : Nat)
    {b c : Bookmark} (hb : bs[i]? = some b) (hc : cs[i]? = some c) :
    Entered supply start m (before ++ bs.take i) b c := by
  induction h generalizing before i with
  | nil => simp at hb
  | @keep seen n m b' bs cs id given filled new rest ih =>
    cases i with
    | zero =>
      simp only [List.getElem?_cons_zero, Option.some.injEq] at hb hc
      subst hb hc
      have hkept : ¬(b'.id.getD "" = "" ∨ b'.id ∈ ids before) := by
        rw [given]
        exact fun h => h.elim filled fun hm => new (hseen.given id filled hm)
      simp only [Entered, List.take_zero, List.append_nil, if_neg hkept]
      simp [Bookmark.underId, Bookmark.formed, given]
    | succ i =>
      have hnext : Accounted supply start (before ++ [b']) (id :: seen) := by
        refine hseen.snoc (.inl given) fun x _ hx => ?_
        rw [given, Option.some.injEq] at hx
        simp [hx]
      rw [List.take_succ_cons, List.append_cons]
      exact ih hstart hnext (fun k hk c hc => hbs k hk c (by simp [hc])) i hb hc
  | @draw seen n m b' bs cs given rest ih =>
    cases i with
    | zero =>
      simp only [List.getElem?_cons_zero, Option.some.injEq] at hb hc
      subst hb hc
      have hdrawn : b'.id.getD "" = "" ∨ b'.id ∈ ids before := by
        cases hid : b'.id with
        | none => exact .inl rfl
        | some id =>
          rw [hid, Option.getD_some] at given
          refine given.imp_right fun hg => (hseen.source id hg).resolve_right ?_
          rintro ⟨k, hk, rfl⟩
          exact hbs k hk b' (by simp) hid
      have hle := rest.le
      simp only [Entered, List.take_zero, List.append_nil, if_pos hdrawn]
      exact ⟨n, hstart, by omega, rfl⟩
    | succ i =>
      have hnext : Accounted supply start (before ++ [b']) (supply n :: seen) := by
        refine hseen.snoc (.inr ⟨n, hstart, rfl⟩) fun x hne hx => ?_
        rw [hx, Option.getD_some] at given
        exact List.mem_cons_of_mem _ (given.resolve_left hne)
      rw [List.take_succ_cons, List.append_cons]
      exact ih (by omega) hnext (fun k hk c hc => hbs k hk c (by simp [hc])) i hb hc

/-- A list of bookmarks that are entered one after the other, each under an id of its own. -/
structure EnteredAll (supply : Nat → String) (n m : Nat) (bs cs : List Bookmark) : Prop where
  named : Named cs
  length : cs.length = bs.length
  each : ∀ i b c, bs[i]? = some b → cs[i]? = some c → Entered supply n m (bs.take i) b c

theorem EnteredAll.mono {k : Nat} (h : EnteredAll supply n m bs cs) (hm : m ≤ k) :
    EnteredAll supply n k bs cs :=
  ⟨h.named, h.length, fun i b c hb hc => (h.each i b c hb hc).mono hm⟩

theorem Identified.length (h : Identified supply seen n bs cs m) : cs.length = bs.length := by
  induction h with
  | nil => rfl
  | keep _ _ _ _ ih | draw _ _ ih => simp [ih]

theorem Identified.enteredAll (hf : Fresh supply) (h : Identified supply [] n bs cs m)
    (hbs : Unused supply n bs) : EnteredAll supply n m bs cs := by
  refine ⟨h.named hf hbs, h.length, fun i b c hb hc => ?_⟩
  have hnone : Accounted supply n [] [] := ⟨by simp, by simp [ids]⟩
  simpa using h.entered (Nat.le_refl n) hnone hbs i hb hc

end LinkShelf.Shelf
