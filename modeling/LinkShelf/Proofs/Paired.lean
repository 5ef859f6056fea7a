import LinkShelf.Act
/-!
Two operations side by side, each on a state of its own. If the states are alike and so is what is
done to them, then both return or both fail in the same way, and the states are still alike.
-/
namespace LinkShelf.Act

variable {σ α β γ δ : Type} {R : σ → σ → Prop} {V : α → β → Prop} {W : γ → δ → Prop}
  {E E' : Fault → Prop}

/-- On states that are alike, either both operations return and their results are alike, or both
fail with the same fault, which is one of those allowed. The states are alike afterwards. -/
def Paired (R : σ → σ → Prop) (V : α → β → Prop) (E : Fault → Prop) (act : Act σ α)
    (act' : Act σ β) : Prop :=
  ∀ s t, R s t →
    (∃ a b u v, run act s = (.ok a, u) ∧ run act' t = (.ok b, v) ∧ V a b ∧ R u v) ∨
      ∃ f u v, run act s = (.error f, u) ∧ run act' t = (.error f, v) ∧ E f ∧ R u v

section Rules

variable {act : Act σ α} {act' : Act σ β} {next : α → Act σ γ} {next' : β → Act σ δ}

theorem paired_pure {a : α} {b : β} (h : V a b) : Paired R V E (pure a) (pure b) :=
  fun s t hst => .inl ⟨a, b, s, t, rfl, rfl, h, hst⟩

theorem paired_throw {f : Fault} (h : E f) : Paired R V E (throw f) (throw f) :=
  fun s t hst => .inr ⟨f, s, t, rfl, rfl, h, hst⟩

theorem paired_lift {r : Except Fault α} {r' : Except Fault β}
    (h : ∃ a b, r = .ok a ∧ r' = .ok b ∧ V a b) : Paired R V E (liftM r) (liftM r') := by
  obtain ⟨a, b, rfl, rfl, hab⟩ := h
  exact fun s t hst => .inl ⟨a, b, s, t, rfl, rfl, hab, hst⟩

theorem paired_modify {g g' : σ → σ} (h : ∀ s t, R s t → R (g s) (g' t)) :
    Paired R Eq E (modify g) (modify g') :=
  fun s t hst => .inl ⟨(), (), g s, g' t, rfl, rfl, rfl, h s t hst⟩

theorem Paired.bind (h : Paired R V E act act')
    (hnext : ∀ a b, V a b → Paired R W E (next a) (next' b)) :
    Paired R W E (act >>= next) (act' >>= next') := by
  intro s t hst
  rw [run_bind, run_bind]
  rcases h s t hst with ⟨a, b, u, v, hu, hv, hab, huv⟩ | ⟨f, u, v, hu, hv, hf, huv⟩
  · rw [hu, hv]
    exact hnext a b hab u v huv
  · rw [hu, hv]
    exact .inr ⟨f, u, v, rfl, rfl, hf, huv⟩

/-- What is done with two states that are looked at. -/
theorem paired_get_bind {g : σ → Act σ α} {g' : σ → Act σ β}
    (h : ∀ s t, R s t → Paired R V E (g s) (g' t)) :
    Paired R V E (get >>= g) (get >>= g') := by
  intro s t hst
  rw [run_bind, run_bind, run_get, run_get]
  exact h s t hst s t hst

theorem Paired.tryCatch {act act' : Act σ α} {V : α → α → Prop} {g g' : Fault → Act σ α}
    (h : Paired R V E act act') (hg : ∀ f, E f → Paired R V E' (g f) (g' f)) :
    Paired R V E' (tryCatch act g) (tryCatch act' g') := by
  intro s t hst
  rw [run_tryCatch, run_tryCatch]
  rcases h s t hst with ⟨a, b, u, v, hu, hv, hab, huv⟩ | ⟨f, u, v, hu, hv, hf, huv⟩
  · rw [hu, hv]
    exact .inl ⟨a, b, u, v, rfl, rfl, hab, huv⟩
  · rw [hu, hv]
    exact hg f hf u v huv

theorem Paired.mono {V' : α → β → Prop} (h : Paired R V E act act') (hV : ∀ a b, V a b → V' a b)
    (hE : ∀ f, E f → E' f) : Paired R V' E' act act' := by
  intro s t hst
  rcases h s t hst with ⟨a, b, u, v, hu, hv, hab, huv⟩ | ⟨f, u, v, hu, hv, hf, huv⟩
  · exact .inl ⟨a, b, u, v, hu, hv, hV a b hab, huv⟩
  · exact .inr ⟨f, u, v, hu, hv, hE f hf, huv⟩

theorem Paired.discard {act act' : Act σ α} {V : α → α → Prop} (h : Paired R V E act act') :
    Paired R Eq E (discard act) (discard act') := h.bind fun _ _ _ => paired_pure rfl

theorem paired_forM {g : α → Act σ PUnit} (h : ∀ a, Paired R Eq E (g a) (g a)) (as : List α) :
    Paired R Eq E (as.forM g) (as.forM g) := by
  induction as with
  | nil => exact paired_pure rfl
  | cons a as ih => exact (h a).bind fun _ _ _ => ih

theorem Paired.state (h : Paired R V E act act') {s t : σ} (hst : R s t) :
    R (run act s).2 (run act' t).2 := by
  rcases h s t hst with ⟨a, b, u, v, hu, hv, -, huv⟩ | ⟨f, u, v, hu, hv, -, huv⟩
  · rw [hu, hv]
    exact huv
  · rw [hu, hv]
    exact huv

/-- Where no fault is allowed, both return. -/
theorem Paired.returns (h : Paired R V (fun _ => False) act act') {s t : σ} (hst : R s t) :
    ∃ a b u v, run act s = (.ok a, u) ∧ run act' t = (.ok b, v) ∧ V a b ∧ R u v := by
  rcases h s t hst with hok | ⟨f, u, v, -, -, hf, -⟩
  · exact hok
  · exact hf.elim

end Rules

end LinkShelf.Act
