import LinkShelf.Fault
/-!
Operations on a state that may fail, and what can be said about where one ends. `Ends` speaks of
both ways out at once, so that an operation that always fails meets no claim about its result.
-/
namespace LinkShelf

theorem bind_eq_ok {ε α β : Type} {r : Except ε α} {f : α → Except ε β} {b : β} :
    (r >>= f) = .ok b ↔ ∃ a, r = .ok a ∧ f a = .ok b := by
  cases r <;> simp [bind, Except.bind]

theorem toOption_eq_some {ε α : Type} {r : Except ε α} {a : α} :
    r.toOption = some a ↔ r = .ok a := by
  cases r <;> simp [Except.toOption]

abbrev Act (σ α : Type) := ExceptT Fault (StateM σ) α

namespace Act

variable {σ α β : Type}

def run (act : Act σ α) (s : σ) : Except Fault α × σ := (ExceptT.run act).run s

@[simp] theorem run_pure (a : α) (s : σ) : run (pure a : Act σ α) s = (.ok a, s) := rfl

@[simp] theorem run_throw (f : Fault) (s : σ) : run (throw f : Act σ α) s = (.error f, s) := rfl

@[simp] theorem run_get (s : σ) : run (get : Act σ σ) s = (.ok s, s) := rfl

@[simp] theorem run_set (t s : σ) : run (set t : Act σ PUnit) s = (.ok (), t) := rfl

@[simp] theorem run_modify (f : σ → σ) (s : σ) :
    run (modify f : Act σ PUnit) s = (.ok (), f s) := rfl

@[simp] theorem run_lift (r : Except Fault α) (s : σ) : run (liftM r : Act σ α) s = (r, s) := rfl

theorem run_bind (act : Act σ α) (f : α → Act σ β) (s : σ) :
    run (act >>= f) s =
      match run act s with
      | (.ok a, t) => run (f a) t
      | (.error e, t) => (.error e, t) := by
  simp only [run, bind, ExceptT.bind, ExceptT.mk, ExceptT.run, StateT.run, StateT.bind]
  rcases act s with ⟨r, t⟩
  cases r <;> rfl

theorem run_map (f : α → β) (act : Act σ α) (s : σ) :
    run (f <$> act) s =
      match run act s with
      | (.ok a, t) => (.ok (f a), t)
      | (.error e, t) => (.error e, t) := by
  rw [map_eq_pure_bind, run_bind]
  rfl

theorem run_tryCatch (act : Act σ α) (h : Fault → Act σ α) (s : σ) :
    run (tryCatch act h) s =
      match run act s with
      | (.ok a, t) => (.ok a, t)
      | (.error e, t) => run (h e) t := by
  simp only [run, tryCatch, tryCatchThe, MonadExceptOf.tryCatch, ExceptT.tryCatch, ExceptT.mk,
    ExceptT.run, StateT.run, bind, StateT.bind]
  rcases act s with ⟨r, t⟩
  cases r <;> rfl

/-- Where an operation ends: returning in one way, failing in another. -/
def Ends (act : Act σ α) (s : σ) (ok : α → σ → Prop) (bad : Fault → σ → Prop) : Prop :=
  match run act s with
  | (.ok a, t) => ok a t
  | (.error e, t) => bad e t

section Ends

variable {act : Act σ α} {f : α → Act σ β} {s : σ} {ok ok' : α → σ → Prop}
  {done : β → σ → Prop} {bad bad' : Fault → σ → Prop}

theorem ends_iff : Ends act s ok bad ↔
    (∀ a t, run act s = (.ok a, t) → ok a t) ∧ ∀ e t, run act s = (.error e, t) → bad e t := by
  unfold Ends
  split <;> simp_all

/-- Where an operation ends, whichever way out it takes. -/
theorem ends_state {p : σ → Prop} :
    Ends act s (fun _ u => p u) (fun _ u => p u) ↔ p (run act s).2 := by
  unfold Ends
  rcases run act s with ⟨r, t⟩
  cases r with
  | ok a => rfl
  | error e => rfl

theorem Ends.state {p : σ → Prop} {r : Except Fault α} {t : σ}
    (h : Ends act s (fun _ u => p u) (fun _ u => p u)) (hrun : run act s = (r, t)) : p t := by
  have hp := ends_state.mp h
  rw [hrun] at hp
  exact hp

theorem ends_any (act : Act σ α) (s : σ) : Ends act s (fun _ _ => True) (fun _ _ => True) :=
  ends_iff.mpr ⟨fun _ _ _ => trivial, fun _ _ _ => trivial⟩

@[simp] theorem ends_pure {a : α} : Ends (pure a : Act σ α) s ok bad ↔ ok a s := Iff.rfl

@[simp] theorem ends_throw {e : Fault} : Ends (throw e : Act σ α) s ok bad ↔ bad e s := Iff.rfl

@[simp] theorem ends_modify {g : σ → σ} {ok : PUnit → σ → Prop} :
    Ends (modify g : Act σ PUnit) s ok bad ↔ ok () (g s) := Iff.rfl

@[simp] theorem ends_get_bind {g : σ → Act σ β} :
    Ends (get >>= g) s done bad ↔ Ends (g s) s done bad := by
  unfold Ends
  rw [run_bind, run_get]

@[simp] theorem ends_modify_bind {g : σ → σ} {h : PUnit → Act σ β} :
    Ends (modify g >>= h) s done bad ↔ Ends (h ()) (g s) done bad := by
  unfold Ends
  rw [run_bind, run_modify]

@[simp] theorem ends_set_bind {t : σ} {h : PUnit → Act σ β} :
    Ends (set t >>= h) s done bad ↔ Ends (h ()) t done bad := by
  unfold Ends
  rw [run_bind, run_set]

theorem Ends.mono (h : Ends act s ok bad) (hok : ∀ a t, ok a t → ok' a t)
    (hbad : ∀ e t, bad e t → bad' e t) : Ends act s ok' bad' := by
  rw [ends_iff] at h ⊢
  exact ⟨fun a t ht => hok a t (h.1 a t ht), fun e t ht => hbad e t (h.2 e t ht)⟩

theorem Ends.and (h : Ends act s ok bad) (h' : Ends act s ok' bad') :
    Ends act s (fun a t => ok a t ∧ ok' a t) fun e t => bad e t ∧ bad' e t := by
  rw [ends_iff] at h h' ⊢
  exact ⟨fun a t ht => ⟨h.1 a t ht, h'.1 a t ht⟩, fun e t ht => ⟨h.2 e t ht, h'.2 e t ht⟩⟩

theorem Ends.bind (h : Ends act s ok bad) (hf : ∀ a t, ok a t → Ends (f a) t done bad) :
    Ends (act >>= f) s done bad := by
  rw [ends_iff] at h
  unfold Ends
  rw [run_bind]
  rcases hr : run act s with ⟨r, t⟩
  cases r with
  | ok a => exact hf a t (h.1 a t hr)
  | error e => exact h.2 e t hr

theorem Ends.discard {p : σ → Prop} (h : Ends act s (fun _ t => p t) bad) :
    Ends (discard act) s (fun _ t => p t) bad := h.bind fun _ _ hp => hp

/-- A result that was there before. -/
theorem ends_lift {r : Except Fault α} (h : ∀ a, r = .ok a → ok a s)
    (hbad : ∀ e, r = .error e → bad e s) : Ends (liftM r : Act σ α) s ok bad := by
  unfold Ends
  rw [run_lift]
  cases hr : r with
  | ok a => exact h a hr
  | error e => exact hbad e hr

theorem ends_lift_bind {r : Except Fault α} (h : ∀ a, r = .ok a → Ends (f a) s done bad)
    (hbad : ∀ e, r = .error e → bad e s) : Ends ((liftM r : Act σ α) >>= f) s done bad := by
  unfold Ends
  rw [run_bind, run_lift]
  cases hr : r with
  | ok a => exact h a hr
  | error e => exact hbad e hr

theorem Ends.tryCatch {h : Fault → Act σ α} (hact : Ends act s ok bad)
    (hh : ∀ e t, bad e t → Ends (h e) t ok bad') : Ends (tryCatch act h) s ok bad' := by
  rw [ends_iff] at hact
  unfold Ends
  rw [run_tryCatch]
  rcases hr : run act s with ⟨r, t⟩
  cases r with
  | ok a => exact hact.1 a t hr
  | error e => exact hh e t (hact.2 e t hr)

end Ends

end Act

end LinkShelf
