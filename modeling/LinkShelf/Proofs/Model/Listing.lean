import LinkShelf.Proofs.Json.Display
import LinkShelf.Proofs.Model.Accounting
/-!
The list of models. It begins with the own one and has every name once, whatever the server does,
unless that gives something for a name that is no text: this gets into the list as well, and where
it is a list or an object, asking for the models fails.
-/
namespace LinkShelf

section Gives

variable {α β : Type} {r : Except Fault α} {g : α → Except Fault β} {ok ok' : α → Prop}
  {done : β → Prop} {bad bad' : Fault → Prop} {a : α} {f : Fault}

/-- What comes of a computation: a value of one kind, or a fault of another. -/
def Gives (r : Except Fault α) (ok : α → Prop) (bad : Fault → Prop) : Prop :=
  match r with
  | .ok a => ok a
  | .error f => bad f

theorem Gives.mono (h : Gives r ok bad) (hok : ∀ a, ok a → ok' a) (hbad : ∀ f, bad f → bad' f) :
    Gives r ok' bad' := by
  cases r with
  | ok a => exact hok a h
  | error f => exact hbad f h

theorem Gives.of_ok (h : Gives r ok bad) (hr : r = .ok a) : ok a := by
  rwa [hr] at h

theorem Gives.of_error (h : Gives r ok bad) (hr : r = .error f) : bad f := by
  rwa [hr] at h

theorem Gives.bind (h : Gives r ok bad)
    (hg : ∀ a, ok a → Gives (g a) done bad) : Gives (r >>= g) done bad := by
  cases r with
  | ok a => exact hg a h
  | error f => exact h

theorem Gives.mapM (hg : ∀ a, Gives (g a) done bad) (xs : List α) :
    Gives (xs.mapM g) (fun ys => ∀ y ∈ ys, done y) bad := by
  induction xs with
  | nil => exact fun y hy => absurd hy List.not_mem_nil
  | cons x xs ih =>
    rw [List.mapM_cons]
    exact (hg x).bind fun y hy => ih.bind fun ys hys =>
      List.forall_mem_cons.mpr ⟨hy, hys⟩

end Gives

namespace Act

variable {σ α β : Type} {act : Act σ α} {s : σ} {a : α} {f : Fault} {bad : Fault → σ → Prop}

theorem ends_map {g : α → β} {ok : β → σ → Prop} :
    Ends (g <$> act) s ok bad ↔ Ends act s (fun a t => ok (g a) t) bad := by
  unfold Ends
  rw [run_map]
  rcases run act s with ⟨r, t⟩
  cases r <;> rfl

theorem Ends.of_ok {ok : α → σ → Prop} (h : Ends act s ok bad) (hrun : (run act s).1 = .ok a) :
    ∃ t, ok a t :=
  ⟨_, (ends_iff.mp h).1 a (run act s).2 (by rw [← hrun])⟩

theorem Ends.of_error {ok : α → σ → Prop} (h : Ends act s ok bad)
    (hrun : (run act s).1 = .error f) : ∃ t, bad f t :=
  ⟨_, (ends_iff.mp h).2 f (run act s).2 (by rw [← hrun])⟩

end Act

namespace Json

variable {v : Json} {vs ws seen : List Json} {f : Fault} {m : String}

/-- A value that is a text, if it counts as anything. -/
def TextIfAny (v : Json) : Prop := v.truthy = true → ∃ s, v = .str s

/-- The fault of a list or an object among values that are to be told apart. -/
def unhashable (v : Json) : Fault := .badType ("unhashable type: '" ++ v.typeName ++ "'")

theorem eq_str_of_sameScalar {t : String} (h : sameScalar v (.str t) = true) : v = .str t := by
  cases v with
  | str s => exact congrArg Json.str (of_decide_eq_true h)
  | float x => cases x <;> cases h
  | _ => cases h

theorem any_sameScalar_str (s : String) (names : List String) :
    (names.map Json.str).any (sameScalar (.str s)) = true ↔ s ∈ names := by
  simp [sameScalar, List.any_eq_true]

/-- Texts and what does not count are gone through to the end. -/
theorem distinctAfter_texts (names : List String) (h : ∀ v ∈ vs, TextIfAny v) :
    ∃ more : List String, distinctAfter (names.map .str) vs = .ok (more.map .str) ∧ more.Nodup ∧
      "" ∉ more ∧ ∀ s ∈ more, s ∉ names := by
  induction vs generalizing names with
  | nil => exact ⟨[], rfl, List.nodup_nil, List.not_mem_nil, by simp⟩
  | cons v vs ih =>
    obtain ⟨hv, hrest⟩ := List.forall_mem_cons.mp h
    rw [distinctAfter]
    cases htruthy : v.truthy with
    | false => simpa using ih names hrest
    | true =>
      obtain ⟨s, rfl⟩ := hv htruthy
      have hfilled : s ≠ "" := by simpa [truthy] using htruthy
      by_cases hs : s ∈ names
      · rw [if_pos ((any_sameScalar_str s names).mpr hs)]
        simpa [isCompound] using ih names hrest
      · obtain ⟨more, hmore, hnodup, hempty, hnew⟩ := ih (s :: names) hrest
        have hany := mt (any_sameScalar_str s names).mp hs
        refine ⟨s :: more, ?_, ?_, ?_, ?_⟩
        · rw [if_neg hany]
          simp only [isCompound, Bool.not_true, Bool.false_eq_true, if_false]
          rw [← List.map_cons, hmore]
          rfl
        · exact List.nodup_cons.mpr ⟨fun hin => hnew s hin List.mem_cons_self, hnodup⟩
        · simpa using ⟨hfilled, hempty⟩
        · exact List.forall_mem_cons.mpr
            ⟨hs, fun t ht hin => hnew t ht (List.mem_cons_of_mem s hin)⟩

/-- What counts and is no text is among the values that are left. -/
theorem textIfAny_of_distinctAfter (h : distinctAfter seen vs = .ok ws)
    (hseen : ∀ v ∈ seen, ∃ s, v = .str s) (hws : ∀ v ∈ ws, ∃ s, v = .str s) :
    ∀ v ∈ vs, TextIfAny v := by
  fun_induction distinctAfter seen vs generalizing ws with
  | case1 => simp
  | case2 seen v vs hfalsy ih =>
    refine List.forall_mem_cons.mpr ⟨fun htruthy => ?_, ih h hseen hws⟩
    simp [htruthy] at hfalsy
  | case3 => cases h
  | case4 seen v vs htruthy hsimple hsame ih =>
    refine List.forall_mem_cons.mpr ⟨fun _ => ?_, ih h hseen hws⟩
    obtain ⟨w, hw, hsame⟩ := List.any_eq_true.mp hsame
    obtain ⟨t, rfl⟩ := hseen w hw
    exact ⟨t, eq_str_of_sameScalar hsame⟩
  | case5 seen v vs htruthy hsimple hnew ih =>
    obtain ⟨rest, hrest, h⟩ := bind_eq_ok.mp h
    cases h
    obtain ⟨hv, hws⟩ := List.forall_mem_cons.mp hws
    exact List.forall_mem_cons.mpr
      ⟨fun _ => hv, ih hrest (List.forall_mem_cons.mpr ⟨hv, hseen⟩) hws⟩

/-- Nothing but a list or an object stops the way through. -/
theorem gives_distinctAfter (seen vs : List Json) : Gives (distinctAfter seen vs)
    (fun _ => ∀ v ∈ vs, v.truthy = true → v.isCompound = false)
    (fun f => ∃ v ∈ vs, v.truthy = true ∧ v.isCompound = true ∧ f = unhashable v) := by
  have hmore {f : Fault} (v : Json) {vs : List Json}
      (h : ∃ w ∈ vs, w.truthy = true ∧ w.isCompound = true ∧ f = unhashable w) :
      ∃ w ∈ v :: vs, w.truthy = true ∧ w.isCompound = true ∧ f = unhashable w := by
    obtain ⟨w, hw, hf⟩ := h
    exact ⟨w, List.mem_cons_of_mem v hw, hf⟩
  fun_induction distinctAfter seen vs with
  | case1 => exact fun v hv => absurd hv List.not_mem_nil
  | case2 seen v vs hfalsy ih =>
    refine ih.mono (fun _ h => ?_) fun _ h => hmore v h
    exact List.forall_mem_cons.mpr ⟨fun htruthy => by simp [htruthy] at hfalsy, h⟩
  | case3 seen v vs htruthy hcompound =>
    exact ⟨v, List.mem_cons_self, by simpa using htruthy, hcompound, rfl⟩
  | case4 seen v vs htruthy hsimple hsame ih =>
    refine ih.mono (fun _ h => ?_) fun _ h => hmore v h
    exact List.forall_mem_cons.mpr ⟨fun _ => by simpa using hsimple, h⟩
  | case5 seen v vs htruthy hsimple hnew ih =>
    refine (ih.mono (fun _ h => ?_) fun _ h => hmore v h).bind fun _ h => h
    exact List.forall_mem_cons.mpr ⟨fun _ => by simpa using hsimple, h⟩

theorem eq_nan_of_isNaN (h : v.isNaN = true) : v = .float .nan := by
  unfold isNaN at h
  split at h
  · rfl
  · cases h

theorem mem_oneNaN : v ∈ oneNaN vs ↔ v ∈ vs := by
  induction vs with
  | nil => rfl
  | cons u vs ih =>
    unfold oneNaN
    split
    · rename_i hu
      simp only [List.mem_cons, List.mem_filter]
      refine or_congr_right' fun hne => and_iff_left ?_
      have hv : v.isNaN ≠ true := fun hv =>
        hne ((eq_nan_of_isNaN hv).trans (eq_nan_of_isNaN hu).symm)
      simpa using hv
    · rw [List.mem_cons, List.mem_cons, ih]

end Json

namespace Client

open LinkShelf.Act
open LinkShelf.Json (TextIfAny unhashable)

variable {c : Client} {w : Wire} {vs ws : List Json} {f : Fault} {x : Binary64}

/-- A client has a model: that of its provider, where no other one is given. -/
theorem model_ne_of_made {p : Provider} {options : Members} (h : ofOptions p options = .ok c) :
    c.model ≠ "" := by
  have hdefault : p.defaultModel ≠ "" := by cases p <;> decide
  obtain ⟨baseDelay, -, h⟩ := bind_eq_ok.mp h
  obtain ⟨maxDelay, -, h⟩ := bind_eq_ok.mp h
  cases h
  intro hempty
  have hmodel := Json.text_eq_empty hempty
  unfold Json.orElse at hmodel
  split at hmodel
  · rename_i htruthy
    rw [hmodel] at htruthy
    cases htruthy
  · exact hdefault (Json.str.inj hmodel)

/-- Names of models: texts that are not empty, each once, the own one first. -/
def Listing (c : Client) (vs : List Json) : Prop :=
  ∃ more : List String, vs = (c.model :: more).map .str ∧ (c.model :: more).Nodup ∧
    "" ∉ c.model :: more

/-- Asking for the models does not fail, and brings names of models. -/
def ListsNames (c : Client) (w : Wire) : Prop :=
  Ends c.listModels w (fun ws _ => Listing c ws) (fun _ _ => False)

theorem listing_distinct (hmodel : c.model ≠ "") (h : ∀ v ∈ vs, TextIfAny v) :
    ∃ ws, Json.distinct (.str c.model :: vs) = .ok ws ∧ Listing c ws := by
  obtain ⟨more, hmore, hnodup, hempty, hnew⟩ := Json.distinctAfter_texts [c.model] h
  refine ⟨(c.model :: more).map .str, ?_, more, rfl, ?_, ?_⟩
  · rw [List.map_cons, List.map_nil] at hmore
    rw [Json.distinct, Json.distinctAfter, hmore]
    simp [Json.truthy, hmodel, Json.isCompound]
  · exact List.nodup_cons.mpr ⟨fun hin => hnew _ hin List.mem_cons_self, hnodup⟩
  · simpa using ⟨hmodel, hempty⟩

theorem textIfAny_of_listing (h : Json.distinct (.str c.model :: vs) = .ok ws)
    (hws : Listing c ws) : ∀ v ∈ vs, TextIfAny v := by
  obtain ⟨more, rfl, -, -⟩ := hws
  have hall := Json.textIfAny_of_distinctAfter h nofun fun v hv => by
    obtain ⟨s, -, rfl⟩ := List.mem_map.mp hv
    exact ⟨s, rfl⟩
  exact (List.forall_mem_cons.mp hall).2

theorem gives_distinct (c : Client) (vs : List Json) :
    Gives (Json.distinct (.str c.model :: Json.oneNaN vs))
      (fun _ => ∀ v ∈ vs, v.truthy = true → v.isCompound = false)
      (fun f => ∃ v ∈ vs, v.truthy = true ∧ v.isCompound = true ∧ f = unhashable v) := by
  refine (Json.gives_distinctAfter [] (.str c.model :: Json.oneNaN vs)).mono ?_ ?_
  · exact fun _ h v hv => h v (List.mem_cons_of_mem _ (Json.mem_oneNaN.mpr hv))
  · rintro f ⟨v, hv, htruthy, hcompound, hf⟩
    rcases List.mem_cons.mp hv with rfl | hv
    · cases hcompound
    · exact ⟨v, Json.mem_oneNaN.mp hv, htruthy, hcompound, hf⟩

/-- The request for the names of the models. -/
def namesRequest (c : Client) : Request :=
  { method := .get, url := c.base ++ modelsPath c.provider, parameters := c.parameters,
    headers := c.headers }

/-- The values that a server gives for names: those in the answer to the last try, if the client has
a key where it needs one, the request can be sent, and the answer has a list of the right form. -/
structure Offers (c : Client) (w : Wire) (vs : List Json) : Prop where
  keyed : ¬(c.provider.needsKey && c.key = "") = true
  fits : c.KeyFits
  answered : ∃ k v, Decides w.answers w.requests.length c.maxRetries.toNat k ∧
    verdict (w.answers (w.requests.length + k)) = .ok v ∧ namesIn c.provider v = .ok vs

theorem Decides.unique {answers : Nat → Except Fault Response} {start max k l : Nat}
    (hk : Decides answers start max k) (hl : Decides answers start max l) : k = l := by
  have hle {k l : Nat} (hk : Decides answers start max k) (hl : Decides answers start max l) :
      l ≤ k := by
    by_contra hlt
    rcases hk.last with rfl | hlast
    · exact hlt hl.within
    · exact hlast (hl.passed k (by omega))
  exact Nat.le_antisymm (hle hl hk) (hle hk hl)

theorem Offers.unique (h : Offers c w vs) (h' : Offers c w ws) : vs = ws := by
  obtain ⟨k, v, hk, hv, hvs⟩ := h.answered
  obtain ⟨l, u, hl, hu, hws⟩ := h'.answered
  obtain rfl := hk.unique hl
  obtain rfl := Except.ok.inj (hv.symm.trans hu)
  exact Except.ok.inj (hvs.symm.trans hws)

theorem gives_memberOf (v : Json) (name : String) :
    Gives (memberOf v name) (fun _ => True) (fun f => spares f = true) := by
  cases v <;> trivial

theorem gives_nameOf (p : Provider) (entry : Json) : Gives (nameOf p entry)
    (fun v => p = .gemini → ∃ s, v = .str s) (fun f => spares f = true) := by
  unfold nameOf
  cases p with
  | gemini =>
    refine (gives_memberOf _ _).bind fun v _ => ?_
    split
    · exact fun _ => ⟨_, rfl⟩
    · rfl
  | ollama =>
    exact (gives_memberOf _ _).bind fun _ _ => (gives_memberOf _ _).bind fun _ _ => nofun
  | _ => exact (gives_memberOf _ _).mono (fun _ _ => nofun) fun _ h => h

theorem gives_namesIn (p : Provider) (v : Json) : Gives (namesIn p v)
    (fun vs => ∀ v ∈ vs, p = .gemini → ∃ s, v = .str s) (fun f => spares f = true) := by
  have helements (v : Json) : Gives v.elements (fun _ => True) (fun f => spares f = true) := by
    cases v <;> trivial
  exact (gives_memberOf v _).bind fun _ _ => (helements _).bind fun _ _ =>
    Gives.mapM (gives_nameOf p) _

theorem ends_fetchNames (w : Wire) (hs : Scripted w.answers)
    (hkey : ¬(c.provider.needsKey && c.key = "") = true)
    (hpower : Json.wholeAsReal (2 ^ c.maxRetries.toNat : Nat) = .ok x) :
    Ends c.fetchNames w (fun vs _ => Offers c w vs)
      (fun f _ => spares f = true ∧ ∀ vs, ¬Offers c w vs) := by
  have hsend : Sendable c.namesRequest ↔ c.KeyFits := sendable_iff ""
  by_cases hfits : c.KeyFits
  · refine ((ends_ask_accounted (hsend.mpr hfits) w hs hpower).mono (fun _ _ h => h) ?_).bind ?_
    · rintro f t ⟨k, hk, -, said, hsaid, message, rfl⟩
      refine ⟨rfl, fun vs hvs => ?_⟩
      obtain ⟨l, v, hl, hv, -⟩ := hvs.answered
      obtain rfl := hk.unique hl
      cases hsaid.symm.trans hv
    · rintro v t ⟨k, hk, -, hv⟩
      refine ends_lift (fun vs hvs => ⟨hkey, hfits, k, v, hk, hv, hvs⟩) fun f hf => ?_
      refine ⟨(gives_namesIn c.provider v).of_error hf, fun vs hvs => ?_⟩
      obtain ⟨l, u, hl, hu, hvs⟩ := hvs.answered
      obtain rfl := hk.unique hl
      obtain rfl := Except.ok.inj (hv.symm.trans hu)
      cases hf.symm.trans hvs
  · refine ((ends_ask_unsendable (mt hsend.mp hfits) w).mono (fun _ _ h => h) ?_).bind
      fun _ _ h => h.elim
    rintro f t ⟨rfl, -⟩
    exact ⟨rfl, fun vs hvs => hfits hvs.fits⟩

/-- What was found of the names that a server gives. -/
def Found (c : Client) (w : Wire) : Option (List Json) → Prop
  | some vs => Offers c w vs
  | none => ∀ vs, ¬Offers c w vs

/-- What is offered is gone through; where nothing is, the known models are listed. -/
theorem ends_listModels (w : Wire) (hs : Scripted w.answers) (hmodel : c.model ≠ "")
    (hpower : Json.wholeAsReal (2 ^ c.maxRetries.toNat : Nat) = .ok x) :
    Ends c.listModels w
      (fun ws _ => (∃ vs, Offers c w vs ∧ Json.distinct (.str c.model :: Json.oneNaN vs) = .ok ws) ∨
        (∀ vs, ¬Offers c w vs) ∧ Listing c ws)
      (fun f _ => ∃ vs, Offers c w vs ∧
        Json.distinct (.str c.model :: Json.oneNaN vs) = .error f) := by
  have htexts : ∀ v ∈ c.provider.knownModels.map Json.str, TextIfAny v := by
    intro v hv _
    obtain ⟨s, -, rfl⟩ := List.mem_map.mp hv
    exact ⟨s, rfl⟩
  obtain ⟨known, hknown, hlisting⟩ := listing_distinct hmodel htexts
  unfold listModels
  refine ends_lift_bind (fun ws hws => ?_) fun f hf => ?_
  · obtain rfl := Except.ok.inj (hws.symm.trans hknown)
    split
    · rename_i hkey
      exact .inr ⟨fun vs hvs => hvs.keyed hkey, hlisting⟩
    · rename_i hkey
      have hnames : Ends (tryCatch (some <$> c.fetchNames) fun f =>
          if spares f then pure none else throw f) w (fun names _ => Found c w names)
          (fun _ _ => False) := by
        refine Ends.tryCatch (ends_map.mpr (ends_fetchNames w hs hkey hpower)) ?_
        rintro f t ⟨hspares, hnone⟩
        rw [if_pos hspares]
        exact hnone
      refine (hnames.mono (fun _ _ h => h) fun _ _ h => h.elim).bind fun names t ht => ?_
      cases names with
      | none => exact .inr ⟨ht, hlisting⟩
      | some vs => exact ends_lift (fun _ hws => .inl ⟨vs, ht, hws⟩) fun _ hf => ⟨vs, ht, hf⟩
  · cases hf.symm.trans hknown

/-- Where all is text that counts, nothing stops the way through. -/
theorem listsNames_of_texts (w : Wire) (hs : Scripted w.answers) (hmodel : c.model ≠ "")
    (hpower : Json.wholeAsReal (2 ^ c.maxRetries.toNat : Nat) = .ok x)
    (htexts : ∀ vs, Offers c w vs → ∀ v ∈ vs, TextIfAny v) : ListsNames c w := by
  have hdistinct {vs : List Json} (hvs : Offers c w vs) :
      ∃ ws, Json.distinct (.str c.model :: Json.oneNaN vs) = .ok ws ∧ Listing c ws :=
    listing_distinct hmodel fun v hv => htexts vs hvs v (Json.mem_oneNaN.mp hv)
  refine (ends_listModels w hs hmodel hpower).mono ?_ ?_
  · rintro ws t (⟨vs, hvs, hws⟩ | ⟨-, hws⟩)
    · obtain ⟨us, hus, hlisting⟩ := hdistinct hvs
      rwa [Except.ok.inj (hws.symm.trans hus)]
    · exact hws
  · rintro f t ⟨vs, hvs, hf⟩
    obtain ⟨us, hus, -⟩ := hdistinct hvs
    cases hf.symm.trans hus

/-- Names of models are brought just if all is text that the server gives for names and that counts.
Asking for them fails only where a list or an object is among what counts, and there always. Of what
Gemini's servers give nothing but texts is taken. -/
theorem models_listed (w : Wire) (hs : Scripted w.answers) (hmodel : c.model ≠ "")
    (hpower : Json.wholeAsReal (2 ^ c.maxRetries.toNat : Nat) = .ok x) :
    (ListsNames c w ↔ ∀ vs, Offers c w vs → ∀ v ∈ vs, TextIfAny v) ∧
    Ends c.listModels w
      (fun _ _ => ∀ vs, Offers c w vs → ∀ v ∈ vs, v.truthy = true → v.isCompound = false)
      (fun f _ => ∃ vs, Offers c w vs ∧
        ∃ v ∈ vs, v.truthy = true ∧ v.isCompound = true ∧ f = unhashable v) ∧
    (c.provider = .gemini → ListsNames c w) := by
  have hends := ends_listModels w hs hmodel hpower
  have hlisted := listsNames_of_texts w hs hmodel hpower
  refine ⟨⟨fun h vs hvs v hv => ?_, hlisted⟩, hends.mono ?_ ?_, fun hgemini => hlisted ?_⟩
  · refine (ends_state (p := fun _ => TextIfAny v)).mp ((hends.and h).mono ?_ fun _ _ h => h.2.elim)
    rintro ws t ⟨⟨us, hus, hws⟩ | ⟨hnone, -⟩, hlisting⟩
    · obtain rfl := hvs.unique hus
      exact textIfAny_of_listing hws hlisting v (Json.mem_oneNaN.mpr hv)
    · exact (hnone vs hvs).elim
  · rintro ws t (⟨vs, hvs, hws⟩ | ⟨hnone, -⟩) us hus
    · rw [hus.unique hvs]
      exact (gives_distinct c vs).of_ok hws
    · exact (hnone us hus).elim
  · rintro f t ⟨vs, hvs, hf⟩
    exact ⟨vs, hvs, (gives_distinct c vs).of_error hf⟩
  · rintro vs ⟨-, -, k, u, -, -, hnames⟩ v hv -
    exact (gives_namesIn c.provider u).of_ok hnames v hv hgemini

section Example

def namedData (names : List Json) : Body :=
  .json (.obj [("data", .arr (names.map fun v => .obj [("id", v)]))])

/-- The server is busy, then it lists models: one twice, the own one, and entries that say nothing. -/
@[irreducible] def modelsWire : Wire :=
  { answers := fun n => match n with
      | 0 => .ok { status := 503, body := .text "" }
      | _ => .ok { body := namedData [.str "x", .null, .str "m", .str "x", .str "", .arr []] }
    clock := fun _ => half }

theorem modelsWire_scripted : Scripted modelsWire.answers := by
  unfold modelsWire
  intro n f hf
  match n with
  | 0 => cases hf
  | n + 1 => cases hf

theorem modelsWire_offers : Offers shakyClient modelsWire
    [.str "x", .null, .str "m", .str "x", .str "", .arr []] := by
  unfold modelsWire
  refine ⟨by decide, .inr (.inr (by decide)), 1, _, ⟨by decide, ?_, .inr ?_⟩, rfl, rfl⟩
  · intro i hi
    obtain rfl : i = 0 := by omega
    exact (by decide : (503 : Int) ∈ [408, 423, 429, 500, 502, 503, 504])
  · exact (by decide : ¬(200 : Int) ∈ [408, 423, 429, 500, 502, 503, 504])

theorem modelsWire_listed : Scripted modelsWire.answers ∧ shakyClient.model ≠ "" ∧
    (∃ x, Json.wholeAsReal (2 ^ shakyClient.maxRetries.toNat : Nat) = .ok x) ∧
    ListsNames shakyClient modelsWire ∧
    (Wire.run shakyClient.listModels modelsWire).1.toOption.map (·.map Json.text) =
      some ["m", "x"] := by
  obtain ⟨x, hx⟩ : ∃ x, Json.wholeAsReal (2 ^ shakyClient.maxRetries.toNat : Nat) = .ok x :=
    Json.wholeAsReal_small (by decide)
  have hmodel : shakyClient.model ≠ "" := by decide
  have htexts : ∀ vs, Offers shakyClient modelsWire vs → ∀ v ∈ vs, TextIfAny v := by
    intro vs hvs
    rw [hvs.unique modelsWire_offers]
    simp [TextIfAny, Json.truthy]
  exact ⟨modelsWire_scripted, hmodel, ⟨x, hx⟩,
    (models_listed modelsWire modelsWire_scripted hmodel hx).1.mpr htexts, by decide +kernel⟩

/-- A server that gives this for the name of its only model. -/
def namingWire (name : Json) : Wire :=
  { answers := fun _ => .ok { body := namedData [name] }
    clock := fun _ => half }

/-- With a list for a name asking fails, and a number for a name is listed. -/
theorem odd_names_listed :
    (Scripted (namingWire (.arr [.str "x"])).answers ∧
      (Wire.run shakyClient.listModels (namingWire (.arr [.str "x"]))).1 =
        .error (.badType "unhashable type: 'list'") ∧
      ¬ListsNames shakyClient (namingWire (.arr [.str "x"]))) ∧
    Scripted (namingWire (.int 5)).answers ∧
      (Wire.run shakyClient.listModels (namingWire (.int 5))).1 = .ok [.str "m", .int 5] ∧
      ¬ListsNames shakyClient (namingWire (.int 5)) := by
  have hlist : (Wire.run shakyClient.listModels (namingWire (.arr [.str "x"]))).1 =
      .error (.badType "unhashable type: 'list'") := rfl
  have hnumber : (Wire.run shakyClient.listModels (namingWire (.int 5))).1 =
      .ok [.str "m", .int 5] := rfl
  refine ⟨⟨nofun, hlist, fun h => ?_⟩, nofun, hnumber, fun h => ?_⟩
  · obtain ⟨t, ht⟩ := h.of_error hlist
    exact ht
  · obtain ⟨t, more, heq, -, -⟩ := h.of_ok hnumber
    cases more with
    | nil => cases heq
    | cons s more => cases heq

end Example

end Client

end LinkShelf
