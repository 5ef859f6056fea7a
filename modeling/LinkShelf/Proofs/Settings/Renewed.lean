import LinkShelf.Proofs.Settings.Bounds
import LinkShelf.Settings.Change
/-!
Settings that are checked once more. What a check has let through is let through again when it is
written down, and comes out the same; so arguments that are put over settings within bounds change
what they name and nothing else.
-/
namespace LinkShelf

namespace Checked

variable {α : Type} {ms : Members} {name : String} {place : List String} {before a : α}
  {held : List String → Checked α} {check : List String → Json → Checked α}

theorem renewing_eq (h : ∀ place, held place = .ok before) :
    renewing ms name held check place = replacing ms name before check place := by
  unfold renewing replacing
  cases Members.get? ms name with
  | some v => rfl
  | none => exact h _

theorem replacing_none (h : Members.get? ms name = none) :
    replacing ms name before check place = .ok before := by
  rw [replacing, h]

theorem replacing_some {v : Json} (h : Members.get? ms name = some v) :
    replacing ms name before check place = check (place ++ [name]) v := by
  rw [replacing, h]

theorem replaced_none (hget : Members.get? ms name = none)
    (h : replacing ms name before check place = .ok a) : a = before := by
  rw [replacing_none hget] at h
  cases h
  rfl

/-- A setting has what its check lets through if it is given, and stays otherwise. -/
theorem replaced (p : α → Prop) {c : Prop} [Decidable c] {v : Json}
    (hget : Members.get? ms name = if c then some v else none)
    (hcheck : ∀ place, c → check place v = .ok a → p a)
    (h : replacing ms name before check place = .ok a) : if c then p a else a = before := by
  by_cases hc : c
  · rw [if_pos hc] at hget ⊢
    rw [replacing_some hget] at h
    exact hcheck _ hc h
  · rw [if_neg hc] at hget ⊢
    exact replaced_none hget h

/-- A setting has a certain value if it is given, and stays otherwise. -/
theorem replaced_by {c : Prop} [Decidable c] {v : Json} {b : α}
    (hget : Members.get? ms name = if c then some v else none)
    (hcheck : ∀ place, check place v = .ok b)
    (h : replacing ms name before check place = .ok a) : a = if c then b else before := by
  have hgiven := replaced (· = b) hget
    (fun place _ ha => Except.ok.inj (ha.symm.trans (hcheck place))) h
  split at hgiven
  · rename_i hc
    exact hgiven.trans (if_pos hc).symm
  · rename_i hc
    exact hgiven.trans (if_neg hc).symm

theorem truth_ok {v : Json} {b : Bool} (h : truth place v = .ok b) : truthOf v = .ok b := by
  unfold truth at h
  split at h
  · cases h
    assumption
  · cases h

/-- A setting that was replaced is replaced by the same again. -/
theorem replacing_again (h : replacing ms name before check place = .ok a) :
    replacing ms name a check place = .ok a := by
  unfold replacing at h ⊢
  split at h
  · exact h
  · rfl

theorem oneOf_ok {named : List (String × α)} {v : Json} (h : oneOf place named v = .ok a) :
    ∃ s, v = .str s ∧ named.lookup s = some a := by
  unfold oneOf at h
  cases v with
  | str s =>
    refine ⟨s, rfl, ?_⟩
    simp only [Json.str?, Option.bind_some] at h
    generalize named.lookup s = found at h ⊢
    cases found with
    | none => cases h
    | some b =>
      cases h
      rfl
  | _ => cases h

theorem normalized_str {f : String → String} {v : Json} {x : String}
    (h : normalized f v = .str x) : ∃ s, v = .str s ∧ x = f (Text.trim s) := by
  cases v with
  | str s => exact ⟨s, rfl, (Json.str.inj h).symm⟩
  | _ => cases h

theorem name_of_lookup {as : List α} {nameOf : α → String} {s : String}
    (h : (as.map fun a => (nameOf a, a)).lookup s = some a) : nameOf a = s := by
  induction as with
  | nil => cases h
  | cons b as ih =>
    rw [List.map_cons, List.lookup_cons] at h
    split at h
    · rename_i heq
      cases h
      exact (eq_of_beq heq).symm
    · exact ih h

theorem whole_within {low high n : Int} (h : low ≤ n ∧ n ≤ high) :
    whole place low high (.int n) = .ok n := by
  rw [whole, wholeOf]
  simp only [if_neg (Int.not_lt.mpr h.1), if_neg (Int.not_lt.mpr h.2)]

theorem positive_within {limit x : Binary64} (hlt : Binary64.zero.lt x = true)
    (hle : x.le limit = true) : positive place limit (.float x) = .ok x := by
  have hreal : realOf (.float x) = .ok x := rfl
  unfold positive
  simp only [hreal, hle, hlt, Bool.not_true, Bool.false_eq_true, if_false]

end Checked

/-- Units above zero and up to others compare so as numbers. -/
theorem Binary64.bounds_of_units {u units : Nat} (hpos : 0 < u) (hle : u ≤ units) :
    zero.lt (.finite false u) = true ∧ le (.finite false u) (.finite false units) = true := by
  have hlt : compare (0 : Int) u = .lt := Int.compare_eq_lt.mpr (Int.natCast_pos.mpr hpos)
  have hle' : compare (u : Int) units = .lt ∨ compare (u : Int) units = .eq := by
    rcases Nat.lt_or_eq_of_le hle with h | h
    · exact .inl (Int.compare_eq_lt.mpr (Int.ofNat_lt.mpr h))
    · exact .inr (Int.compare_eq_eq.mpr (congrArg _ h))
  constructor
  · simpa [lt, zero, compare?, signed] using hlt
  · simpa [le, compare?, signed] using hle'

namespace ModelSettings

variable {m n : ModelSettings} {ms : Members} {place : List String} {key : Option String}

theorem providerIn_name (p : Provider) (place : List String) :
    providerIn place (.str p.name) = .ok p := by
  cases p <;> rfl

theorem heldText_eq (s : Option String) (place : List String) : heldText s place = .ok s := by
  cases s <;> rfl

theorem heldKey_eq {owner : String} (h : ∀ k, key = some k → k ∉ placeholderKeys)
    (place : List String) : heldKey owner key place = .ok key := by
  cases key with
  | none => rfl
  | some k => exact if_neg (h k rfl)

theorem InBounds.renew_eq (h : m.InBounds) (ms : Members) : m.renew ms = m.read ms := by
  have hkeys := h.keys
  have hgemini (place) : heldKey "Gemini" m.geminiKey place = .ok m.geminiKey :=
    heldKey_eq (fun k hk => hkeys k (.inl hk)) place
  have hopenai (place) : heldKey "Openai" m.openaiKey place = .ok m.openaiKey :=
    heldKey_eq (fun k hk => hkeys k (.inr (.inl hk))) place
  have hgrok (place) : heldKey "Grok" m.grokKey place = .ok m.grokKey :=
    heldKey_eq (fun k hk => hkeys k (.inr (.inr hk))) place
  have htimeout (place) : Checked.whole place 5 300 (.int m.timeout) = .ok m.timeout :=
    Checked.whole_within h.timeout
  have hretries (place) : Checked.whole place 0 10 (.int m.maxRetries) = .ok m.maxRetries :=
    Checked.whole_within h.maxRetries
  simp only [renew, ModelSettings.read, Checked.renewing_eq (providerIn_name m.provider),
    Checked.renewing_eq (heldText_eq m.model), Checked.renewing_eq (heldText_eq m.base),
    Checked.renewing_eq hgemini, Checked.renewing_eq hopenai, Checked.renewing_eq hgrok,
    Checked.renewing_eq htimeout, Checked.renewing_eq hretries]

/-- Settings that were read are so one by one. -/
structure Reads (m : ModelSettings) (ms : Members) (n : ModelSettings) : Prop where
  provider : Checked.replacing ms "provider" m.provider providerIn ["llm"] = .ok n.provider
  model : Checked.replacing ms "model" m.model Checked.optionalText ["llm"] = .ok n.model
  base : Checked.replacing ms "base_url" m.base Checked.optionalText ["llm"] = .ok n.base
  geminiKey : Checked.replacing ms "gemini_api_key" m.geminiKey (keyIn "Gemini") ["llm"] =
    .ok n.geminiKey
  openaiKey : Checked.replacing ms "openai_api_key" m.openaiKey (keyIn "Openai") ["llm"] =
    .ok n.openaiKey
  grokKey : Checked.replacing ms "grok_api_key" m.grokKey (keyIn "Grok") ["llm"] = .ok n.grokKey
  timeout : Checked.replacing ms "timeout" m.timeout (Checked.whole · 5 300) ["llm"] =
    .ok n.timeout
  maxRetries : Checked.replacing ms "max_retries" m.maxRetries (Checked.whole · 0 10) ["llm"] =
    .ok n.maxRetries

theorem read_ok : m.read ms = .ok n ↔ Reads m ms n := by
  unfold ModelSettings.read
  simp only [Checked.app_eq_ok]
  constructor
  · rintro ⟨_, retries, ⟨_, timeout, ⟨_, grok, ⟨_, openai, ⟨_, gemini, ⟨_, base, ⟨_, name,
      ⟨_, provider, ⟨⟩, hprovider, rfl⟩, hname, rfl⟩, hbase, rfl⟩, hgemini, rfl⟩, hopenai, rfl⟩,
      hgrok, rfl⟩, htimeout, rfl⟩, hretries, rfl⟩
    exact ⟨hprovider, hname, hbase, hgemini, hopenai, hgrok, htimeout, hretries⟩
  · intro h
    exact ⟨_, _, ⟨_, _, ⟨_, _, ⟨_, _, ⟨_, _, ⟨_, _, ⟨_, _, ⟨_, _, rfl, h.provider, rfl⟩, h.model,
      rfl⟩, h.base, rfl⟩, h.geminiKey, rfl⟩, h.openaiKey, rfl⟩, h.grokKey, rfl⟩, h.timeout, rfl⟩,
      h.maxRetries, rfl⟩

theorem read_again (h : m.read ms = .ok n) : n.read ms = .ok n := by
  have h := read_ok.mp h
  exact read_ok.mpr ⟨Checked.replacing_again h.provider, Checked.replacing_again h.model,
    Checked.replacing_again h.base, Checked.replacing_again h.geminiKey,
    Checked.replacing_again h.openaiKey, Checked.replacing_again h.grokKey,
    Checked.replacing_again h.timeout, Checked.replacing_again h.maxRetries⟩

end ModelSettings

namespace StorageSettings

variable {home : Path} {s t : StorageSettings} {ms : Members}

theorem renew_eq (home : Path) (s : StorageSettings) (ms : Members) :
    s.renew home ms = s.read home ms := by
  have hbackend (place) : Checked.oneOf place Backend.named (.str s.backend.name) =
      .ok s.backend := by
    cases s.backend <;> rfl
  have hpath (place : List String) :
      (fun _ => .ok s.path : List String → Checked Path) place = .ok s.path := rfl
  simp only [renew, StorageSettings.read, Checked.renewing_eq hbackend, Checked.renewing_eq hpath]

theorem read_again (h : s.read home ms = .ok t) : t.read home ms = .ok t := by
  unfold StorageSettings.read at h
  simp only [Checked.app_eq_ok] at h
  obtain ⟨_, path, ⟨_, backend, ⟨⟩, hbackend, rfl⟩, hpath, rfl⟩ := h
  simp only [StorageSettings.read, Checked.replacing_again hbackend,
    Checked.replacing_again hpath, Checked.app]

end StorageSettings

namespace AgentSettings

variable {a b : AgentSettings} {ms : Members}

theorem InBounds.renew_eq (h : a.InBounds) (ms : Members) : a.renew ms = a.read ms := by
  obtain ⟨units, hunits, hpos, hle⟩ := h.urlTimeout
  have hurls (place) : Checked.positive place maxUrlTimeout (.float a.urlTimeout) =
      .ok a.urlTimeout := by
    rw [hunits, maxUrlTimeout_eq]
    obtain ⟨hlt, hle⟩ := Binary64.bounds_of_units hpos hle
    exact Checked.positive_within hlt hle
  have hflag (b : Bool) (place) : Checked.truth place (.bool b) = .ok b := rfl
  simp only [renew, AgentSettings.read, Checked.renewing_eq (hflag a.stackPlans),
    Checked.renewing_eq (hflag a.checkUrls), Checked.renewing_eq hurls]

theorem read_again (h : a.read ms = .ok b) : b.read ms = .ok b := by
  unfold AgentSettings.read at h
  simp only [Checked.app_eq_ok] at h
  obtain ⟨_, timeout, ⟨_, urls, ⟨_, stack, ⟨⟩, hstack, rfl⟩, hurls, rfl⟩, htimeout, rfl⟩ := h
  simp only [AgentSettings.read, Checked.replacing_again hstack, Checked.replacing_again hurls,
    Checked.replacing_again htimeout, Checked.app]

end AgentSettings

namespace Settings

variable {d : Disk} {s t : Settings} {ms args : Members}

theorem section_again {α : Type} {kind name : String} {place : List String}
    {f : α → Members → Checked α} {a b : α} (hf : ∀ {ns}, f a ns = .ok b → f b ns = .ok b)
    (h : Checked.replacing ms name a (sectionIn kind (f a)) place = .ok b) :
    Checked.replacing ms name b (sectionIn kind (f b)) place = .ok b := by
  unfold Checked.replacing at h ⊢
  split at h
  · obtain ⟨ns, hns, hread⟩ := bind_eq_ok.mp h
    rw [sectionIn, hns]
    exact hf hread
  · rfl

theorem readFields_again {home : Path} (h : s.readFields home ms = .ok t) :
    t.readFields home ms = .ok t := by
  unfold Settings.readFields at h
  simp only [Checked.app_eq_ok] at h
  obtain ⟨_, level, ⟨_, agent, ⟨_, storage, ⟨_, model, ⟨⟩, hmodel, rfl⟩, hstorage, rfl⟩, hagent,
    rfl⟩, hlevel, rfl⟩ := h
  have hmodel' := section_again (f := ModelSettings.read) ModelSettings.read_again hmodel
  have hstorage' := section_again (f := StorageSettings.read home) StorageSettings.read_again hstorage
  have hagent' := section_again (f := AgentSettings.read) AgentSettings.read_again hagent
  simp only [Settings.readFields, hmodel', hstorage', hagent', Checked.replacing_again hlevel,
    Checked.app]

theorem InBounds.renewFields_eq (h : s.InBounds) (home : Path) (ms : Members) :
    s.renewFields home ms = s.readFields home ms := by
  have hmodel (place : List String) :
      (fun _ => s.model.read [] : List String → Checked ModelSettings) place = .ok s.model := rfl
  have hstorage (place : List String) : (fun _ => s.storage.read home [] :
      List String → Checked StorageSettings) place = .ok s.storage := rfl
  have hagent (place : List String) :
      (fun _ => s.agent.read [] : List String → Checked AgentSettings) place = .ok s.agent := rfl
  have hlevel (place) : Checked.oneOf place LogLevel.named
      (Checked.normalized Text.upper (.str s.logLevel.name)) = .ok s.logLevel := by
    cases s.logLevel <;> rfl
  have hmodels : s.model.renew = s.model.read := funext h.model.renew_eq
  have hstorages : s.storage.renew home = s.storage.read home := funext (s.storage.renew_eq home)
  have hagents : s.agent.renew = s.agent.read := funext h.agent.renew_eq
  simp only [renewFields, Settings.readFields, hmodels, hstorages, hagents,
    Checked.renewing_eq hmodel, Checked.renewing_eq hstorage, Checked.renewing_eq hagent,
    Checked.renewing_eq hlevel]

/-- Checking everything anew is checking what is given, and leaving the rest. -/
theorem InBounds.update_eq (h : s.InBounds) (d : Disk) (args : Members) :
    update d s args = Settings.read d s (ofArguments args) := by
  rw [update, h.renewFields_eq, Settings.read]

theorem read_ok : Settings.read d s ms = .ok t ↔
    (storePath? ms).any StorageSettings.namesUser = false ∧ s.readFields d.homePath ms = .ok t ∧
      (t.storage.backend = .json → d.isFolder? t.storage.path = .ok false) := by
  cases hu : (storePath? ms).any StorageSettings.namesUser with
  | true => simp [read_user hu]
  | false =>
    cases hf : s.readFields d.homePath ms with
    | error lines => simp [read_refused hu hf]
    | ok u =>
      rw [read_fields hu hf, bind_eq_ok]
      constructor
      · rintro ⟨isFolder, hfolder, h⟩
        cases isFolder with
        | true => cases h
        | false =>
          cases h
          exact ⟨rfl, rfl, fun hj => by rwa [if_pos hj] at hfolder⟩
      · rintro ⟨-, hsame, hfolder⟩
        cases hsame
        refine ⟨false, ?_, rfl⟩
        split
        · rename_i hj
          exact hfolder hj
        · rfl

theorem InBounds.update_ok (h : s.InBounds) : update d s args = .ok t ↔
    (storePath? (ofArguments args)).any StorageSettings.namesUser = false ∧
      s.readFields d.homePath (ofArguments args) = .ok t ∧
      (t.storage.backend = .json → d.isFolder? t.storage.path = .ok false) := by
  rw [h.update_eq, read_ok]

theorem InBounds.update (h : s.InBounds) (hu : update d s args = .ok t) : t.InBounds := by
  rw [h.update_eq] at hu
  exact (h.read hu).toInBounds

/-- The same arguments once more change nothing. -/
theorem InBounds.update_again (h : s.InBounds) (hu : Settings.update d s args = .ok t) :
    Settings.update d t args = .ok t := by
  obtain ⟨huser, hread, hfolder⟩ := h.update_ok.mp hu
  exact (h.update hu).update_ok.mpr ⟨huser, readFields_again hread, hfolder⟩

/-- Where there are no arguments, settings either stay or do not fit the disk any more. -/
theorem InBounds.update_nil (h : s.InBounds) : Settings.update d s [] = .ok t ↔
    t = s ∧ (s.storage.backend = .json → d.isFolder? s.storage.path = .ok false) := by
  have hread : s.readFields d.homePath (ofArguments []) = .ok s := rfl
  have huser : (storePath? (ofArguments [])).any StorageSettings.namesUser = false := rfl
  rw [h.update_ok, hread]
  constructor
  · rintro ⟨-, hsame, hfolder⟩
    cases hsame
    exact ⟨rfl, hfolder⟩
  · rintro ⟨rfl, hfolder⟩
    exact ⟨huser, rfl, hfolder⟩

section Updated

/-- A value names a provider, but for case and blanks around it. -/
def Says (v : Json) (p : Provider) : Prop := ∃ s, v = .str s ∧ p.name = Text.lower (Text.trim s)

theorem says_of_providerIn {place : List String} {v : Json} {p : Provider}
    (h : ModelSettings.providerIn place v = .ok p) : Says v p := by
  obtain ⟨x, hx, hlookup⟩ := Checked.oneOf_ok h
  obtain ⟨s, rfl, rfl⟩ := Checked.normalized_str hx
  exact ⟨s, rfl, Checked.name_of_lookup hlookup⟩

theorem text_of_optionalText {place : List String} {v : Json} {x : Option String}
    (hv : v.truthy = true) (h : Checked.optionalText place v = .ok x) :
    ∃ s, v = .str s ∧ x = some s := by
  cases v with
  | str s =>
    cases h
    exact ⟨s, rfl, rfl⟩
  | null => cases hv
  | _ => cases h

/-- The settings that no argument names are the same. -/
structure Kept (s t : Settings) : Prop where
  geminiKey : t.model.geminiKey = s.model.geminiKey
  openaiKey : t.model.openaiKey = s.model.openaiKey
  grokKey : t.model.grokKey = s.model.grokKey
  timeout : t.model.timeout = s.model.timeout
  maxRetries : t.model.maxRetries = s.model.maxRetries
  urlTimeout : t.agent.urlTimeout = s.agent.urlTimeout

theorem Kept.refl (s : Settings) : Kept s s := ⟨rfl, rfl, rfl, rfl, rfl, rfl⟩

theorem Kept.trans {u : Settings} (h : Kept s t) (h' : Kept t u) : Kept s u :=
  ⟨h'.geminiKey.trans h.geminiKey, h'.openaiKey.trans h.openaiKey, h'.grokKey.trans h.grokKey,
    h'.timeout.trans h.timeout, h'.maxRetries.trans h.maxRetries, h'.urlTimeout.trans h.urlTimeout⟩

/-- What arguments change: a setting that they give is as they say, and every other one stays. -/
structure Updated (home : Path) (s : Settings) (args : Members) (t : Settings) : Prop
    extends Kept s t where
  provider : if (args.get "provider").truthy then Says (args.get "provider") t.model.provider
    else t.model.provider = s.model.provider
  model : if (args.get "model").truthy then
      ∃ x, args.get "model" = .str x ∧ t.model.model = some x
    else t.model.model = s.model.model
  base : if (args.get "base_url").truthy then
      ∃ x, args.get "base_url" = .str x ∧ t.model.base = some x
    else t.model.base = s.model.base
  store : if (args.get "store").truthy then t.storage.backend = .json ∧
      StorageSettings.pathIn home ["storage", "path"] (args.get "store") = .ok t.storage.path
    else t.storage = s.storage
  unchecked : args.get "check_urls" = .null → t.agent.checkUrls = s.agent.checkUrls
  checked : args.get "check_urls" ≠ .null →
    Checked.truthOf (args.get "check_urls") = .ok t.agent.checkUrls
  stackPlans : t.agent.stackPlans =
    if (args.get "no_stack").truthy then false else s.agent.stackPlans
  logLevel : t.logLevel = if (args.get "verbose").truthy then .debug else s.logLevel

theorem lookup_if (c : Prop) [Decidable c] (key name : String) (v : Json) :
    (if c then [(key, v)] else []).lookup name = if name = key ∧ c then some v else none := by
  by_cases hkey : name = key
  · subst hkey
    split <;> simp_all
  · have hno : (name == key) = false := beq_false_of_ne hkey
    split <;> simp [List.lookup_cons, hkey, hno]

/-- What arguments say of the model. -/
def modelArguments (args : Members) : Members :=
  given args "provider" "provider" ++ given args "model" "model" ++ given args "base_url" "base_url"

theorem get?_modelArguments (args : Members) (name : String) :
    Members.get? (modelArguments args) name =
      if name = "provider" ∨ name = "model" ∨ name = "base_url" then
        if (args.get name).truthy then some (args.get name) else none
      else none := by
  rw [modelArguments, Members.get?, List.lookup_append, List.lookup_append, given, given, given,
    lookup_if, lookup_if, lookup_if]
  by_cases hp : name = "provider"
  · subst hp
    simp
  by_cases hm : name = "model"
  · subst hm
    simp
  by_cases hb : name = "base_url"
  · subst hb
    simp
  · simp [hp, hm, hb]

theorem updated_model {m n : ModelSettings} (h : m.read (modelArguments args) = .ok n) :
    n = { m with provider := n.provider, model := n.model, base := n.base } ∧
      (if (args.get "provider").truthy then Says (args.get "provider") n.provider
        else n.provider = m.provider) ∧
      (if (args.get "model").truthy then ∃ x, args.get "model" = .str x ∧ n.model = some x
        else n.model = m.model) ∧
      (if (args.get "base_url").truthy then ∃ x, args.get "base_url" = .str x ∧ n.base = some x
        else n.base = m.base) := by
  have h := ModelSettings.read_ok.mp h
  have hget := get?_modelArguments args
  refine ⟨?_, ?_, ?_, ?_⟩
  · rw [← Checked.replaced_none (hget _) h.geminiKey, ← Checked.replaced_none (hget _) h.openaiKey,
      ← Checked.replaced_none (hget _) h.grokKey, ← Checked.replaced_none (hget _) h.timeout,
      ← Checked.replaced_none (hget _) h.maxRetries]
  · exact Checked.replaced (Says (args.get "provider")) (hget "provider")
      (fun _ _ h => says_of_providerIn h) h.provider
  · exact Checked.replaced (fun a => ∃ x, args.get "model" = .str x ∧ a = some x) (hget "model")
      (fun _ hgiven h => text_of_optionalText hgiven h) h.model
  · exact Checked.replaced (fun a => ∃ x, args.get "base_url" = .str x ∧ a = some x)
      (hget "base_url") (fun _ hgiven h => text_of_optionalText hgiven h) h.base

theorem updated_storage {home : Path} {s t : StorageSettings}
    (h : s.read home (if (args.get "store").truthy then
      [("backend", Json.str Backend.json.name), ("path", args.get "store")] else []) = .ok t) :
    if (args.get "store").truthy then t.backend = .json ∧
      StorageSettings.pathIn home ["storage", "path"] (args.get "store") = .ok t.path
    else t = s := by
  split at h
  · rename_i hstore
    rw [if_pos hstore]
    unfold StorageSettings.read at h
    simp only [Checked.app_eq_ok] at h
    obtain ⟨_, path, ⟨_, backend, ⟨⟩, hbackend, rfl⟩, hpath, rfl⟩ := h
    cases hbackend
    exact ⟨rfl, hpath⟩
  · rename_i hstore
    rw [if_neg hstore]
    cases h
    rfl

/-- Whether to check addresses, where arguments say so at all. -/
def checkArgument : Json → Members
  | .null => []
  | v => [("check_urls", v)]

theorem checkArgument_eq {v : Json} (h : v ≠ .null) : checkArgument v = [("check_urls", v)] := by
  cases v with
  | null => exact (h rfl).elim
  | _ => rfl

/-- What arguments say of the agent. -/
def agentArguments (args : Members) : Members :=
  (if (args.get "no_stack").truthy then [("stack_plans", .bool false)] else []) ++
    checkArgument (args.get "check_urls")

theorem get?_agentArguments (args : Members) {name : String} (h : name ≠ "check_urls") :
    Members.get? (agentArguments args) name =
      if name = "stack_plans" ∧ (args.get "no_stack").truthy then some (.bool false) else none := by
  have hcheck : (checkArgument (args.get "check_urls")).lookup name = none := by
    have hno : (name == "check_urls") = false := beq_false_of_ne h
    cases args.get "check_urls" <;> simp [checkArgument, List.lookup_cons, hno]
  rw [agentArguments, Members.get?, List.lookup_append, lookup_if, hcheck, Option.or_none]

theorem get?_check_urls (args : Members) : Members.get? (agentArguments args) "check_urls" =
    (checkArgument (args.get "check_urls")).lookup "check_urls" := by
  rw [agentArguments, Members.get?, List.lookup_append, lookup_if, if_neg (by simp),
    Option.none_or]

theorem updated_agent {a b : AgentSettings} (h : a.read (agentArguments args) = .ok b) :
    b.urlTimeout = a.urlTimeout ∧
      b.stackPlans = (if (args.get "no_stack").truthy then false else a.stackPlans) ∧
      (args.get "check_urls" = .null → b.checkUrls = a.checkUrls) ∧
      (args.get "check_urls" ≠ .null →
        Checked.truthOf (args.get "check_urls") = .ok b.checkUrls) := by
  unfold AgentSettings.read at h
  simp only [Checked.app_eq_ok] at h
  obtain ⟨_, timeout, ⟨_, urls, ⟨_, stack, ⟨⟩, hstack, rfl⟩, hurls, rfl⟩, htimeout, rfl⟩ := h
  refine ⟨?_, ?_, ?_, ?_⟩
  · exact Checked.replaced_none (get?_agentArguments args (by decide)) htimeout
  · have hget := get?_agentArguments args (by decide : "stack_plans" ≠ "check_urls")
    have hfalse (place) : Checked.truth place (.bool false) = .ok false := rfl
    have hgiven := Checked.replaced_by hget hfalse hstack
    simpa only [true_and] using hgiven
  · intro hnull
    refine Checked.replaced_none ?_ hurls
    rw [get?_check_urls, hnull]
    rfl
  · intro hset
    rw [Checked.replacing_some (by rw [get?_check_urls, checkArgument_eq hset]; rfl)] at hurls
    exact Checked.truth_ok hurls

theorem InBounds.updated (h : s.InBounds) (hu : Settings.update d s args = .ok t) :
    Updated d.homePath s args t := by
  obtain ⟨-, hread, -⟩ := h.update_ok.mp hu
  unfold Settings.readFields at hread
  simp only [Checked.app_eq_ok] at hread
  obtain ⟨_, level, ⟨_, agent, ⟨_, storage, ⟨_, model, ⟨⟩, hmodel, rfl⟩, hstorage, rfl⟩, hagent,
    rfl⟩, hlevel, rfl⟩ := hread
  have hmodel : s.model.read (modelArguments args) = .ok model := hmodel
  have hagent : s.agent.read (agentArguments args) = .ok agent := hagent
  obtain ⟨hsame, hprovider, hname, hbase⟩ := updated_model hmodel
  obtain ⟨htimeout, hstack, hunchecked, hchecked⟩ := updated_agent hagent
  have hlogLevel : level = if (args.get "verbose").truthy then .debug else s.logLevel := by
    have hget : Members.get? (ofArguments args) "log_level" =
        if (args.get "verbose").truthy then some (.str LogLevel.debug.name) else none := by
      show List.lookup "log_level" (if (args.get "verbose").truthy then _ else _) = _
      split <;> rfl
    exact Checked.replaced_by hget (fun _ => rfl) hlevel
  exact
    { geminiKey := by rw [hsame]
      openaiKey := by rw [hsame]
      grokKey := by rw [hsame]
      timeout := by rw [hsame]
      maxRetries := by rw [hsame]
      urlTimeout := htimeout
      provider := hprovider
      model := hname
      base := hbase
      store := updated_storage hstorage
      unchecked := hunchecked
      checked := hchecked
      stackPlans := hstack
      logLevel := hlogLevel }

end Updated

end Settings

end LinkShelf
