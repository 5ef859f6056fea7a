import LinkShelf.Proofs.Settings.Loading
import LinkShelf.Proofs.Settings.Renewed
/-!
The layers of settings. A key comes from the file, or else from the first variable for it that has
a value; the provider from the arguments, the file or its variable, in this order. Whatever is
told to settings that are held, they change as the arguments say, or they do not change.
-/
namespace LinkShelf

theorem Members.get?_put (ms : Members) (name k : String) (v : Json) :
    Members.get? (Members.put name v ms) k = if k = name then some v else Members.get? ms k := by
  induction ms with
  | nil =>
    by_cases hk : k = name
    · simp [Members.get?, Members.put, hk]
    · simp [Members.get?, Members.put, hk, List.lookup_cons, beq_false_of_ne hk]
  | cons m ms ih =>
    obtain ⟨name', w⟩ := m
    rw [Members.put]
    by_cases hname : name' = name
    · subst hname
      by_cases hk : k = name'
      · simp [Members.get?, hk]
      · simp [Members.get?, hk, List.lookup_cons, beq_false_of_ne hk]
    · rw [if_neg hname]
      by_cases hk : k = name'
      · subst hk
        simp [Members.get?, hname]
      · simpa [Members.get?, List.lookup_cons, beq_false_of_ne hk] using ih

namespace Settings

variable {d : Disk} {env : Environment} {named field : String} {ms ns file llm : Members}
  {s t : Settings} {keys : List (String × String)}

section Keys

/-- The variables for a setting, in their order. -/
def variablesIn (keys : List (String × String)) (field : String) : List String :=
  (keys.filter (·.2 = field)).map (·.1)

example : variablesIn keyVariables "grok_api_key" = ["XAI_API_KEY", "GROK_API_KEY"] := rfl

/-- The first value of some variables that is not empty. -/
def firstSet? (env : Environment) (names : List String) : Option String :=
  (names.map fun name => (env.lookup name).getD "").find? (· ≠ "")

/-- The key that settings and environment come to. Where a value counts as false, it only stands
if no variable is set, and then as its text. -/
def layeredKey (env : Environment) (llm : Members) (field : String) : Option String :=
  let v := Members.get llm field
  if v.truthy then some v.text
  else (firstSet? env (variablesIn keyVariables field)).or
    (if v.isUnset then none else some v.text)

/-- What settings say of a key once the environment is filled in. -/
def filledKey (env : Environment) (keys : List (String × String)) (ms : Members)
    (field : String) : Option Json :=
  if (Members.get ms field).truthy then Members.get? ms field
  else ((firstSet? env (variablesIn keys field)).map Json.str).or (Members.get? ms field)

theorem firstSet?_cons (env : Environment) (name : String) (names : List String) :
    firstSet? env (name :: names) =
      if (env.lookup name).getD "" ≠ "" then some ((env.lookup name).getD "")
      else firstSet? env names := by
  unfold firstSet?
  rw [List.map_cons, List.find?_cons]
  split
  · rename_i h
    rw [if_pos (of_decide_eq_true h)]
  · rename_i h
    rw [if_neg (of_decide_eq_false h)]

theorem variablesIn_cons (k : String × String) (keys : List (String × String)) (field : String) :
    variablesIn (k :: keys) field =
      if k.2 = field then k.1 :: variablesIn keys field else variablesIn keys field := by
  unfold variablesIn
  by_cases hk : k.2 = field <;> simp [hk]

/-- Filling in one variable changes one key, if it counts as false and the variable is set. -/
theorem fillKey_get {variableName name : String}
    (h : fillKey env (.obj ms) variableName name = .ok (.obj ns)) (field : String) :
    Members.get? ns field =
      if field = name ∧ (env.lookup variableName).getD "" ≠ "" ∧
          (Members.get ms field).truthy = false then
        some (.str ((env.lookup variableName).getD ""))
      else Members.get? ms field := by
  unfold fillKey at h
  generalize (env.lookup variableName).getD "" = value at h ⊢
  split at h
  · cases h
    simp
  · rename_i hset
    simp only [Except.ok.injEq, Json.obj.injEq] at h
    rw [← h]
    cases htruthy : (Members.get ms name).truthy with
    | true =>
      by_cases hfield : field = name
      · subst hfield
        simp [htruthy]
      · simp [hfield]
    | false =>
      rw [if_neg Bool.false_ne_true, Members.get?_put]
      by_cases hfield : field = name
      · subst hfield
        simp [htruthy, show value ≠ "" from hset]
      · simp [hfield]

theorem fillKeys_get (h : keys.foldlM (fun v (k : String × String) => fillKey env v k.1 k.2)
    (.obj ms) = .ok (.obj ns)) (field : String) :
    Members.get? ns field = filledKey env keys ms field := by
  induction keys generalizing ms with
  | nil =>
    cases h
    simp [filledKey, firstSet?, variablesIn]
  | cons k keys ih =>
    obtain ⟨ms', hms'⟩ := fillKey_obj env ms k.1 k.2
    rw [List.foldlM_cons, hms'] at h
    rw [ih h]
    have hget := fillKey_get hms' field
    by_cases hfills : field = k.2 ∧ (env.lookup k.1).getD "" ≠ "" ∧
        (Members.get ms field).truthy = false
    · obtain ⟨rfl, hset, hfalse⟩ := hfills
      rw [if_pos ⟨rfl, hset, hfalse⟩] at hget
      have htruthy : (Members.get ms' k.2).truthy = true := by
        rw [Members.get, hget]
        simpa [Json.truthy] using hset
      rw [filledKey, if_pos htruthy, hget, filledKey, hfalse, if_neg Bool.false_ne_true,
        variablesIn_cons, if_pos rfl, firstSet?_cons, if_pos hset]
      rfl
    · rw [if_neg hfills] at hget
      have hsame : Members.get ms' field = Members.get ms field := by
        rw [Members.get, hget, Members.get]
      rw [filledKey, hsame, hget, filledKey]
      cases hfalse : (Members.get ms field).truthy with
      | true => rfl
      | false =>
        simp only [Bool.false_eq_true, if_false, variablesIn_cons]
        by_cases hfield : k.2 = field
        · have hunset : ¬(env.lookup k.1).getD "" ≠ "" := fun hset =>
            hfills ⟨hfield.symm, hset, hfalse⟩
          rw [if_pos hfield, firstSet?_cons, if_neg hunset]
        · rw [if_neg hfield]

/-- Filling in the provider leaves all keys. -/
theorem fillProvider_get (h : fillProvider env (.obj ms) = .ok (.obj ns)) (field : String) :
    Members.get? ns field =
      if field = "provider" then
        (Members.get? ms field).or ((firstSet? env [providerVariable]).map Json.str)
      else Members.get? ms field := by
  unfold fillProvider at h
  rw [firstSet?_cons]
  generalize (env.lookup providerVariable).getD "" = value at h ⊢
  split at h
  · cases h
    simp [firstSet?]
  · rename_i hset
    have hset : value ≠ "" := hset
    simp only [Except.ok.injEq] at h
    rw [if_pos hset]
    by_cases hhas : Members.has ms "provider" = true
    · rw [if_pos hhas] at h
      cases h
      obtain ⟨v, hv⟩ := Option.isSome_iff_exists.mp hhas
      by_cases hfield : field = "provider"
      · subst hfield
        simp [hv]
      · simp [hfield]
    · rw [if_neg hhas] at h
      cases h
      have hnone : Members.get? ms "provider" = none := by
        simpa [Members.has] using hhas
      rw [Members.get?_put]
      by_cases hfield : field = "provider"
      · subst hfield
        simp [hnone]
      · simp [hfield]

end Keys

section Loaded

/-- What a settings file says of the model. -/
def modelSection (file : Members) : Members :=
  match Members.get? file "llm" with
  | some (.obj ms) => ms
  | _ => []

/-- The provider that settings and environment come to. -/
def layeredProvider (env : Environment) (llm : Members) : Json :=
  (Members.get? llm "provider").getD
    (.str ((firstSet? env [providerVariable]).getD Provider.gemini.name))

/-- Keys and provider are what settings and environment come to. -/
structure Layered (env : Environment) (llm : Members) (m : ModelSettings) : Prop where
  geminiKey : m.geminiKey = layeredKey env llm "gemini_api_key"
  openaiKey : m.openaiKey = layeredKey env llm "openai_api_key"
  grokKey : m.grokKey = layeredKey env llm "grok_api_key"
  provider : Says (layeredProvider env llm) m.provider

theorem filled_ok {section_ : Json} (h : filled env section_ = .ok (.obj ns)) :
    ∃ llm, section_ = .obj llm ∧ ∀ field, Members.get? ns field =
      if field = "provider" then
        (Members.get? llm field).or ((firstSet? env [providerVariable]).map Json.str)
      else filledKey env keyVariables llm field := by
  by_cases hs : ∃ llm, section_ = .obj llm
  · obtain ⟨llm, rfl⟩ := hs
    refine ⟨llm, rfl, fun field => ?_⟩
    obtain ⟨ms, hms⟩ := fillKeys_obj env llm keyVariables
    rw [filled, hms] at h
    rw [fillProvider_get h, fillKeys_get hms]
    split
    · rename_i hfield
      subst hfield
      have hkeys : filledKey env keyVariables llm "provider" = Members.get? llm "provider" := by
        unfold filledKey
        split <;> rfl
      rw [hkeys]
    · rfl
  · replace hs := NoObject.of_not_exists hs
    rcases filled_noObject env hs with ⟨-, hfilled⟩ | ⟨-, hfilled⟩
    · rw [hfilled] at h
      cases h
    · rw [hfilled] at h
      by_cases hm : IsSet env providerVariable → Mentions section_ "provider"
      · rw [fillProvider_mentions hs hm] at h
        cases h
        exact (hs ns rfl).elim
      · obtain ⟨hset, hm⟩ := Classical.not_imp.mp hm
        obtain ⟨f, hf, -⟩ := fillProvider_foreign hs hset hm
        rw [hf] at h
        cases h

theorem keyIn_eq {owner : String} {place : List String} {v : Json} {key : Option String}
    (h : ModelSettings.keyIn owner place v = .ok key) :
    key = if v.isUnset then none else some v.text := by
  unfold ModelSettings.keyIn ModelSettings.secretIn at h
  split at h
  · rename_i hunset
    cases h
    rw [if_pos hunset]
  · rename_i hset
    split at h
    · cases h
    · cases h
      rw [if_neg hset]

theorem not_unset_of_truthy {v : Json} (h : v.truthy = true) : v.isUnset = false := by
  cases v with
  | str s => simpa [Json.truthy, Json.isUnset] using h
  | null => cases h
  | _ => rfl

theorem firstSet?_ne {names : List String} {value : String}
    (h : firstSet? env names = some value) : value ≠ "" := by
  have hset := List.find?_some h
  exact of_decide_eq_true hset

/-- A key that was filled in is read as its text. -/
theorem key_layered {owner field : String} {place : List String} {key : Option String}
    (hget : Members.get? ns field = filledKey env keyVariables llm field)
    (h : Checked.replacing ns field none (ModelSettings.keyIn owner) place = .ok key) :
    key = layeredKey env llm field := by
  have hkey : key = (Members.get? ns field).bind fun v =>
      if v.isUnset then none else some v.text := by
    cases hv : Members.get? ns field with
    | none => exact Checked.replaced_none hv h
    | some v =>
      rw [Checked.replacing_some hv] at h
      exact keyIn_eq h
  rw [hkey, hget, filledKey, layeredKey, Members.get]
  cases hv : Members.get? llm field with
  | none =>
    cases hfirst : firstSet? env (variablesIn keyVariables field) with
    | none => rfl
    | some value => simp [Json.truthy, Json.isUnset, firstSet?_ne hfirst, Json.text]
  | some v =>
    cases htruthy : v.truthy with
    | true => simp [htruthy, not_unset_of_truthy htruthy]
    | false =>
      cases hfirst : firstSet? env (variablesIn keyVariables field) with
      | none => simp [htruthy]
      | some value => simp [htruthy, Json.isUnset, firstSet?_ne hfirst, Json.text]

/-- The provider is named by the file or its variable, or it is the usual one. -/
theorem provider_layered {place : List String} {p : Provider}
    (hget : Members.get? ns "provider" =
      (Members.get? llm "provider").or ((firstSet? env [providerVariable]).map Json.str))
    (h : Checked.replacing ns "provider" Provider.gemini ModelSettings.providerIn place = .ok p) :
    Says (layeredProvider env llm) p := by
  have hvalue : layeredProvider env llm =
      (Members.get? ns "provider").getD (.str Provider.gemini.name) := by
    rw [hget, layeredProvider]
    cases Members.get? llm "provider" with
    | some v => rfl
    | none => cases firstSet? env [providerVariable] <;> rfl
  rw [hvalue]
  cases hv : Members.get? ns "provider" with
  | none =>
    rw [Checked.replaced_none hv h]
    exact ⟨_, rfl, by decide⟩
  | some v =>
    rw [Checked.replacing_some hv] at h
    exact says_of_providerIn h

theorem load_layered (hsource : source d named = .ok (.obj file)) (h : load d env named = .ok s) :
    Layered env (modelSection file) s.model := by
  rw [load_source hsource] at h
  obtain ⟨ms, hms, h⟩ := bind_eq_ok.mp h
  rw [withEnvironment_obj] at hms
  obtain ⟨section_, hfilled, hms⟩ := bind_eq_ok.mp hms
  cases hms
  obtain ⟨-, hread, -⟩ := read_ok.mp h
  unfold Settings.readFields at hread
  simp only [Checked.app_eq_ok] at hread
  obtain ⟨_, level, ⟨_, agent, ⟨_, storage, ⟨_, model, ⟨⟩, hmodel, rfl⟩, -, rfl⟩, -, rfl⟩, -,
    rfl⟩ := hread
  have hsection : Members.get? (Members.put "llm" section_ file) "llm" = some section_ := by
    rw [Members.get?_put, if_pos rfl]
  rw [Checked.replacing_some hsection] at hmodel
  obtain ⟨ns, hns, hmodel⟩ := bind_eq_ok.mp hmodel
  obtain rfl : section_ = .obj ns := by
    cases section_ with
    | obj ms =>
      cases hns
      rfl
    | _ => cases hns
  obtain ⟨llm, hllm, hget⟩ := filled_ok hfilled
  have hfile : modelSection file = llm := by
    unfold modelSection
    cases hv : Members.get? file "llm" with
    | none =>
      rw [hv] at hllm
      cases hllm
      rfl
    | some v =>
      rw [hv, Option.getD_some] at hllm
      subst hllm
      rfl
  have hreads := ModelSettings.read_ok.mp hmodel
  rw [hfile]
  exact ⟨key_layered (hget _) hreads.geminiKey, key_layered (hget _) hreads.openaiKey,
    key_layered (hget _) hreads.grokKey, provider_layered (hget _) hreads.provider⟩

end Loaded

section Held

theorem run_tell (d : Disk) (args : Members) (s : Settings) : Act.run (tell d args) s =
    match update d s args with
    | .ok t => (.ok (), t)
    | .error f => (.error f, s) := by
  rw [tell, Act.run_bind, Act.run_get]
  simp only [Act.run_bind, Act.run_lift]
  cases update d s args <;> rfl

/-- The settings that are held after all that was told to them, on disks as they were then. -/
def afterTold (s : Settings) (calls : List (Disk × Members)) : Settings :=
  calls.foldl (fun s c => (Act.run (tell c.1 c.2) s).2) s

/-- No argument counts. -/
structure Idle (args : Members) : Prop where
  provider : (args.get "provider").truthy = false
  model : (args.get "model").truthy = false
  base : (args.get "base_url").truthy = false
  store : (args.get "store").truthy = false
  checkUrls : args.get "check_urls" = .null
  noStack : (args.get "no_stack").truthy = false
  verbose : (args.get "verbose").truthy = false

theorem Idle.ofArguments_eq {args : Members} (h : Idle args) :
    ofArguments args = ofArguments [] := by
  simp only [ofArguments, given, h.provider, h.model, h.base, h.store, h.checkUrls, h.noStack,
    h.verbose]
  rfl

/-- What one call leaves of settings within bounds: they change as its arguments say, and would not
change by them again, or it fails and they do not change. -/
theorem InBounds.tell_ends (h : s.InBounds) (d : Disk) (args : Members) :
    Act.Ends (tell d args) s
      (fun _ t => Updated d.homePath s args t ∧ Act.run (tell d args) t = (.ok (), t) ∧
        (Idle args → t = s))
      (fun _ t => t = s) := by
  rw [Act.Ends, run_tell]
  cases hu : Settings.update d s args with
  | error f => rfl
  | ok t =>
    refine ⟨h.updated hu, ?_, fun hidle => ?_⟩
    · rw [run_tell, h.update_again hu]
    · rw [Settings.update, hidle.ofArguments_eq] at hu
      exact (h.update_nil.mp hu).1

theorem InBounds.told (h : s.InBounds) (d : Disk) (args : Members) :
    (Act.run (tell d args) s).2.InBounds ∧ Kept s (Act.run (tell d args) s).2 := by
  rw [run_tell]
  cases hu : Settings.update d s args with
  | error f => exact ⟨h, .refl s⟩
  | ok t => exact ⟨h.update hu, (h.updated hu).toKept⟩

/-- Over any run of calls. -/
theorem InBounds.afterTold (h : s.InBounds) (calls : List (Disk × Members)) :
    (Settings.afterTold s calls).InBounds ∧ Kept s (Settings.afterTold s calls) := by
  induction calls generalizing s with
  | nil => exact ⟨h, .refl s⟩
  | cons c calls ih =>
    obtain ⟨hnext, hkept⟩ := h.told c.1 c.2
    obtain ⟨hlast, hrest⟩ := ih hnext
    exact ⟨hlast, hkept.trans hrest⟩

/-- What is loaded fits the disk, so it can be checked once more there. -/
theorem tell_nothing (h : load d env named = .ok s) : Act.run (tell d []) s = (.ok (), s) := by
  have hbounds := (load_ok h).toInBounds
  have hfits : s.storage.backend = .json → d.isFolder? s.storage.path = .ok false := by
    rw [load_eq] at h
    obtain ⟨v, -, h⟩ := bind_eq_ok.mp h
    obtain ⟨ms, -, h⟩ := bind_eq_ok.mp h
    exact (read_ok.mp h).2.2
  rw [run_tell, hbounds.update_nil.mpr ⟨rfl, hfits⟩]

end Held

section Example

/-- A file with one key and a placeholder for another, and variables for both and a provider. -/
def twoKeys : Members :=
  [("llm", .obj [("openai_api_key", .str "sk-file"), ("grok_api_key", .bool false)])]

def someVariables : Environment :=
  [("OPENAI_API_KEY", "sk-env"), ("GROK_API_KEY", "later"), ("XAI_API_KEY", "first"),
    ("BOOKMARK_AGENT_PROVIDER", " Grok ")]

def twoKeysLoaded : Settings :=
  { model := { provider := .grok, openaiKey := some "sk-file", grokKey := some "first" } }

theorem load_twoKeys :
    load (holding (.obj twoKeys)) someVariables "c.json" = .ok twoKeysLoaded := by
  rw [load_filled (source_holding rfl) rfl]
  exact read_ok.mpr ⟨rfl, rfl, fun _ => rfl⟩

/-- A file with an empty list for a key. -/
def listKey : Members := [("llm", .obj [("gemini_api_key", .arr [])])]

def listKeyLoaded : Settings := { model := { geminiKey := some "[]" } }

theorem load_listKey : load (holding (.obj listKey)) [] "c.json" = .ok listKeyLoaded := by
  rw [load_filled (source_holding rfl) rfl]
  exact read_ok.mpr ⟨rfl, rfl, fun _ => rfl⟩

end Example

end Settings

end LinkShelf
