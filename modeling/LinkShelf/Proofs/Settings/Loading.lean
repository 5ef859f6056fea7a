import LinkShelf.Proofs.File.Disk
import LinkShelf.Proofs.Json.Roundtrip
import LinkShelf.Proofs.Settings.Bounds
import LinkShelf.Settings.Load
/-!
What comes of loading settings. It is valid settings or a fault of the configuration, unless the
settings have a form that the environment cannot be filled into, or a path leads where the disk
cannot look. For each of these cases it is said which failure comes out in its place.
-/
namespace LinkShelf.Settings

variable {d : Disk} {env : Environment} {named name : String} {p : Path} {v section_ : Json}
  {ms : Members} {f : Fault}

section Source

/-- The value of the settings file, an empty object if there is none. -/
def source (d : Disk) (named : String) : Except Fault Json :=
  if named ≠ "" then readGiven d (.ofText named) else readFirst d (usualPaths d.herePath d.homePath)

theorem load_eq (d : Disk) (env : Environment) (named : String) :
    load d env named = source d named >>= fun v => withEnvironment env v >>= read d {} := by
  unfold load source
  split <;> rfl

/-- The disk cannot even look at a path. -/
def Barred (d : Disk) (p : Path) : Prop := d.find p = .error .longName

/-- A file that is looked for: the one that is named, or a usual one with none in front of it. -/
inductive Sought (d : Disk) : String → Path → Prop where
  | named {named : String} (h : named ≠ "") : Sought d named (.ofText named)
  | usual {before after : List Path} {p : Path}
      (h : usualPaths d.herePath d.homePath = before ++ p :: after)
      (hbefore : ∀ q ∈ before, d.exists? q = .ok false) : Sought d "" p

theorem readText_error (h : d.readText p = .error f) :
    f.family? = some .system ∨ f.family? = some .badValue := by
  unfold Disk.readText at h
  split at h
  · cases h
  · cases h
    exact .inl rfl
  · rename_i r _
    cases h
    cases r with
    | nullName => exact .inr rfl
    | _ => exact .inl rfl

/-- Whatever is wrong with a file, or with what is in it, is told as a bad value. -/
theorem readFile_error (h : readFile d p = .error f) : f.family? = some .badValue := by
  unfold readFile at h
  dsimp only at h
  split at h
  · cases h
    rfl
  · cases htext : d.readText p with
    | error e =>
      rw [htext] at h
      cases h
      split
      · rfl
      · rename_i hno
        exact (readText_error htext).resolve_left hno
    | ok text =>
      rw [htext] at h
      by_cases hs : Text.lower p.suffix = ".toml"
      · simp only [hs, if_true, pure_bind] at h
        cases hparse : Toml.parse text with
        | ok ns => rw [hparse] at h; cases h
        | error reason => rw [hparse] at h; cases h; rfl
      · simp only [hs, if_false, pure_bind] at h
        cases hparse : Json.parse text with
        | ok v => rw [hparse] at h; cases h
        | error e => rw [hparse] at h; cases h; rfl

theorem readGiven_error (h : readGiven d p = .error f) :
    (∃ text, f = .configuration text) ∨ Barred d p ∧ f.name = "OSError" := by
  unfold readGiven at h
  cases he : d.exists? p with
  | error e =>
    rw [he] at h
    cases h
    obtain ⟨hfind, rfl⟩ := Disk.exists?_error.mp he
    exact .inr ⟨hfind, rfl⟩
  | ok there =>
    rw [he] at h
    cases there with
    | false =>
      cases h
      exact .inl ⟨_, rfl⟩
    | true =>
      cases hfile : readFile d p with
      | ok v =>
        simp only [hfile] at h
        cases h
      | error e =>
        have hbad := readFile_error hfile
        simp only [hfile] at h
        cases h
        exact .inl ⟨_, if_pos hbad⟩

theorem readGiven_barred (h : Barred d p) : ∃ f, readGiven d p = .error f ∧ f.name = "OSError" := by
  rw [readGiven, Disk.exists?_error.mpr ⟨h, rfl⟩]
  exact ⟨_, rfl, rfl⟩

/-- The first file that is there is read, and none behind it. -/
theorem readFirst_there {before after : List Path} (hbefore : ∀ q ∈ before, d.exists? q = .ok false)
    (hp : d.exists? p ≠ .ok false) : readFirst d (before ++ p :: after) = readGiven d p := by
  induction before with
  | nil =>
    rw [List.nil_append, readFirst]
    cases he : d.exists? p with
    | error e =>
      have hgiven : readGiven d p = .error e := by
        rw [readGiven, he]
        rfl
      exact hgiven.symm
    | ok there =>
      cases there with
      | false => exact (hp he).elim
      | true =>
        change (if true = true then readGiven d p else readFirst d after) = readGiven d p
        rw [if_pos rfl]
  | cons q before ih =>
    rw [List.cons_append, readFirst, hbefore q List.mem_cons_self]
    exact ih fun q hq => hbefore q (List.mem_cons_of_mem _ hq)

theorem readFirst_error {paths : List Path} (h : readFirst d paths = .error f) :
    ∃ before p after, paths = before ++ p :: after ∧ (∀ q ∈ before, d.exists? q = .ok false) ∧
      readGiven d p = .error f := by
  induction paths with
  | nil => cases h
  | cons p paths ih =>
    by_cases he : d.exists? p = .ok false
    · rw [readFirst, he] at h
      obtain ⟨before, q, after, rfl, hbefore, hq⟩ := ih h
      refine ⟨p :: before, q, after, rfl, fun r hr => ?_, hq⟩
      rcases List.mem_cons.mp hr with rfl | hr
      · exact he
      · exact hbefore r hr
    · rw [← List.nil_append (p :: paths), readFirst_there (by simp) he] at h
      exact ⟨[], p, paths, rfl, by simp, h⟩

theorem source_error (h : source d named = .error f) :
    (∃ text, f = .configuration text) ∨ ∃ p, Sought d named p ∧ Barred d p ∧ f.name = "OSError" := by
  unfold source at h
  split at h
  · rename_i hnamed
    exact (readGiven_error h).imp_right fun hp => ⟨_, .named hnamed, hp⟩
  · rename_i hnamed
    obtain rfl := Decidable.not_not.mp hnamed
    obtain ⟨before, p, after, hpaths, hbefore, hp⟩ := readFirst_error h
    exact (readGiven_error hp).imp_right fun hp => ⟨p, .usual hpaths hbefore, hp⟩

theorem Sought.barred (h : Sought d named p) (hp : Barred d p) :
    ∃ f, source d named = .error f ∧ f.name = "OSError" := by
  cases h with
  | named hnamed =>
    rw [source, if_pos hnamed]
    exact readGiven_barred hp
  | usual hpaths hbefore =>
    have hthere : d.exists? p ≠ .ok false := by
      rw [Disk.exists?_error.mpr ⟨hp, rfl⟩]
      exact nofun
    rw [source, if_neg (by simp), hpaths, readFirst_there hbefore hthere]
    exact readGiven_barred hp

end Source

section Filling

/-- A value that is no object, so that nothing can be filled into it. -/
def NoObject (v : Json) : Prop := ∀ ms, v ≠ .obj ms

/-- A variable of the environment that has a value. -/
def IsSet (env : Environment) (variableName : String) : Prop :=
  (env.lookup variableName).getD "" ≠ ""

def HoldsKey (env : Environment) : Prop := ∃ k ∈ keyVariables, IsSet env k.1

/-- A text or a list in which a name is found as if it were a member. -/
def Mentions (v : Json) (name : String) : Prop :=
  match v with
  | .str s => Text.contains s name = true
  | .arr items => ∃ item ∈ items, item.str? = some name
  | _ => False

/-- Settings of a form that the environment cannot be filled into, with the failure that comes of
it: they are no object; or what they say of the model is none, and a variable holds a key; or it is
none and does not mention a provider either, and a variable holds a provider, but none holds a
key. -/
inductive Misshapen (env : Environment) : Json → String → Prop where
  | whole {v : Json} (h : NoObject v) : Misshapen env v "AttributeError"
  | key {ms : Members} {section_ : Json} (h : Members.get? ms "llm" = some section_)
      (hs : NoObject section_) (hkey : HoldsKey env) : Misshapen env (.obj ms) "AttributeError"
  | provider {ms : Members} {section_ : Json} (h : Members.get? ms "llm" = some section_)
      (hs : NoObject section_) (hkey : ¬HoldsKey env) (hprovider : IsSet env providerVariable)
      (hm : ¬Mentions section_ "provider") : Misshapen env (.obj ms) "TypeError"

theorem fillKey_unset {variableName field : String} (h : ¬IsSet env variableName) :
    fillKey env section_ variableName field = .ok section_ := by
  rw [fillKey, Decidable.not_not.mp h]
  rfl

theorem fillKey_noObject {variableName field : String} (h : IsSet env variableName)
    (hs : NoObject section_) : fillKey env section_ variableName field =
      .error (section_.lacks "get") := by
  unfold fillKey
  split
  · rename_i hempty
    exact (h hempty).elim
  · cases section_ with
    | obj ms => exact (hs ms rfl).elim
    | _ => rfl

theorem fillKey_obj (env : Environment) (ms : Members) (variableName field : String) :
    ∃ ns, fillKey env (.obj ms) variableName field = .ok (.obj ns) := by
  unfold fillKey
  split
  · exact ⟨ms, rfl⟩
  · exact ⟨_, rfl⟩

theorem fillKeys_obj (env : Environment) (ms : Members) (keys : List (String × String)) :
    ∃ ns, keys.foldlM (fun v (k : String × String) => fillKey env v k.1 k.2) (.obj ms) =
      .ok (.obj ns) := by
  induction keys generalizing ms with
  | nil => exact ⟨ms, rfl⟩
  | cons k keys ih =>
    obtain ⟨ns, hns⟩ := fillKey_obj env ms k.1 k.2
    rw [List.foldlM_cons, hns]
    exact ih ns

theorem fillKeys_unset {keys : List (String × String)} (h : ¬∃ k ∈ keys, IsSet env k.1) :
    keys.foldlM (fun v (k : String × String) => fillKey env v k.1 k.2) section_ =
      .ok section_ := by
  induction keys with
  | nil => rfl
  | cons k keys ih =>
    have hk : ¬IsSet env k.1 := fun hk => h ⟨k, List.mem_cons_self, hk⟩
    rw [List.foldlM_cons, fillKey_unset hk]
    exact ih fun ⟨j, hj, hset⟩ => h ⟨j, List.mem_cons_of_mem _ hj, hset⟩

theorem fillKeys_noObject {keys : List (String × String)} (h : ∃ k ∈ keys, IsSet env k.1)
    (hs : NoObject section_) :
    keys.foldlM (fun v (k : String × String) => fillKey env v k.1 k.2) section_ =
      .error (section_.lacks "get") := by
  induction keys with
  | nil => simp at h
  | cons k keys ih =>
    rw [List.foldlM_cons]
    by_cases hk : IsSet env k.1
    · rw [fillKey_noObject hk hs]
      rfl
    · rw [fillKey_unset hk]
      refine ih ?_
      obtain ⟨j, hj, hset⟩ := h
      rcases List.mem_cons.mp hj with rfl | hj
      · exact (hk hset).elim
      · exact ⟨j, hj, hset⟩

theorem fillProvider_obj : ∃ ns, fillProvider env (.obj ms) = .ok (.obj ns) := by
  unfold fillProvider
  split
  · exact ⟨ms, rfl⟩
  · dsimp only
    split
    · exact ⟨ms, rfl⟩
    · exact ⟨_, rfl⟩

theorem fillProvider_mentions (hs : NoObject section_)
    (h : IsSet env providerVariable → Mentions section_ "provider") :
    fillProvider env section_ = .ok section_ := by
  unfold fillProvider
  split
  · rfl
  · rename_i hset
    have hm := h hset
    cases section_ with
    | obj ms => exact (hs ms rfl).elim
    | str s => exact if_pos hm
    | arr items =>
      refine if_pos (List.any_eq_true.mpr ?_)
      simpa [Mentions] using hm
    | _ => exact hm.elim

theorem fillProvider_foreign (hs : NoObject section_) (hset : IsSet env providerVariable)
    (hm : ¬Mentions section_ "provider") :
    ∃ f, fillProvider env section_ = .error f ∧ f.name = "TypeError" := by
  unfold fillProvider
  split
  · rename_i hempty
    exact (hset hempty).elim
  · cases section_ with
    | obj ms => exact (hs ms rfl).elim
    | str s => exact ⟨_, if_neg hm, rfl⟩
    | arr items =>
      refine ⟨_, if_neg fun hany => hm ?_, rfl⟩
      simpa [Mentions] using List.any_eq_true.mp hany
    | _ => exact ⟨_, rfl, rfl⟩

/-- What settings say of the model, with the environment filled into it. -/
def filled (env : Environment) (section_ : Json) : Except Fault Json :=
  keyVariables.foldlM (fun v (k : String × String) => fillKey env v k.1 k.2) section_ >>=
    fillProvider env

theorem withEnvironment_obj : withEnvironment env (.obj ms) =
    filled env ((Members.get? ms "llm").getD (.obj [])) >>= fun section_ =>
      .ok (Members.put "llm" section_ ms) := by
  unfold filled withEnvironment
  rw [bind_assoc]
  rfl

theorem filled_obj (env : Environment) (ms : Members) : ∃ ns, filled env (.obj ms) = .ok (.obj ns) := by
  obtain ⟨ns, hns⟩ := fillKeys_obj env ms keyVariables
  rw [filled, hns]
  exact fillProvider_obj

/-- Something that is no object takes nothing, so all goes well only if there is nothing to fill
in. -/
theorem filled_noObject (env : Environment) (hs : NoObject section_) :
    HoldsKey env ∧ filled env section_ = .error (section_.lacks "get") ∨
    ¬HoldsKey env ∧ filled env section_ = fillProvider env section_ := by
  by_cases hkey : HoldsKey env
  · refine .inl ⟨hkey, ?_⟩
    rw [filled, fillKeys_noObject hkey hs]
    rfl
  · refine .inr ⟨hkey, ?_⟩
    rw [filled, fillKeys_unset hkey]
    rfl

theorem NoObject.of_not_exists (h : ¬∃ ms, v = .obj ms) : NoObject v := fun ms hms => h ⟨ms, hms⟩

theorem withEnvironment_error (h : withEnvironment env v = .error f) :
    Misshapen env v f.name := by
  by_cases hv : ∃ ms, v = .obj ms
  · obtain ⟨ms, rfl⟩ := hv
    rw [withEnvironment_obj] at h
    cases hsection : Members.get? ms "llm" with
    | none =>
      obtain ⟨ns, hns⟩ := filled_obj env []
      rw [hsection, Option.getD_none, hns] at h
      cases h
    | some section_ =>
      rw [hsection, Option.getD_some] at h
      by_cases hs : ∃ ns, section_ = .obj ns
      · obtain ⟨ns, rfl⟩ := hs
        obtain ⟨ns', hns'⟩ := filled_obj env ns
        rw [hns'] at h
        cases h
      · replace hs := NoObject.of_not_exists hs
        rcases filled_noObject env hs with ⟨hkey, hfilled⟩ | ⟨hkey, hfilled⟩
        · rw [hfilled] at h
          cases h
          exact .key hsection hs hkey
        · rw [hfilled] at h
          by_cases hm : IsSet env providerVariable → Mentions section_ "provider"
          · rw [fillProvider_mentions hs hm] at h
            cases h
          · obtain ⟨hset, hm⟩ := Classical.not_imp.mp hm
            obtain ⟨f', hf', hname⟩ := fillProvider_foreign hs hset hm
            rw [hf'] at h
            cases h
            rw [hname]
            exact .provider hsection hs hkey hset hm
  · replace hv := NoObject.of_not_exists hv
    cases v with
    | obj ms => exact (hv ms rfl).elim
    | _ =>
      cases h
      exact .whole hv

theorem Misshapen.error (h : Misshapen env v name) :
    ∃ f, withEnvironment env v = .error f ∧ f.name = name := by
  cases h with
  | whole hv =>
    cases v with
    | obj ms => exact (hv ms rfl).elim
    | _ => exact ⟨_, rfl, rfl⟩
  | key hsection hs hkey =>
    have hfilled := (filled_noObject env hs).resolve_right fun h => h.1 hkey
    rw [withEnvironment_obj, hsection, Option.getD_some, hfilled.2]
    exact ⟨_, rfl, rfl⟩
  | provider hsection hs hkey hset hm =>
    have hfilled := (filled_noObject env hs).resolve_left fun h => hkey h.1
    obtain ⟨f, hf, hname⟩ := fillProvider_foreign hs hset hm
    rw [withEnvironment_obj, hsection, Option.getD_some, hfilled.2, hf]
    exact ⟨f, rfl, hname⟩

end Filling

/-- What keeps settings from being loaded without being told as a fault of the configuration, with
the failure that comes out in its place. -/
inductive Stray (d : Disk) (env : Environment) (named : String) : String → Prop where
  | path {p : Path} (h : Sought d named p) (hp : Barred d p) : Stray d env named "OSError"
  | shape {v : Json} {name : String} (h : source d named = .ok v) (hv : Misshapen env v name) :
      Stray d env named name
  | user {v : Json} {ms : Members} (h : source d named = .ok v)
      (hv : withEnvironment env v = .ok ms)
      (hu : (storePath? ms).any StorageSettings.namesUser = true) :
      Stray d env named "RuntimeError"
  | store {v : Json} {ms : Members} {s : Settings} (h : source d named = .ok v)
      (hv : withEnvironment env v = .ok ms)
      (hu : (storePath? ms).any StorageSettings.namesUser = false)
      (hread : ({} : Settings).readFields d.homePath ms = .ok s) (hs : s.Unreachable d) :
      Stray d env named "OSError"

section Loading

theorem load_source (h : source d named = .ok v) :
    load d env named = withEnvironment env v >>= read d {} := by
  rw [load_eq, h]
  rfl

theorem load_filled (h : source d named = .ok v) (hv : withEnvironment env v = .ok ms) :
    load d env named = read d {} ms := by
  rw [load_source h, hv]
  rfl

theorem load_ok {s : Settings} (h : load d env named = .ok s) : s.Valid d := by
  rw [load_eq] at h
  obtain ⟨v, -, h⟩ := bind_eq_ok.mp h
  obtain ⟨ms, -, h⟩ := bind_eq_ok.mp h
  exact inBounds_default.read h

theorem load_error (h : load d env named = .error f) :
    (∃ text, f = .configuration text) ∨ Stray d env named f.name := by
  cases hsource : source d named with
  | error e =>
    rw [load_eq, hsource] at h
    cases h
    refine (source_error hsource).imp_right ?_
    rintro ⟨p, hp, hbarred, hname⟩
    rw [hname]
    exact .path hp hbarred
  | ok v =>
    cases hfill : withEnvironment env v with
    | error e =>
      rw [load_source hsource, hfill] at h
      cases h
      exact .inr (.shape hsource (withEnvironment_error hfill))
    | ok ms =>
      rw [load_filled hsource hfill] at h
      rcases read_error h with htext | ⟨hu, hname⟩ | ⟨hu, s, hread, hs, hname⟩
      · exact .inl htext
      · rw [hname]
        exact .inr (.user hsource hfill hu)
      · rw [hname]
        exact .inr (.store hsource hfill hu hread hs)

theorem Stray.error (h : Stray d env named name) :
    ∃ f, load d env named = .error f ∧ f.name = name := by
  cases h with
  | path hp hbarred =>
    obtain ⟨f, hf, hname⟩ := hp.barred hbarred
    rw [load_eq, hf]
    exact ⟨f, rfl, hname⟩
  | shape hsource hv =>
    obtain ⟨f, hf, hname⟩ := hv.error
    rw [load_source hsource, hf]
    exact ⟨f, rfl, hname⟩
  | user hsource hv hu =>
    rw [load_filled hsource hv, read_user hu]
    exact ⟨_, rfl, rfl⟩
  | store hsource hv hu hread hs =>
    rw [load_filled hsource hv]
    exact read_unreachable hu hread hs

theorem Misshapen.not_configuration (h : Misshapen env v name) : name ≠ "ConfigurationError" := by
  cases h <;> decide

theorem Stray.not_configuration (h : Stray d env named name) : name ≠ "ConfigurationError" := by
  cases h with
  | shape _ hv => exact hv.not_configuration
  | _ => decide

end Loading

section Example

/-- A disk with one settings file that says a value. -/
def holding (v : Json) : Disk :=
  { here := ["work"], entries := [(["work", "c.json"], .file (Json.render none v))] }

theorem source_holding (hv : Json.plain v = true) : source (holding v) "c.json" = .ok v := by
  have hsuffix : Text.lower (Path.ofText "c.json").suffix = ".json" := by decide +kernel
  have hfind : (holding v).find (.ofText "c.json") = .ok (.file (Json.render none v)) := rfl
  have hreturn : '\r' ∉ (Json.render none v).toList := by
    rw [Json.render, String.toList_ofList]
    exact Json.return_not_mem_write none v 0 hv
  have htext : (holding v).readText (.ofText "c.json") = .ok (Json.render none v) := by
    rw [Disk.readText, hfind]
    simp only [Disk.unifyLines_eq hreturn, String.ofList_toList]
  have hread : readFile (holding v) (.ofText "c.json") = .ok v := by
    rw [readFile, hsuffix, htext, if_neg (by decide)]
    simp only [pure_bind, show ¬(".json" : String) = ".toml" by decide, if_false,
      Json.parse_render hv]
    rfl
  have hthere : (holding v).exists? (.ofText "c.json") = .ok true := by
    rw [Disk.exists?, hfind]
  rw [source, if_pos (by decide), readGiven, hthere, hread]
  rfl

/-- Settings that say of the model that there is none. -/
def noModel : Json := .obj [("llm", .null)]

theorem noModel_refused : load (holding noModel) [] "c.json" = .error (invalid
    ["  - llm: Input should be a valid dictionary or instance of LLMConfig"]) := by
  rw [load_filled (source_holding rfl) rfl]
  exact read_refused rfl rfl

end Example

end LinkShelf.Settings
