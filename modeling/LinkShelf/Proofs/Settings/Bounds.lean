import LinkShelf.Proofs.Number.Exact
import LinkShelf.Settings.Basic
/-!
Settings within bounds. A check lets through only what a setting takes, and a setting that is not
given stays what it was. So loosely written values that are put over settings within bounds give
such settings again, or else they are refused.
-/
namespace LinkShelf

namespace Checked

variable {α β : Type} {place : List String} {v : Json}

theorem app_eq_ok {f : Checked (α → β)} {x : Checked α} {b : β} :
    app f x = .ok b ↔ ∃ g a, f = .ok g ∧ x = .ok a ∧ b = g a := by
  cases f <;> cases x <;> simp [app, eq_comm]

/-- What holds of a setting before, and of all that its check lets through, holds of it after. -/
theorem replacing_ok (p : α → Prop) {ms : Members} {name : String} {before a : α}
    {check : List String → Json → Checked α} (hbefore : p before)
    (hcheck : ∀ place v a, check place v = .ok a → p a)
    (h : replacing ms name before check place = .ok a) : p a := by
  unfold replacing at h
  split at h
  · exact hcheck _ _ _ h
  · cases h
    exact hbefore

theorem whole_ok {low high n : Int} (h : whole place low high v = .ok n) : low ≤ n ∧ n ≤ high := by
  unfold whole at h
  split at h
  · cases h
  · split at h
    · cases h
    · split at h
      · cases h
      · cases h
        omega

theorem positive_ok {limit x : Binary64} (h : positive place limit v = .ok x) :
    Binary64.zero.lt x = true ∧ x.le limit = true := by
  unfold positive at h
  split at h
  · cases h
  · split at h
    · cases h
    · rename_i hle
      split at h
      · cases h
      · rename_i hlt
        cases h
        exact ⟨by simpa using hlt, by simpa using hle⟩

end Checked

section Bounds

theorem Binary64.ofRatio_one {n : Nat} (h : n ≤ 2 ^ 53) :
    ofRatio false n 1 = .finite false (n * oneUnits) := by
  have hwhole := ofRatio_whole false Nat.one_pos h
  rwa [Nat.mul_one] at hwhole

/-- A number above zero and up to another one has no sign, and its units are between theirs. -/
theorem Binary64.finite_of_bounds {x : Binary64} {units : Nat} (hlt : zero.lt x = true)
    (hle : x.le (.finite false units) = true) : ∃ u, x = .finite false u ∧ 0 < u ∧ u ≤ units := by
  cases x with
  | nan => cases hlt
  | infinite s =>
    cases s with
    | false => cases hle
    | true => cases hlt
  | finite s u =>
    have hpos : 0 < signed s u := by
      simpa [lt, zero, compare?, signed, Int.compare_eq_lt] using hlt
    have hbound : signed s u ≤ units := by
      rcases (by simpa [le, compare?] using hle : _ ∨ _) with h | h
      · exact Int.le_of_lt (Int.compare_eq_lt.mp h)
      · exact Int.le_of_eq h
    cases s with
    | true =>
      simp only [signed, if_true] at hpos
      omega
    | false =>
      simp only [signed, Bool.false_eq_true, if_false] at hpos hbound
      exact ⟨u, rfl, by omega, by omega⟩

/-- No key is one of those that stand for a key in an example. -/
structure ModelSettings.InBounds (m : ModelSettings) : Prop where
  timeout : 5 ≤ m.timeout ∧ m.timeout ≤ 300
  maxRetries : 0 ≤ m.maxRetries ∧ m.maxRetries ≤ 10
  keys : ∀ key, m.geminiKey = some key ∨ m.openaiKey = some key ∨ m.grokKey = some key →
    key ∉ placeholderKeys

/-- The time for an address is above zero seconds and at most 120. -/
structure AgentSettings.InBounds (a : AgentSettings) : Prop where
  urlTimeout : ∃ units, a.urlTimeout = .finite false units ∧ 0 < units ∧
    units ≤ 120 * Binary64.oneUnits

structure Settings.InBounds (s : Settings) : Prop where
  model : s.model.InBounds
  agent : s.agent.InBounds

namespace ModelSettings

variable {m n : ModelSettings} {ms : Members} {place : List String} {v : Json}

theorem keyIn_ok {owner : String} {key : Option String} (h : keyIn owner place v = .ok key) :
    ∀ k, key = some k → k ∉ placeholderKeys := by
  unfold keyIn secretIn at h
  split at h
  · cases h
    exact nofun
  · split at h
    · cases h
    · rename_i hno
      cases h
      rintro k ⟨⟩
      exact hno

theorem InBounds.read (hm : m.InBounds) (h : m.read ms = .ok n) : n.InBounds := by
  unfold ModelSettings.read at h
  simp only [Checked.app_eq_ok] at h
  obtain ⟨_, retries, ⟨_, timeout, ⟨_, grok, ⟨_, openai, ⟨_, gemini, ⟨_, base, ⟨_, name,
    ⟨_, provider, ⟨⟩, -, rfl⟩, -, rfl⟩, -, rfl⟩, hgemini, rfl⟩, hopenai, rfl⟩, hgrok, rfl⟩,
    htimeout, rfl⟩, hretries, rfl⟩ := h
  have hkeys := hm.keys
  refine ⟨?_, ?_, ?_⟩
  · exact Checked.replacing_ok (fun n => 5 ≤ n ∧ n ≤ 300) hm.timeout
      (fun _ _ _ h => Checked.whole_ok h) htimeout
  · exact Checked.replacing_ok (fun n => 0 ≤ n ∧ n ≤ 10) hm.maxRetries
      (fun _ _ _ h => Checked.whole_ok h) hretries
  · let taken (key : Option String) : Prop := ∀ k, key = some k → k ∉ placeholderKeys
    rintro key (hkey | hkey | hkey)
    · exact Checked.replacing_ok taken (fun k hk => hkeys k (.inl hk))
        (fun _ _ _ h => keyIn_ok h) hgemini key hkey
    · exact Checked.replacing_ok taken (fun k hk => hkeys k (.inr (.inl hk)))
        (fun _ _ _ h => keyIn_ok h) hopenai key hkey
    · exact Checked.replacing_ok taken (fun k hk => hkeys k (.inr (.inr hk)))
        (fun _ _ _ h => keyIn_ok h) hgrok key hkey

end ModelSettings

theorem AgentSettings.maxUrlTimeout_eq :
    maxUrlTimeout = .finite false (120 * Binary64.oneUnits) :=
  Binary64.ofRatio_one (by decide)

theorem AgentSettings.inBounds_default : AgentSettings.InBounds {} := by
  have hten : ({} : AgentSettings).urlTimeout = .finite false (10 * Binary64.oneUnits) := by
    dsimp only
    exact Binary64.ofRatio_one (by decide)
  have hpos : 0 < 10 * Binary64.oneUnits := Nat.mul_pos (by decide) Binary64.oneUnits_pos
  have hle : 10 * Binary64.oneUnits ≤ 120 * Binary64.oneUnits :=
    Nat.mul_le_mul_right _ (by decide)
  exact ⟨_, hten, hpos, hle⟩

theorem AgentSettings.InBounds.read {a b : AgentSettings} {ms : Members} (ha : a.InBounds)
    (h : a.read ms = .ok b) : b.InBounds := by
  unfold AgentSettings.read at h
  simp only [Checked.app_eq_ok] at h
  obtain ⟨_, timeout, ⟨_, urls, ⟨_, stack, ⟨⟩, -, rfl⟩, -, rfl⟩, htimeout, rfl⟩ := h
  let within (x : Binary64) : Prop :=
    ∃ units, x = .finite false units ∧ 0 < units ∧ units ≤ 120 * Binary64.oneUnits
  refine ⟨Checked.replacing_ok within ha.urlTimeout (fun _ _ _ h => ?_) htimeout⟩
  obtain ⟨hlt, hle⟩ := Checked.positive_ok h
  rw [maxUrlTimeout_eq] at hle
  exact Binary64.finite_of_bounds hlt hle

end Bounds

namespace Settings

variable {d : Disk} {s t : Settings} {ms : Members} {f : Fault}

theorem sectionIn_ok {α : Type} {kind : String} {g : Members → Checked α} {place : List String}
    {v : Json} {a : α} (h : sectionIn kind g place v = .ok a) : ∃ ns, g ns = .ok a := by
  obtain ⟨ns, -, hns⟩ := bind_eq_ok.mp h
  exact ⟨ns, hns⟩

theorem InBounds.readFields {home : Path} (hs : s.InBounds) (h : s.readFields home ms = .ok t) :
    t.InBounds := by
  unfold Settings.readFields at h
  simp only [Checked.app_eq_ok] at h
  obtain ⟨_, level, ⟨_, agent, ⟨_, storage, ⟨_, model, ⟨⟩, hmodel, rfl⟩, -, rfl⟩, hagent, rfl⟩, -,
    rfl⟩ := h
  refine ⟨?_, ?_⟩
  · refine Checked.replacing_ok ModelSettings.InBounds hs.model (fun _ _ _ h => ?_) hmodel
    obtain ⟨_, hread⟩ := sectionIn_ok h
    exact hs.model.read hread
  · refine Checked.replacing_ok AgentSettings.InBounds hs.agent (fun _ _ _ h => ?_) hagent
    obtain ⟨_, hread⟩ := sectionIn_ok h
    exact hs.agent.read hread

theorem inBounds_default : InBounds {} := by
  refine ⟨⟨by decide, by decide, ?_⟩, AgentSettings.inBounds_default⟩
  rintro key (h | h | h) <;> cases h

/-- Settings within bounds, with the names that a provider and a level may have, that fit the disk:
a collection in a file is not kept at a folder. -/
structure Valid (d : Disk) (s : Settings) : Prop extends s.InBounds where
  provider : s.model.provider.name ∈ ["gemini", "openai", "grok", "ollama", "lmstudio"]
  logLevel : s.logLevel.name ∈ ["DEBUG", "INFO", "WARNING", "ERROR"]
  store : s.storage.backend = .json → d.find s.storage.path ≠ .ok .folder

theorem InBounds.valid (hs : s.InBounds)
    (hstore : s.storage.backend = .json → d.find s.storage.path ≠ .ok .folder) : s.Valid d := by
  refine ⟨hs, ?_, ?_, hstore⟩
  · cases s.model.provider <;> decide
  · cases s.logLevel <;> decide

end Settings

namespace Disk

variable {d : Disk} {p : Path} {f : Fault}

/-- A disk can say whether something is there, unless it cannot even look at the path. -/
theorem exists?_error : d.exists? p = .error f ↔
    d.find p = .error .longName ∧ f = Refusal.longName.fault p.text := by
  unfold exists?
  cases d.find p with
  | ok e => simp
  | error r => cases r <;> simp [eq_comm]

theorem isFolder?_error : d.isFolder? p = .error f ↔
    d.find p = .error .longName ∧ f = Refusal.longName.fault p.text := by
  unfold isFolder?
  cases d.find p with
  | ok e => cases e <;> simp
  | error r => cases r <;> simp [eq_comm]

theorem isFolder?_folder (h : d.find p = .ok .folder) : d.isFolder? p = .ok true := by
  rw [isFolder?, h]

end Disk

namespace Settings

variable {d : Disk} {s t : Settings} {ms : Members} {f : Fault} {lines : List String}

section Reading

theorem read_user (h : (storePath? ms).any StorageSettings.namesUser = true) : read d s ms =
    .error (.foreign .other "RuntimeError" "Could not determine home directory.") := by
  rw [read, settle.eq_def, if_pos h]
  rfl

variable (hu : (storePath? ms).any StorageSettings.namesUser = false)

include hu

theorem read_refused (h : readFields d.homePath s ms = .error lines) :
    read d s ms = .error (invalid lines) := by
  rw [read, settle.eq_def, hu, h]
  rfl

theorem read_fields (h : readFields d.homePath s ms = .ok t) : read d s ms =
    (if t.storage.backend = .json then d.isFolder? t.storage.path else .ok false) >>= fun isFolder =>
      if isFolder then .error (invalid [Checked.complaint [] ("Value error, Storage path " ++
        t.storage.path.text ++ " is a directory; expected a JSON file")])
      else .ok t := by
  rw [read, settle.eq_def, hu, h]
  by_cases hj : t.storage.backend = .json
  · simp only [Bool.false_eq_true, if_false, if_pos hj]
    cases d.isFolder? t.storage.path with
    | error f => rfl
    | ok isFolder => cases isFolder <;> rfl
  · simp only [Bool.false_eq_true, if_false, if_neg hj]
    rfl

end Reading

/-- Values put over settings within bounds give valid settings. -/
theorem InBounds.read (hs : s.InBounds) (h : Settings.read d s ms = .ok t) : t.Valid d := by
  cases hu : (storePath? ms).any StorageSettings.namesUser with
  | true =>
    rw [read_user hu] at h
    cases h
  | false =>
    cases hf : s.readFields d.homePath ms with
    | error lines =>
      rw [read_refused hu hf] at h
      cases h
    | ok u =>
      rw [read_fields hu hf] at h
      obtain ⟨isFolder, hfolder, h⟩ := bind_eq_ok.mp h
      cases isFolder with
      | true => cases h
      | false =>
        cases h
        refine (hs.readFields hf).valid fun hj hfind => ?_
        rw [if_pos hj, Disk.isFolder?_folder hfind] at hfolder
        cases hfolder

/-- The store is in a file at a path that the disk cannot even look at. -/
def Unreachable (d : Disk) (s : Settings) : Prop :=
  s.storage.backend = .json ∧ d.find s.storage.path = .error .longName

theorem read_error (h : Settings.read d s ms = .error f) : (∃ text, f = .configuration text) ∨
    (storePath? ms).any StorageSettings.namesUser = true ∧ f.name = "RuntimeError" ∨
    (storePath? ms).any StorageSettings.namesUser = false ∧
      ∃ t, s.readFields d.homePath ms = .ok t ∧ t.Unreachable d ∧ f.name = "OSError" := by
  cases hu : (storePath? ms).any StorageSettings.namesUser with
  | true =>
    rw [read_user hu] at h
    cases h
    exact .inr (.inl ⟨rfl, rfl⟩)
  | false =>
    cases hf : s.readFields d.homePath ms with
    | error lines =>
      rw [read_refused hu hf] at h
      cases h
      exact .inl ⟨_, rfl⟩
    | ok u =>
      rw [read_fields hu hf] at h
      by_cases hj : u.storage.backend = .json
      · rw [if_pos hj] at h
        cases hfolder : d.isFolder? u.storage.path with
        | error f' =>
          rw [hfolder] at h
          cases h
          obtain ⟨hfind, rfl⟩ := Disk.isFolder?_error.mp hfolder
          exact .inr (.inr ⟨rfl, u, rfl, ⟨hj, hfind⟩, rfl⟩)
        | ok isFolder =>
          rw [hfolder] at h
          cases isFolder <;> cases h
          exact .inl ⟨_, rfl⟩
      · rw [if_neg hj] at h
        cases h

theorem read_unreachable (hu : (storePath? ms).any StorageSettings.namesUser = false)
    (hf : s.readFields d.homePath ms = .ok t) (ht : t.Unreachable d) :
    ∃ f, Settings.read d s ms = .error f ∧ f.name = "OSError" := by
  have hfolder := Disk.isFolder?_error.mpr ⟨ht.2, rfl⟩
  rw [read_fields hu hf, if_pos ht.1, hfolder]
  exact ⟨_, rfl, rfl⟩

end Settings

end LinkShelf
