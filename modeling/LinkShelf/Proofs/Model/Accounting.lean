import LinkShelf.Model.Talk
import LinkShelf.Proofs.Model.Told
import LinkShelf.Proofs.Number.Range
/-!
How often a request is made, and what is counted. Tries go on while what they are met with may
pass, up to the last one there is; each is sent, counted and, if another one follows, waited after.
What the last one is met with is all that decides about the result.
-/
namespace LinkShelf

/-- Below a whole number that has a double, every one has. -/
theorem Json.wholeAsReal_mono {m n : Nat} {x : Binary64} (h : wholeAsReal n = .ok x) (hle : m ≤ n) :
    ∃ y, wholeAsReal m = .ok y := by
  unfold wholeAsReal at h ⊢
  cases hm : Binary64.ofInt? m with
  | some y => exact ⟨y, rfl⟩
  | none =>
    have hlarge : Binary64.ofInt? n = none := by
      rw [Binary64.ofInt?_eq_none, Int.natAbs_natCast] at hm ⊢
      exact Nat.le_trans hm hle
    rw [hlarge] at h
    cases h

theorem Json.wholeAsReal_small {n : Nat} (h : n ≤ 2 ^ 53) : ∃ x, wholeAsReal n = .ok x := by
  have hsome := @Binary64.ofInt?_eq n h
  rw [wholeAsReal, hsome]
  exact ⟨_, rfl⟩

namespace Client

open LinkShelf.Act

variable {c : Client} {r : Request} {w t : Wire} {answers : Nat → Except Fault Response}
  {k n max start : Nat}

section Outcome

/-- Whether another try follows when one is met with this. -/
def Passing : Except Fault Response → Prop
  | .error f => f.family? = some .transport
  | .ok response => response.status ∈ [408, 423, 429, 500, 502, 503, 504]

/-- The kind of failure that a status stands for. -/
def statusKind (status : Int) : ModelFault :=
  if status = 401 ∨ status = 403 then .authentication
  else if status = 429 then .rateLimit
  else if 500 ≤ status then .unavailable
  else .request

/-- What the result is if the last try is met with this: a value, or a kind of failure and the
status that goes with it. -/
def verdict : Except Fault Response → Except (ModelFault × Option Int) Json
  | .error _ => .error (.request, none)
  | .ok response =>
    if response.status < 400 then
      match response.body.value with
      | .ok v => .ok v
      | .error _ => .error (.request, some response.status)
    else .error (statusKind response.status, some response.status)

/-- A failure of the kind and with the status of a verdict. -/
def Tells (c : Client) (said : ModelFault × Option Int) (f : Fault) : Prop :=
  ∃ message, f = .model said.1 message (some c.provider.name) said.2

variable {o : Except Fault Response} {f : Fault} {v : Json} {status : Int}

theorem statusFault?_low (h : status < 400) : c.statusFault? status = none := if_pos h

theorem statusFault?_high (h : ¬status < 400) :
    ∃ message, c.statusFault? status = some (c.fault (statusKind status) message status) := by
  unfold statusFault? statusKind
  simp only [if_neg h]
  split
  · exact ⟨_, rfl⟩
  · split
    · exact ⟨_, rfl⟩
    · split <;> exact ⟨_, rfl⟩

theorem mayPass_fault {kind : ModelFault} {message : String} (h : kind ≠ .authentication) :
    mayPass (c.fault kind message (some status)) = true ↔ status ∈ retryable := by
  cases kind with
  | authentication => exact (h rfl).elim
  | _ => exact decide_eq_true_iff

/-- Another try does not help whoever has no right to ask. -/
theorem mayPass_statusKind {message : String} :
    mayPass (c.fault (statusKind status) message (some status)) = true ↔ status ∈ retryable := by
  by_cases hkind : statusKind status = .authentication
  · have hstatus : status = 401 ∨ status = 403 := by
      unfold statusKind at hkind
      split at hkind
      · assumption
      · split at hkind
        · cases hkind
        · split at hkind <;> cases hkind
    rw [hkind]
    refine iff_of_false nofun ?_
    rcases hstatus with rfl | rfl <;> decide
  · exact mayPass_fault hkind

theorem tells_lastFault (kind : ModelFault) (message : String) (status : Option Int) :
    Tells c (kind, status) (c.lastFault (c.fault kind message status)) := ⟨_, rfl⟩

/-- A value comes only of an answer after which no other try follows. -/
theorem verdict_ok (h : o >>= c.valueOf = .ok v) : verdict o = .ok v ∧ ¬Passing o := by
  obtain ⟨response, rfl, hvalue⟩ := bind_eq_ok.mp h
  unfold valueOf at hvalue
  by_cases hlow : response.status < 400
  · rw [statusFault?_low hlow] at hvalue
    cases hbody : response.body.value with
    | error e =>
      rw [hbody] at hvalue
      cases hvalue
    | ok u =>
      rw [hbody] at hvalue
      cases hvalue
      refine ⟨by simp only [verdict, if_pos hlow, hbody], fun hpass => ?_⟩
      simp only [Passing, List.mem_cons, List.not_mem_nil, or_false] at hpass
      omega
  · obtain ⟨message, hfault⟩ := @statusFault?_high c _ hlow
    rw [hfault] at hvalue
    cases hvalue

/-- Any failure concerns the request; it says of itself whether another try may follow, and what is
told of it in the end is its verdict. -/
theorem verdict_error (hs : ∀ e, o = .error e → e.family? = some .transport ∨
    e.family? = some .http) (h : o >>= c.valueOf = .error f) :
    concerns f = true ∧ (mayPass f = true ↔ Passing o) ∧
      ∃ said, verdict o = .error said ∧ Tells c said (c.lastFault f) := by
  cases o with
  | error e =>
    obtain rfl : e = f := Except.error.inj h
    cases e with
    | foreign family name message =>
      refine ⟨?_, decide_eq_true_iff, _, rfl, ⟨_, rfl⟩⟩
      rcases hs _ rfl with hf | hf <;> cases hf <;> rfl
    | _ => rcases hs _ rfl with hf | hf <;> cases hf
  | ok response =>
    change c.valueOf response = .error f at h
    unfold valueOf at h
    by_cases hlow : response.status < 400
    · rw [statusFault?_low hlow] at h
      cases hbody : response.body.value with
      | ok u =>
        rw [hbody] at h
        cases h
      | error e =>
        rw [hbody] at h
        cases h
        refine ⟨rfl, mayPass_fault nofun, (.request, some response.status), ?_,
          tells_lastFault _ _ _⟩
        simp only [verdict, if_pos hlow, hbody]
    · obtain ⟨message, hfault⟩ := @statusFault?_high c _ hlow
      rw [hfault] at h
      cases h
      exact ⟨rfl, mayPass_statusKind, _, if_neg hlow, tells_lastFault _ _ _⟩

end Outcome

section Tries

/-- The server takes the headers of a request only if they are ASCII. -/
def Sendable (r : Request) : Prop := (r.headers.any fun h => !Wire.isAscii h.2) = false

def sent (r : Request) (w : Wire) : Wire :=
  { w with requestCount := w.requestCount + 1, requests := w.requests ++ [r] }

/-- The number of the last try, counted from zero: all before it were met with something that may
pass, and what it was met with may not, or no try was left. -/
structure Decides (answers : Nat → Except Fault Response) (start max k : Nat) : Prop where
  within : k ≤ max
  passed : ∀ i < k, Passing (answers (start + i))
  last : k = max ∨ ¬Passing (answers (start + k))

/-- A request was made once and then so many times more, with a wait before each of these. -/
structure Accounted (r : Request) (k errors : Nat) (w t : Wire) : Prop where
  requests : t.requests = w.requests ++ List.replicate (k + 1) r
  requestCount : t.requestCount = w.requestCount + (k + 1)
  retryCount : t.retryCount = w.retryCount + k
  waits : t.waits.length = w.waits.length + k
  errorCount : t.errorCount = w.errorCount + errors

theorem Decides.succ (hfirst : Passing (answers start)) (h : Decides answers (start + 1) max k) :
    Decides answers start (max + 1) (k + 1) := by
  refine ⟨Nat.succ_le_succ h.within, fun i hi => ?_, ?_⟩
  · cases i with
    | zero => exact hfirst
    | succ i =>
      rw [show start + (i + 1) = start + 1 + i by omega]
      exact h.passed i (Nat.lt_of_succ_lt_succ hi)
  · rw [show start + (k + 1) = start + 1 + k by omega]
    exact h.last.imp_left fun he => congrArg (· + 1) he

theorem decides_zero (h : max = 0 ∨ ¬Passing (answers start)) : Decides answers start max 0 :=
  ⟨Nat.zero_le max, nofun, h.imp_left Eq.symm⟩

theorem accounted_sent (r : Request) (w : Wire) : Accounted r 0 0 w (sent r w) :=
  ⟨rfl, rfl, rfl, rfl, rfl⟩

theorem accounted_countError (r : Request) (w : Wire) :
    Accounted r 0 1 w (sent r w).countError := ⟨rfl, rfl, rfl, rfl, rfl⟩

theorem Accounted.succ {errors : Nat} {time : Binary64}
    (h : Accounted r k errors ((sent r w).countError.wait time) t) :
    Accounted r (k + 1) (errors + 1) w t := by
  refine ⟨?_, ?_, ?_, ?_, ?_⟩
  · rw [h.requests, List.replicate_succ]
    exact List.append_assoc w.requests [r] _
  · rw [h.requestCount]
    exact (Nat.add_right_comm ..).trans (Nat.add_assoc ..)
  · rw [h.retryCount]
    exact (Nat.add_right_comm ..).trans (Nat.add_assoc ..)
  · rw [h.waits]
    simp only [Wire.wait, Wire.countError, sent, List.length_append, List.length_singleton]
    omega
  · rw [h.errorCount]
    exact (Nat.add_right_comm ..).trans (Nat.add_assoc ..)

theorem ends_send_sent (hr : Sendable r) (w : Wire) : Ends (Wire.send r) w
    (fun response t => t = sent r w ∧ w.answers w.requests.length = .ok response)
    (fun f t => t = sent r w ∧ w.answers w.requests.length = .error f) := by
  unfold Wire.send
  rw [ends_modify_bind, if_neg (by rw [hr]; exact Bool.false_ne_true)]
  exact ends_lift (fun _ hanswer => ⟨rfl, hanswer⟩) fun _ hanswer => ⟨rfl, hanswer⟩

theorem ends_attempt_sent (hr : Sendable r) (w : Wire) : Ends (c.attempt r) w
    (fun v t => t = sent r w ∧ w.answers w.requests.length >>= c.valueOf = .ok v)
    (fun f t => t = sent r w ∧ w.answers w.requests.length >>= c.valueOf = .error f) := by
  refine ((ends_send_sent hr w).mono (fun _ _ h => h) ?_).bind ?_
  · rintro f t ⟨ht, hanswer⟩
    exact ⟨ht, by rw [hanswer]; rfl⟩
  · rintro response t ⟨ht, hanswer⟩
    rw [hanswer]
    exact ends_lift (fun _ hvalue => ⟨ht, hvalue⟩) fun _ hvalue => ⟨ht, hvalue⟩

/-- The tries brought a value, with the last of them. -/
def Brought (max : Nat) (r : Request) (w : Wire) (v : Json) (t : Wire) : Prop :=
  ∃ k, Decides w.answers w.requests.length max k ∧ Accounted r k k w t ∧
    verdict (w.answers (w.requests.length + k)) = .ok v

/-- All tries failed, and the failure tells of the last of them. -/
def Failed (c : Client) (max : Nat) (r : Request) (w : Wire) (f : Fault) (t : Wire) : Prop :=
  ∃ k, Decides w.answers w.requests.length max k ∧ Accounted r k (k + 1) w t ∧
    ∃ said, verdict (w.answers (w.requests.length + k)) = .error said ∧ Tells c said f

/-- The wire before the next try. -/
def waited (r : Request) (time : Binary64) (w : Wire) : Wire := (sent r w).countError.wait time

theorem length_waited (r : Request) (time : Binary64) (w : Wire) (k : Nat) :
    (waited r time w).requests.length + k = w.requests.length + (k + 1) := by
  simp only [waited, Wire.wait, Wire.countError, sent, List.length_append, List.length_singleton]
  omega

theorem Brought.succ {time : Binary64} {v : Json} (hfirst : Passing (w.answers w.requests.length))
    (h : Brought max r (waited r time w) v t) : Brought (max + 1) r w v t := by
  obtain ⟨k, hdecides, haccounted, hverdict⟩ := h
  rw [length_waited] at hverdict
  rw [← Nat.add_zero (List.length _), length_waited] at hdecides
  exact ⟨k + 1, hdecides.succ hfirst, haccounted.succ, hverdict⟩

theorem Failed.succ {time : Binary64} {f : Fault} (hfirst : Passing (w.answers w.requests.length))
    (h : Failed c max r (waited r time w) f t) : Failed c (max + 1) r w f t := by
  obtain ⟨k, hdecides, haccounted, hverdict⟩ := h
  rw [length_waited] at hverdict
  rw [← Nat.add_zero (List.length _), length_waited] at hdecides
  exact ⟨k + 1, hdecides.succ hfirst, haccounted.succ, hverdict⟩

/-- A try that succeeds is the last one. -/
theorem ends_attempt_brought (hr : Sendable r) (max : Nat) (w : Wire) : Ends (c.attempt r) w
    (fun v t => Brought max r w v t)
    (fun f t => t = sent r w ∧ w.answers w.requests.length >>= c.valueOf = .error f) := by
  refine (ends_attempt_sent hr w).mono ?_ fun _ _ h => h
  rintro v t ⟨rfl, hvalue⟩
  obtain ⟨hverdict, hlast⟩ := verdict_ok hvalue
  exact ⟨0, decides_zero (.inr hlast), accounted_sent r w, hverdict⟩

/-- By induction on the tries that are left, none of which changes what the line is going to
answer. -/
theorem ends_tryFrom_accounted (hr : Sendable r) (left n : Nat) (w : Wire)
    (hs : Scripted w.answers) (hdelay : ∀ m < n + left, ∀ time, ∃ d, c.pace.delay m time = .ok d) :
    Ends (c.tryFrom c.pace r n left) w (fun v t => Brought left r w v t)
      (fun f t => Failed c left r w f t) := by
  induction left generalizing n w with
  | zero =>
    rw [tryFrom]
    refine (ends_attempt_brought hr 0 w).tryCatch ?_
    rintro f t ⟨rfl, hf⟩
    obtain ⟨hconcerns, -, hverdict⟩ := verdict_error (hs _) hf
    simp only [hconcerns, Bool.not_true, Bool.false_eq_true, if_false, ends_modify_bind, ends_throw]
    exact ⟨0, decides_zero (.inl rfl), accounted_countError r w, hverdict⟩
  | succ left ih =>
    rw [tryFrom]
    refine (ends_attempt_brought hr (left + 1) w).tryCatch ?_
    rintro f t ⟨rfl, hf⟩
    obtain ⟨hconcerns, hpass, hverdict⟩ := verdict_error (hs _) hf
    simp only [hconcerns, Bool.not_true, Bool.false_eq_true, if_false, ends_modify_bind]
    cases hp : mayPass f with
    | false =>
      have hlast : ¬Passing (w.answers w.requests.length) := fun h => by
        rw [hpass.mpr h] at hp
        cases hp
      exact ⟨0, decides_zero (.inr hlast), accounted_countError r w, hverdict⟩
    | true =>
      have hfirst := hpass.mp hp
      simp only [Bool.not_true, Bool.false_eq_true, if_false, ends_get_bind]
      generalize htime : c.pace.delay n _ = delayed
      refine ends_lift_bind (fun time _ => ?_) fun e he => ?_
      · rw [ends_modify_bind]
        refine (ih (n + 1) (waited r time w) hs fun m hm => hdelay m (by omega)).mono ?_ ?_
        · exact fun _ _ h => h.succ hfirst
        · exact fun _ _ h => h.succ hfirst
      · obtain ⟨time, hok⟩ := hdelay n (by omega) _
        rw [hok, he] at htime
        cases htime

/-- A wait can be made out as long as the power of two in it is a double. -/
theorem delay_ok {p : Pace Binary64} {m : Nat} {x : Binary64}
    (h : Json.wholeAsReal (2 ^ m : Nat) = .ok x) (hle : n ≤ m) (time : Binary64) :
    ∃ d, p.delay n time = .ok d := by
  obtain ⟨y, hy⟩ := Json.wholeAsReal_mono h (Nat.pow_le_pow_right Nat.two_pos hle)
  have hwhole : Reckoning.whole (2 ^ n) = .ok y := hy
  rw [Pace.delay, hwhole]
  exact ⟨_, rfl⟩

theorem ends_ask_accounted {x : Binary64} (hr : Sendable r) (w : Wire) (hs : Scripted w.answers)
    (hpower : Json.wholeAsReal (2 ^ c.maxRetries.toNat : Nat) = .ok x) :
    Ends (c.ask r) w (fun v t => Brought c.maxRetries.toNat r w v t)
      (fun f t => Failed c c.maxRetries.toNat r w f t) :=
  ends_tryFrom_accounted hr _ 0 w hs fun m hm => delay_ok hpower (by omega)

/-- Where a request with other headers ends: it cannot even be made, and is counted all the same. -/
def Unmade (w : Wire) (f : Fault) (t : Wire) : Prop :=
  f = .foreign .badValue "UnicodeEncodeError" "ordinal not in range(128)" ∧
    t = { w with requestCount := w.requestCount + 1 }

theorem ends_ask_unsendable (hr : ¬Sendable r) (w : Wire) : Ends (c.ask r) w (fun _ _ => False)
    (fun f t => Unmade w f t) := by
  have hany : (r.headers.any fun h => !Wire.isAscii h.2) = true := by
    simpa [Sendable] using hr
  have hsend : Ends (Wire.send r) w (fun _ _ => False) (fun f t => Unmade w f t) := by
    unfold Wire.send
    rw [ends_modify_bind, if_pos hany]
    exact ⟨rfl, rfl⟩
  have hattempt : Ends (c.attempt r) w (fun _ _ => False) (fun f t => Unmade w f t) :=
    hsend.bind fun _ _ h => h.elim
  unfold ask askAt
  cases c.maxRetries.toNat with
  | zero =>
    rw [tryFrom]
    refine hattempt.tryCatch ?_
    rintro f t ⟨rfl, rfl⟩
    exact ⟨rfl, rfl⟩
  | succ left =>
    rw [tryFrom]
    refine hattempt.tryCatch ?_
    rintro f t ⟨rfl, rfl⟩
    exact ⟨rfl, rfl⟩

end Tries

/-- The request for the reply to a prompt. -/
def promptRequest (c : Client) (prompt : String) : Request :=
  { method := .post, url := c.base ++ c.promptPath, parameters := c.parameters,
    headers := c.headers, body := some (c.promptBody prompt) }

/-- A chat server gets the key as a header; the others do not. -/
def KeyFits (c : Client) : Prop :=
  c.provider = .gemini ∨ c.provider = .ollama ∨ Wire.isAscii c.key = true

theorem sendable_iff (prompt : String) : Sendable (c.promptRequest prompt) ↔ c.KeyFits := by
  let bad (h : String × String) : Bool := !Wire.isAscii h.2
  have hcommon : commonHeaders.any bad = false := by decide
  have hkey : Wire.isAscii ("Bearer " ++ c.key) = Wire.isAscii c.key := by
    rw [Wire.isAscii, String.toList_append, List.all_append]
    exact Bool.true_and _
  have hchat : (if c.key = "" then commonHeaders
      else commonHeaders ++ [("Authorization", "Bearer " ++ c.key)]).any bad = false ↔
        Wire.isAscii c.key = true := by
    by_cases he : c.key = ""
    · rw [if_pos he, he]
      exact iff_of_true hcommon rfl
    · rw [if_neg he, List.any_append, hcommon]
      simp [bad, hkey]
  change c.headers.any bad = false ↔ _
  unfold headers KeyFits
  cases c.provider with
  | gemini => exact iff_of_true hcommon (.inl rfl)
  | ollama => exact iff_of_true hcommon (.inr (.inl rfl))
  | _ => simpa using hchat

/-- How often the model is asked, what is counted, and what comes of it: a text only if the last
try is met with a value, and else a failure of the kind and the status that it is met with. A key
that does not fit into a header makes the request fail before it is sent. -/
theorem generate_accounted {x : Binary64} (c : Client) (prompt : String) (w : Wire)
    (hs : Scripted w.answers)
    (hpower : Json.wholeAsReal (2 ^ c.maxRetries.toNat : Nat) = .ok x) :
    (c.KeyFits → Ends (c.generate prompt) w
      (fun text t => ∃ v, Brought c.maxRetries.toNat (c.promptRequest prompt) w v t ∧
        text = Reply.textAt (replyPath c.provider) v)
      (fun f t => Failed c c.maxRetries.toNat (c.promptRequest prompt) w f t)) ∧
    (¬c.KeyFits → Ends (c.generate prompt) w (fun _ _ => False) (fun f t => Unmade w f t)) := by
  rw [← sendable_iff prompt]
  refine ⟨fun hr => ?_, fun hr => ?_⟩
  · exact (ends_ask_accounted hr w hs hpower).bind fun v t h => ⟨v, h, rfl⟩
  · exact (ends_ask_unsendable hr w).bind fun _ _ h => h.elim

section Example

def shakyClient : Client :=
  { provider := .openai, key := "sk-1", model := "m", base := "http://h", maxRetries := 2 }

/-- The line breaks, the server is busy, then it answers with something that is no reply. -/
@[irreducible] def shakyWire : Wire :=
  { answers := fun n => match n with
      | 0 => .error (.foreign .transport "ConnectError" "refused")
      | 1 => .ok { status := 503, body := .text "" }
      | _ => .ok { body := .json (.arr [.null]) }
    clock := fun _ => half }

theorem shaky_scripted : Scripted shakyWire.answers := by
  unfold shakyWire
  intro n f hf
  match n with
  | 0 =>
    cases hf
    exact .inl rfl
  | 1 => cases hf
  | n + 2 => cases hf

theorem shaky_accounted : Scripted shakyWire.answers ∧
    (∃ x, Json.wholeAsReal (2 ^ shakyClient.maxRetries.toNat : Nat) = .ok x) ∧
    shakyClient.KeyFits ∧
    Ends (shakyClient.generate "hi") shakyWire
      (fun text t => ∃ v, Brought shakyClient.maxRetries.toNat (shakyClient.promptRequest "hi")
        shakyWire v t ∧ text = Reply.textAt (replyPath shakyClient.provider) v)
      (fun f t => Failed shakyClient shakyClient.maxRetries.toNat
        (shakyClient.promptRequest "hi") shakyWire f t) := by
  have hpower : ∃ x, Json.wholeAsReal (2 ^ shakyClient.maxRetries.toNat : Nat) = .ok x :=
    Json.wholeAsReal_small (by decide)
  obtain ⟨x, hx⟩ := hpower
  have hkey : shakyClient.KeyFits := .inr (.inr (by decide))
  exact ⟨shaky_scripted, ⟨x, hx⟩, hkey,
    (generate_accounted shakyClient "hi" shakyWire shaky_scripted hx).1 hkey⟩

/-- A key with a letter that is no ASCII. -/
def accentedClient : Client := { shakyClient with key := "sk-é" }

/-- A server that answers at once. -/
def readyWire : Wire :=
  { answers := fun _ => .ok { body := .json (.arr [.null]) }
    clock := fun _ => half }

/-- Nothing is sent, nothing counts as an error, and the failure is none of the model. -/
theorem accented_unmade : Scripted readyWire.answers ∧
    Decides readyWire.answers 0 2 0 ∧ verdict (readyWire.answers 0) = .ok (.arr [.null]) ∧
    Ends (accentedClient.generate "hi") readyWire (fun _ _ => False)
      (fun f t => f.name = "UnicodeEncodeError" ∧ t.requests = [] ∧ t.requestCount = 1 ∧
        t.errorCount = 0) := by
  have hkey : ¬Sendable (accentedClient.promptRequest "hi") := by
    unfold Sendable
    decide
  have hlast : ¬(200 : Int) ∈ [408, 423, 429, 500, 502, 503, 504] := by decide
  refine ⟨nofun, decides_zero (.inr hlast), rfl, ?_⟩
  refine Ends.bind ((ends_ask_unsendable hkey readyWire).mono (fun _ _ h => h) ?_)
    fun _ _ h => h.elim
  rintro f t ⟨rfl, rfl⟩
  exact ⟨rfl, rfl, rfl, rfl⟩

end Example

end Client

end LinkShelf
