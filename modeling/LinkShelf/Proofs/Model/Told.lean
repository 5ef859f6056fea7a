import LinkShelf.Model.Client
import LinkShelf.Proofs.Model.Mask
import LinkShelf.Proofs.Number.Numeral
/-!
What the failure of a request tells of the key it was made with. The words of the client itself
hold no key, so a key that is told has been in the text of a failure of the line, and there with
another one that overlaps it.
-/
namespace LinkShelf

namespace Key

variable {key provider a b : String} {c : Char} {k cs : List Char}

section Words

theorem prefix_pieces {sep : Char} (h : k <+: cs) (hsep : sep ∉ k) :
    ∃ w ws, Text.pieces sep cs = w :: ws ∧ k <+: w := by
  induction cs generalizing k with
  | nil => exact ⟨[], [], rfl, h⟩
  | cons c cs ih =>
    rw [Text.pieces]
    split
    · rename_i hc
      subst hc
      exact ⟨[], _, rfl, by rw [Text.prefix_start h hsep]⟩
    · cases k with
      | nil =>
        obtain ⟨w, ws, hpieces, -⟩ := ih List.nil_prefix List.not_mem_nil
        rw [hpieces]
        exact ⟨c :: w, ws, rfl, List.nil_prefix⟩
      | cons d k =>
        obtain ⟨rfl, hk⟩ := List.cons_prefix_cons.mp h
        obtain ⟨w, ws, hpieces, hw⟩ := ih hk fun hm => hsep (List.mem_cons_of_mem _ hm)
        rw [hpieces]
        exact ⟨d :: w, ws, rfl, List.cons_prefix_cons.mpr ⟨rfl, hw⟩⟩

/-- A part of a text without a separator stands in one of the pieces of the text. -/
theorem infix_pieces {sep : Char} (h : k <:+: cs) (hsep : sep ∉ k) :
    ∃ w ∈ Text.pieces sep cs, k <:+: w := by
  induction cs with
  | nil => exact ⟨[], List.mem_singleton_self _, h⟩
  | cons c cs ih =>
    rcases List.infix_cons_iff.mp h with hp | h
    · obtain ⟨w, ws, hpieces, hw⟩ := prefix_pieces hp hsep
      exact ⟨w, by simp [hpieces], hw.isInfix⟩
    · obtain ⟨w, hw, hin⟩ := ih h
      rw [Text.pieces]
      split
      · exact ⟨w, List.mem_cons_of_mem _ hw, hin⟩
      · cases hpieces : Text.pieces sep cs with
        | nil => simp [hpieces] at hw
        | cons p ps =>
          rw [hpieces] at hw
          rcases List.mem_cons.mp hw with rfl | hw
          · exact ⟨c :: w, List.mem_cons_self, hin.trans (List.suffix_cons c w).isInfix⟩
          · exact ⟨w, List.mem_cons_of_mem _ hw, hin⟩

theorem Accepted.absent_join (h : Accepted provider key) (ha : ¬Shows a key) (hb : ¬Shows b key) :
    ¬Shows (a ++ " " ++ b) key := by
  intro hshow
  have hsplit : (a ++ " " ++ b).toList = a.toList ++ ' ' :: b.toList := by simp
  rw [Shows, hsplit] at hshow
  exact (Text.infix_split hshow (h.not_mem (by decide) (by decide))).elim ha hb

theorem Accepted.absent_words (h : Accepted provider key)
    (ha : (Text.pieces ' ' a.toList).all (·.length < 23) = true) : ¬Shows a key := by
  intro hshow
  obtain ⟨w, hw, hin⟩ := infix_pieces hshow (h.not_mem (c := ' ') (by decide) (by decide))
  have hshort := List.all_eq_true.mp ha w hw
  rw [decide_eq_true_eq] at hshort
  have hle := hin.length_le
  have hlong := h.long
  omega

/-- The characters that keys start with are letters. -/
theorem Accepted.absent_numeral (h : Accepted provider key)
    (ha : ∀ c ∈ a.toList, c ∉ ['A', 's', 'x']) : ¬Shows a key := by
  intro hshow
  obtain ⟨c, tail, hkey, hc⟩ := h.head
  exact ha c (hshow.mem (by simp [hkey])) hc

end Words

end Key

namespace Client

open LinkShelf.Act LinkShelf.Key

variable {c : Client} {key provider : String} {f e : Fault} {answers : Nat → Except Fault Response}
  {w : Wire}

section Own

/-- A number, with a mark behind it or not, is a word in which there is no letter. -/
theorem absent_digits (h : Accepted provider key) {s : String} (mark : List Char)
    (hs : ∀ x ∈ s.toList, Numeral.IsWholeChar x) (hmark : ∀ x ∈ mark, x ∉ ['A', 's', 'x']) :
    ¬Shows (s ++ .ofList mark) key := by
  refine h.absent_numeral fun x hx => ?_
  rw [String.toList_append, String.toList_ofList, List.mem_append] at hx
  rcases hx with hx | hx
  · intro hletter
    simp only [List.mem_cons, List.not_mem_nil, or_false] at hletter
    rcases hs x hx with hd | rfl
    · rcases hletter with rfl | rfl | rfl <;> cases hd
    · revert hletter
      decide
  · exact hmark x hx

theorem absent_statusText (h : Accepted provider key) (p : Provider) (status : Int)
    {tail s : String} (htail : tail = ": " ++ s)
    (hs : (Text.pieces ' ' s.toList).all (·.length < 23) = true) :
    ¬Shows (p.displayName ++ " API error " ++ Json.intText status ++ tail) key := by
  have hname : ¬Shows (p.displayName ++ " API error") key :=
    h.absent_words (by cases p <;> decide)
  have hnumber := absent_digits h [':'] (Numeral.isWholeChar_intText status) (by simp)
  have hsplit : p.displayName ++ " API error " ++ Json.intText status ++ tail =
      p.displayName ++ " API error" ++ " " ++
        (Json.intText status ++ .ofList [':'] ++ " " ++ s) :=
    String.toList_inj.mp (by simp [htail])
  rw [hsplit]
  exact h.absent_join hname (h.absent_join hnumber (h.absent_words hs))

/-- What is told of a status is the provider, the number and one of these texts. -/
theorem statusFault?_message {status : Int} (h : c.statusFault? status = some f) :
    ∃ tail ∈ [": invalid API key or unauthorized access", ": rate limit exceeded",
        ": service unavailable", ""],
      f.message = c.provider.displayName ++ " API error " ++ Json.intText status ++ tail := by
  unfold statusFault? at h
  split at h
  · cases h
  · split at h
    · cases h
      exact ⟨_, by decide, rfl⟩
    · split at h
      · cases h
        exact ⟨_, by decide, rfl⟩
      · split at h
        · cases h
          exact ⟨_, by decide, rfl⟩
        · cases h
          exact ⟨"", by decide, by simp [fault, Fault.message]⟩

theorem absent_statusFault (h : Accepted provider key) {status : Int}
    (hf : c.statusFault? status = some f) : ¬Shows f.message key := by
  obtain ⟨tail, htail, hmessage⟩ := statusFault?_message hf
  rw [hmessage]
  simp only [List.mem_cons, List.not_mem_nil, or_false] at htail
  rcases htail with rfl | rfl | rfl | rfl
  · exact absent_statusText h _ _ (s := "invalid API key or unauthorized access") rfl (by decide)
  · exact absent_statusText h _ _ (s := "rate limit exceeded") rfl (by decide)
  · exact absent_statusText h _ _ (s := "service unavailable") rfl (by decide)
  · have hname : ¬Shows (c.provider.displayName ++ " API error") key :=
      h.absent_words (by cases c.provider <;> decide)
    have hnumber := absent_digits h [] (Numeral.isWholeChar_intText status) (by simp)
    have hsplit : c.provider.displayName ++ " API error " ++ Json.intText status ++ "" =
        c.provider.displayName ++ " API error" ++ " " ++ (Json.intText status ++ .ofList []) :=
      String.toList_inj.mp (by simp)
    rw [hsplit]
    exact h.absent_join hname hnumber

theorem isWholeChar_toString (n : Nat) : ∀ x ∈ (toString n).toList, Numeral.IsWholeChar x := by
  intro x hx
  rw [Nat.toString_eq_repr, Nat.toList_repr] at hx
  exact .inl (Nat.isDigit_of_mem_toDigits (by omega) (by omega) hx)

/-- A fault of a JSON text with its place. -/
theorem absent_syntaxError (h : Accepted provider key) (e : Json.SyntaxError) :
    ¬Shows e.message key := by
  have htrouble : ¬Shows (e.trouble.message ++ ": line") key :=
    h.absent_words (by cases e.trouble <;> decide)
  have hline := absent_digits h [] (isWholeChar_toString e.line) (by simp)
  have hcolumn := absent_digits h [] (isWholeChar_toString e.column) (by simp)
  have hoffset := absent_digits h [')'] (isWholeChar_toString e.offset) (by simp)
  have hsplit : e.message = e.trouble.message ++ ": line" ++ " " ++
      (toString e.line ++ .ofList [] ++ " " ++ ("column" ++ " " ++
        (toString e.column ++ .ofList [] ++ " " ++ ("(char" ++ " " ++
          (toString e.offset ++ .ofList [')']))))) :=
    String.toList_inj.mp (by simp [Json.SyntaxError.message])
  rw [hsplit]
  exact h.absent_join htrouble (h.absent_join hline (h.absent_join (h.absent_words (by decide))
    (h.absent_join hcolumn (h.absent_join (h.absent_words (by decide)) hoffset))))

theorem absent_valueOf (h : Accepted provider key) {r : Response} (hf : c.valueOf r = .error f) :
    ¬Shows f.message key := by
  unfold valueOf at hf
  split at hf
  · rename_i hstatus
    cases hf
    exact absent_statusFault h hstatus
  · split at hf
    · cases hf
    · rename_i e _
      cases hf
      have hname : ¬Shows ("Invalid JSON response from " ++ c.provider.displayName ++ ":") key :=
        h.absent_words (by cases c.provider <;> decide)
      have hsplit : "Invalid JSON response from " ++ c.provider.displayName ++ ": " ++ e.message =
          "Invalid JSON response from " ++ c.provider.displayName ++ ":" ++ " " ++ e.message :=
        String.toList_inj.mp (by simp)
      show ¬Shows ("Invalid JSON response from " ++ c.provider.displayName ++ ": " ++ e.message) key
      rw [hsplit]
      exact h.absent_join hname (absent_syntaxError h e)

end Own

section Requests

/-- Whatever fails on the line is a failure of the line. -/
def Scripted (answers : Nat → Except Fault Response) : Prop :=
  ∀ n f, answers n = .error f → f.family? = some .transport ∨ f.family? = some .http

/-- Where a failure comes from that an attempt ends with: from the line, or else it holds no key. -/
def Arises (answers : Nat → Except Fault Response) (key : String) (f : Fault) : Prop :=
  ¬Shows f.message key ∨ ∃ n, answers n = .error f

/-- What is told of a failure shows a key only if the text of a failure of the line has the key
twice, one overlapping the other. -/
def ToldOverlapped (answers : Nat → Except Fault Response) (key : String) (f : Fault) : Prop :=
  Shows f.message key → ∃ n e, answers n = .error e ∧ Overlapped key.toList e.message.toList

theorem shows_of_overlapped {message : String} (h : Overlapped key.toList message.toList) :
    Shows message key := by
  obtain ⟨n, -, hin⟩ := h
  exact (List.prefix_append key.toList _).isInfix.trans hin

theorem Arises.toldOverlapped (h : Arises answers key f) (hs : Scripted answers)
    (hc : concerns f = false) : ToldOverlapped answers key f := by
  rcases h with habsent | ⟨n, hn⟩
  · exact fun hshow => (habsent hshow).elim
  · unfold concerns at hc
    rcases hs n f hn with hf | hf <;> cases f <;> simp_all [Fault.family?]

theorem lastFault_message (c : Client) (f : Fault) :
    (c.lastFault f).message = mask f.message [c.key] ∨
      (c.lastFault f).message =
        c.provider.displayName ++ " request failed:" ++ " " ++ mask f.message [c.key] := by
  unfold lastFault
  split
  · exact .inl rfl
  · refine .inr (String.toList_inj.mp ?_)
    simp [fault, Fault.message]

/-- The failure told in the end has the key masked in its text. -/
theorem toldOverlapped_lastFault (h : Accepted provider c.key) (hf : Arises answers c.key f) :
    ToldOverlapped answers c.key (c.lastFault f) := by
  intro hshow
  have hmask : Shows (mask f.message [c.key]) c.key := by
    rcases lastFault_message c f with hmessage | hmessage
    · rwa [hmessage] at hshow
    · have hname : ¬Shows (c.provider.displayName ++ " request failed:") c.key :=
        h.absent_words (by cases c.provider <;> decide)
      rw [hmessage] at hshow
      by_contra hmask
      exact h.absent_join hname hmask hshow
  have hover := h.mask_shows hmask
  rcases hf with habsent | ⟨n, hn⟩
  · exact (habsent (shows_of_overlapped hover)).elim
  · exact ⟨n, f, hn, hover⟩

theorem absent_delay (h : Accepted provider key) {p : Pace Binary64} {n : Nat} {time : Binary64}
    (hf : p.delay n time = .error f) : ¬Shows f.message key := by
  unfold Pace.delay at hf
  simp only [Reckoning.whole, Json.wholeAsReal] at hf
  generalize Binary64.ofInt? (2 ^ n : Nat) = factor at hf
  cases factor with
  | some x => cases hf
  | none =>
    cases hf
    exact h.absent_words (by decide)

theorem ends_send (h : Accepted provider key) (r : Request) (w : Wire) :
    Ends (Wire.send r) w (fun _ t => t.answers = w.answers)
      (fun f t => t.answers = w.answers ∧ Arises w.answers key f) := by
  unfold Wire.send
  rw [ends_modify_bind]
  split
  · exact ⟨rfl, .inl (h.absent_words (by decide))⟩
  · exact ends_lift (fun _ _ => rfl) fun _ hanswer => ⟨rfl, .inr ⟨_, hanswer⟩⟩

theorem ends_attempt (h : Accepted provider c.key) (r : Request) (w : Wire) :
    Ends (c.attempt r) w (fun _ t => t.answers = w.answers)
      (fun f t => t.answers = w.answers ∧ Arises w.answers c.key f) := by
  refine (ends_send h r w).bind fun response t ht => ?_
  exact ends_lift (fun _ _ => ht) fun _ hvalue => ⟨ht, .inl (absent_valueOf h hvalue)⟩

/-- By induction on the tries that are left; none changes what the line is going to answer. -/
theorem ends_tryFrom (h : Accepted provider c.key) (r : Request) (hs : Scripted answers)
    (left n : Nat) (w : Wire) (hw : w.answers = answers) :
    Ends (c.tryFrom c.pace r n left) w (fun _ _ => True)
      (fun f _ => ToldOverlapped answers c.key f) := by
  induction left generalizing n w with
  | zero =>
    rw [tryFrom]
    refine ((ends_attempt h r w).mono (fun _ _ _ => trivial) fun _ _ h => h).tryCatch ?_
    rintro f t ⟨-, hf⟩
    rw [hw] at hf
    cases hc : concerns f with
    | false => exact ends_throw.mpr (hf.toldOverlapped hs hc)
    | true => exact toldOverlapped_lastFault h hf
  | succ left ih =>
    rw [tryFrom]
    refine ((ends_attempt h r w).mono (fun _ _ _ => trivial) fun _ _ h => h).tryCatch ?_
    rintro f t ⟨ht, hf⟩
    rw [hw] at ht hf
    dsimp only
    cases hc : concerns f with
    | false => exact ends_throw.mpr (hf.toldOverlapped hs hc)
    | true =>
      simp only [Bool.not_true, Bool.false_eq_true, if_false, ends_modify_bind]
      cases hp : mayPass f with
      | false => exact toldOverlapped_lastFault h hf
      | true =>
        simp only [Bool.not_true, Bool.false_eq_true, if_false, ends_get_bind]
        generalize hdelay : c.pace.delay n _ = delayed
        refine ends_lift_bind (fun time _ => ?_) fun e he => ?_
        · rw [ends_modify_bind]
          have hsame : (t.countError.wait time).answers = answers := ht
          exact ih (n + 1) _ hsame
        · rw [he] at hdelay
          exact fun hshow => (absent_delay h hdelay hshow).elim

end Requests

/-- A key that a hosted provider takes is seen in a masked text only if the text had it twice, the
second one starting in the last three characters of the first. Where the ends of a key are the same,
such a text does show it. The same holds of what is told in the end of a request: a key in it has
been in the text of a failure of the line, in just this way. -/
theorem key_shown_only_overlapped (h : Accepted provider key) :
    (∀ message, Shows (mask message [key]) key → Overlapped key.toList message.toList) ∧
    (∀ n, Bordered key.toList n → Shows (mask (key ++ .ofList (key.toList.drop n)) [key]) key) ∧
    ∀ (c : Client) (r : Request) (w t : Wire) (e : Fault), c.key = key → Scripted w.answers →
      Wire.run (c.ask r) w = (.error e, t) → ToldOverlapped w.answers key e := by
  refine ⟨fun _ => h.mask_shows, fun _ => h.mask_overlapped, ?_⟩
  rintro c r w t e rfl hs hrun
  exact (ends_iff.mp (ends_tryFrom h r hs _ 0 w rfl)).2 e t hrun

section Example

/-- A key whose ends have nothing in common. -/
def plainKey : String := "sk-0123456789abcdefghij"

theorem plainKey_hidden : Accepted "openai" plainKey ∧
    ∀ message, ¬Shows (mask message [plainKey]) plainKey := by
  have hkey : Accepted "openai" plainKey := ⟨by decide +kernel, by decide +kernel⟩
  have hends : ∀ n ∈ [1, 2, 3],
      plainKey.toList.drop (plainKey.toList.length - n) ≠ plainKey.toList.take n := by
    decide +kernel
  refine ⟨hkey, fun message hshow => ?_⟩
  obtain ⟨n, ⟨hpos, hle, hsame⟩, -⟩ := (key_shown_only_overlapped hkey).1 message hshow
  exact hends n (by simp; omega) hsame

/-- A key that ends with the letter that it starts with. -/
def ringKey : String := "sk-0123456789abcdefghis"

/-- The key, and from its last letter on the key again. -/
def ringText : String := ringKey ++ "k-0123456789abcdefghis"

/-- A line that fails with this text. -/
def ringWire : Wire :=
  { answers := fun _ => .error (.foreign .transport "ConnectError" ringText)
    clock := fun _ => .zero }

def ringClient : Client :=
  { provider := .openai, key := ringKey, model := "m", base := "b", maxRetries := 0 }

/-- The key is in the masked text, and in what is told of the request. -/
theorem ringKey_shown : Accepted "openai" ringKey ∧ Shows (mask ringText [ringKey]) ringKey ∧
    Scripted ringWire.answers ∧
    ∃ e t, Wire.run (ringClient.ask { method := .get, url := "u" }) ringWire = (.error e, t) ∧
      Shows e.message ringKey := by
  have hkey : Accepted "openai" ringKey := ⟨by decide +kernel, by decide +kernel⟩
  refine ⟨hkey, by unfold Shows; decide +kernel, ?_, _, _, rfl, ?_⟩
  · intro n f hf
    cases hf
    exact .inl rfl
  · unfold Shows
    decide +kernel

end Example

end Client

end LinkShelf
