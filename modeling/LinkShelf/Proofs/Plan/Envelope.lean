import LinkShelf.Proofs.Json.Roundtrip
import LinkShelf.Proofs.Plan.Reading
/-!
Envelopes around a reply. An envelope has the plan of the reply in it, also where a fenced block is
found in the text of the envelope itself.
-/
namespace LinkShelf.Reply

open LinkShelf.Json (Flat Blank DenotesDocument Quotes Spells SpellsChars SpellsDocument plain)

variable {text t : String} {v w : Json} {cs p : List Char} {path : List Hop}

section Shape

/-- What has no members is no envelope. -/
theorem envelope?_eq_none (h : ∀ name, v.get? name = none) : envelope? v = none := by
  refine List.findSome?_eq_none_iff.mpr fun path hpath => ?_
  simp only [envelopePaths, geminiPath, chatPath, List.mem_cons, List.not_mem_nil,
    or_false] at hpath
  rcases hpath with rfl | rfl | rfl | rfl | rfl <;> simp [follow, h]

theorem not_flat_of_envelope (h : envelope? v = some t) : ¬Flat v := by
  intro hflat
  have hnone : envelope? v = none := by
    refine envelope?_eq_none fun name => ?_
    cases v with
    | obj ms => exact (hflat.2 ms rfl).elim
    | _ => rfl
  rw [hnone] at h
  cases h

/-- That a text has no fences but those of a reply: it has none, or they are in one literal, which
quotes the reply with its backticks as they are. -/
inductive Verbatim (t : String) : List Char → Prop where
  | unfenced {cs : List Char} (h : ¬fence <:+: cs) : Verbatim t cs
  | quoted {pre body post : List Char} (hpre : ¬fence <:+: pre) (h : Quotes t.toList body)
      (hcount : body.count backtick = t.toList.count backtick) (hpost : ¬fence <:+: post) :
      Verbatim t (pre ++ '"' :: (body ++ '"' :: post))

/-- The JSON text of an object that holds a reply as a provider does, and is no step. -/
structure Envelope (text t : String) : Prop where
  verbatim : Verbatim t text.toList
  holds : ∃ v, Json.parse text = .ok v ∧ v.get? "action" = none ∧ envelope? v = some t

end Shape

section Step

/-- A block of the text that can be read as JSON is one of the quoted text, with no escape in it. -/
theorem Verbatim.block (h : Verbatim t cs) (hp : fenced? cs = some p) (hw : DenotesDocument w p) :
    fenced? t.toList = some p ∧ '"' ∉ p := by
  cases h with
  | unfenced h =>
    rw [fenced?_of_no_fence h] at hp
    cases hp
  | quoted hpre h hcount hpost =>
    have hbetween := ((counted_quotes h).inscribed hcount).between?
    rw [fenced?_eq, between?_quoted hpre hpost] at hp
    rw [fenced?_eq]
    generalize between? t.toList = inside, between? _ = outside at hbetween hp ⊢
    cases hbetween with
    | none => cases hp
    | @some s z hsz =>
      obtain rfl := Option.some.inj hp
      -- an escape in the block would stand before any quote, which no JSON text allows
      rcases hsz.firstMark with ⟨hmark, rfl⟩ | hmark
      · exact ⟨rfl, Json.firstMark_eq_none ((firstMark_blockOf s).trans hmark)⟩
      · exact (hw.firstMark ((firstMark_blockOf z).trans hmark)).elim

/-- An envelope is unwrapped, or what is read of it is what is read of the reply. -/
theorem Envelope.unwrapped (h : Envelope text t) :
    inner? text = some t ∨
      inner? text = none ∧ inner? t = none ∧ ownValue text = ownValue t := by
  obtain ⟨hverbatim, v, hparse, haction, hv⟩ := h
  have hflat := not_flat_of_envelope hv
  by_cases hfence : (fenced? text.toList).getD [] = []
  · refine .inl ?_
    unfold inner?
    rw [parse_candidate hparse hflat hfence]
    simp [haction, hv]
  · obtain ⟨p, hf, hp⟩ : ∃ p, fenced? text.toList = some p ∧ p ≠ [] := by
      cases hf : fenced? text.toList with
      | none => simp [hf] at hfence
      | some p => exact ⟨p, rfl, by simpa [hf] using hfence⟩
    have hcandidate := candidate_block hf hp
    cases hw : Json.parse (.ofList p) with
    | error e =>
      -- the block is a piece of the quoted text as it is written, and all of the text is read
      refine .inl ?_
      unfold inner?
      rw [hcandidate, hw, parse_trimmed hparse hflat]
      exact hv
    | ok w =>
      have hdenotes : DenotesDocument w p := by simpa using Json.parse_denotes hw
      obtain ⟨ht, hquote⟩ := hverbatim.block hf hdenotes
      have hsame : candidate t = candidate text := by rw [hcandidate, candidate_block ht hp]
      have hget := hdenotes.get?_unquoted hquote
      have hinner : ∀ s, candidate s = .ofList p → inner? s = none := by
        intro s hs
        unfold inner?
        rw [hs, hw]
        simp [hget, envelope?_eq_none hget]
      refine .inr ⟨hinner text hcandidate, hinner t (hsame.trans hcandidate), ?_⟩
      rw [ownValue, ownValue, hsame]

theorem decode_inner (h : inner? text = some t) (m : Nat) : decode (m + 1) text = decode m t := by
  conv_lhs => unfold decode
  rw [h]

theorem Envelope.decode (h : Envelope text t) (m : Nat) : decode (m + 1) text = decode m t := by
  rcases h.unwrapped with hinner | ⟨hinner, ht, hown⟩
  · exact decode_inner hinner m
  · rw [decode_own hinner, decode_own ht, hown]

end Step

section Run

/-- The same steps, or failures of one class. -/
inductive Alike : Except Fault Plan → Except Fault Plan → Prop where
  | steps (p : Plan) : Alike (.ok p) (.ok p)
  | fault {e e' : Fault} (h : e.name = e'.name) : Alike (.error e) (.error e')

theorem Alike.refl : (r : Except Fault Plan) → Alike r r
  | .ok p => .steps p
  | .error _ => .fault rfl

theorem Alike.trans {r r' r'' : Except Fault Plan} (h : Alike r r') (h' : Alike r' r'') :
    Alike r r'' := by
  cases h with
  | steps p => exact h'
  | fault h =>
    cases h' with
    | fault h' => exact .fault (h.trans h')

theorem Alike.eq_ok {r : Except Fault Plan} {p : Plan} (h : Alike r (.ok p)) : r = .ok p := by
  cases h
  rfl

theorem Envelope.plan (h : Envelope text t) (m : Nat) :
    Alike (plan (m + 1) text) (plan m t) := by
  obtain ⟨v, hparse, -, hv⟩ := h.holds
  have hfilled := filled_of_parse hparse (not_flat_of_envelope hv)
  unfold Reply.plan
  rw [hfilled, h.decode]
  cases ht : Text.blank t with
  | false => exact Alike.refl _
  | true =>
    obtain ⟨message, hm⟩ := decode_blank ht m
    rw [hm]
    exact .fault rfl

/-- Envelopes one in the other around a reply. -/
inductive Nested : Nat → String → String → Prop where
  | reply (t : String) : Nested 0 t t
  | wrap {n : Nat} {text inner t : String} (h : Envelope text inner) (rest : Nested n inner t) :
      Nested (n + 1) text t

theorem Nested.plan {n : Nat} (h : Nested n text t) (m : Nat) :
    Alike (plan (m + n) text) (plan m t) := by
  induction h with
  | reply t => exact Alike.refl _
  | @wrap n text inner t h _ ih => exact (h.plan (m + n)).trans ih

/-- A reply that is no envelope has the same plan at any depth. -/
theorem plan_any_depth (h : inner? t = none) (d d' : Nat) : plan d t = plan d' t := by
  unfold Reply.plan
  rw [decode_own h, decode_own h]

/-- So many texts taken out one of the other. -/
inductive Unwraps : Nat → String → String → Prop where
  | stop (t : String) : Unwraps 0 t t
  | next {k : Nat} {text inner t : String} (h : inner? text = some inner)
      (rest : Unwraps k inner t) : Unwraps (k + 1) text t

/-- By induction on the depth, which goes down with each text taken out. -/
theorem decode_unwraps (depth : Nat) (text : String) :
    ∃ k ≤ depth, ∃ t, Unwraps k text t ∧ decode depth text = ownValue t ∧
      (k < depth → inner? t = none) := by
  induction depth generalizing text with
  | zero => exact ⟨0, Nat.le_refl _, text, .stop text, rfl, fun h => (Nat.lt_irrefl _ h).elim⟩
  | succ depth ih =>
    cases hinner : inner? text with
    | none => exact ⟨0, Nat.zero_le _, text, .stop text, decode_own hinner _, fun _ => hinner⟩
    | some inner =>
      obtain ⟨k, hk, t, hunwraps, hdecode, hstop⟩ := ih inner
      refine ⟨k + 1, Nat.succ_le_succ hk, t, .next hinner hunwraps, ?_, fun h => hstop ?_⟩
      · rw [decode_inner hinner, hdecode]
      · omega

end Run

section Frame

/-- A value with nothing in it but another one at a place. -/
def frame : List Hop → Json → Json
  | [], v => v
  | .member name :: hops, v => .obj [(name, frame hops v)]
  | .item _ :: hops, v => .arr [frame hops v]

/-- The names on the way to a place. -/
def namesTo : List Hop → List String
  | [] => []
  | .member name :: hops => name :: namesTo hops
  | .item _ :: hops => namesTo hops

theorem unticked_blank {sp : List Char} (h : Blank sp) : backtick ∉ sp := by
  intro hin
  have hspace := h _ hin
  revert hspace
  decide

/-- No escape brings a backtick into what has none. -/
theorem unticked_quotes {s cs : List Char} (h : SpellsChars s cs) (hs : backtick ∉ s) :
    backtick ∉ cs := by
  have hle := (counted_quotes h.quotes).le
  rw [List.count_eq_zero_of_not_mem hs] at hle
  exact List.count_eq_zero.mp (Nat.le_zero.mp hle)

/-- Around the literal of a framed text there are only names, brackets and blanks. By induction on
the way to it, each hop of which is an object or a list with one entry. -/
theorem spells_frame (hpath : ∀ name ∈ namesTo path, backtick ∉ name.toList)
    (h : Spells (.value (frame path (.str t))) cs) :
    ∃ pre body post, cs = pre ++ '"' :: (body ++ '"' :: post) ∧ SpellsChars t.toList body ∧
      backtick ∉ pre ∧ backtick ∉ post := by
  have hquote : backtick ≠ '"' := by decide
  have hcolon : backtick ≠ ':' := by decide
  have hopen : backtick ≠ '\x7b' ∧ backtick ≠ '[' := by decide
  have hclose : backtick ≠ '\x7d' ∧ backtick ≠ ']' := by decide
  induction path generalizing cs with
  | nil =>
    cases h with
    | @str _ body h => exact ⟨[], body, [], rfl, h, by simp, by simp⟩
  | cons hop hops ih =>
    cases hop with
    | member name =>
      have hlater := fun name hin => hpath name (List.mem_cons_of_mem _ hin)
      cases h with
      | @object _ sp _ hsp h =>
        cases h with
        | @lastMember _ _ name' sp₁ sp₂ _ sp₃ hk h₁ h₂ h h₃ =>
          have hname := unticked_quotes hk (hpath name List.mem_cons_self)
          obtain ⟨pre, body, post, rfl, hbody, hpre, hpost⟩ := ih hlater h
          refine ⟨'\x7b' :: (sp ++ '"' :: (name' ++ '"' :: (sp₁ ++ ':' :: (sp₂ ++ pre)))), body,
            post ++ (sp₃ ++ ['\x7d']), by simp, hbody, ?_, ?_⟩
          · simp [hopen, hquote, hcolon, hname, hpre, unticked_blank hsp, unticked_blank h₁,
              unticked_blank h₂]
          · simp [hpost, hclose, unticked_blank h₃]
        | member _ _ _ _ _ _ h' => cases h'
    | item i =>
      cases h with
      | @list _ sp _ hsp h =>
        cases h with
        | @lastItem _ _ sp' h hsp' =>
          obtain ⟨pre, body, post, rfl, hbody, hpre, hpost⟩ := ih hpath h
          refine ⟨'[' :: (sp ++ pre), body, post ++ (sp' ++ [']']), by simp, hbody, ?_, ?_⟩
          · simp [hopen, hpre, unticked_blank hsp]
          · simp [hpost, hclose, unticked_blank hsp']
        | item _ _ _ h' => cases h'

theorem frame_holds (h : path ∈ envelopePaths) (t : String) :
    plain (frame path (.str t)) = true ∧ (frame path (.str t)).get? "action" = none ∧
      envelope? (frame path (.str t)) = some t ∧
      ∀ name ∈ namesTo path, backtick ∉ name.toList := by
  simp only [envelopePaths, List.mem_cons, List.not_mem_nil, or_false] at h
  rcases h with rfl | rfl | rfl | rfl | rfl
  all_goals
    refine ⟨rfl, rfl, rfl, ?_⟩
    decide

theorem count_quoted {pre body post : List Char} (hpre : backtick ∉ pre) (hpost : backtick ∉ post) :
    (pre ++ '"' :: (body ++ '"' :: post)).count backtick = body.count backtick := by
  have hquote : '"' ≠ backtick := by decide
  rw [List.count_append, List.count_cons_of_ne hquote, List.count_append,
    List.count_cons_of_ne hquote, List.count_eq_zero_of_not_mem hpre,
    List.count_eq_zero_of_not_mem hpost, Nat.zero_add, Nat.add_zero]

/-- Any text of an envelope with nothing else in it, if its backticks are those of the reply or make
no fence. -/
theorem envelope_of_frame (hpath : path ∈ envelopePaths)
    (h : SpellsDocument (frame path (.str t)) cs)
    (hticks : ¬fence <:+: cs ∨ cs.count backtick = t.toList.count backtick) :
    Envelope (.ofList cs) t := by
  obtain ⟨hplain, haction, henvelope, hnames⟩ := frame_holds hpath t
  refine ⟨?_, _, h.parse hplain, haction, henvelope⟩
  rw [String.toList_ofList]
  rcases hticks with hfence | hcount
  · exact .unfenced hfence
  · obtain @⟨sp, _, sp', hsp, h, hsp'⟩ := h
    obtain ⟨pre, body, post, rfl, hbody, hpre, hpost⟩ := spells_frame hnames h
    have hpre' : backtick ∉ sp ++ pre := by simp [unticked_blank hsp, hpre]
    have hpost' : backtick ∉ post ++ sp' := by simp [unticked_blank hsp', hpost]
    have hcs : sp ++ (pre ++ '"' :: (body ++ '"' :: post) ++ sp') =
        (sp ++ pre) ++ '"' :: (body ++ '"' :: (post ++ sp')) := by simp
    rw [hcs, count_quoted hpre' hpost'] at hcount
    rw [hcs]
    exact .quoted (no_fence_of_not_mem hpre') hbody.quotes hcount
      (no_fence_of_not_mem hpost')

/-- The writer escapes no backtick. -/
theorem count_escapeChar (c : Char) :
    (Json.escapeChar c).count backtick = [c].count backtick := by
  have hspelled : SpellsChars [c] (Json.escapeChar c) := by
    simpa using Json.spells_escaped [c]
  by_cases hc : c = backtick
  · rw [hc]
    decide
  · have hnot : backtick ∉ [c] := fun h => hc (List.mem_singleton.mp h).symm
    rw [List.count_eq_zero_of_not_mem hnot,
      List.count_eq_zero_of_not_mem (unticked_quotes hspelled hnot)]

theorem count_literal (s : String) :
    (Json.literal s).count backtick = s.toList.count backtick := by
  have hchars : ∀ cs : List Char,
      (cs.flatMap Json.escapeChar).count backtick = cs.count backtick := by
    intro cs
    induction cs with
    | nil => rfl
    | cons c cs ih =>
      rw [List.flatMap_cons, List.count_append, count_escapeChar, ih, ← List.count_append,
        List.singleton_append]
  have hquote : '"' ≠ backtick := by decide
  rw [Json.literal, List.count_append, List.count_cons_of_ne hquote, hchars]
  simp [List.count_cons_of_ne hquote]

theorem unticked_first (indent : Json.Indent) (level : Nat) : backtick ∉ indent.first level :=
  unticked_blank (Json.first_blank indent level)

theorem count_write_frame (hpath : ∀ name ∈ namesTo path, backtick ∉ name.toList)
    (indent : Json.Indent) (level : Nat) (t : String) :
    (Json.write indent level (frame path (.str t))).count backtick = t.toList.count backtick := by
  induction path generalizing level with
  | nil =>
    rw [frame, Json.write]
    exact count_literal t
  | cons hop hops ih =>
    have hfirst := fun level => List.count_eq_zero_of_not_mem (unticked_first indent level)
    have hmark : ∀ {c : Char}, c ≠ backtick → ∀ cs : List Char,
        (c :: cs).count backtick = cs.count backtick := fun hc _ => List.count_cons_of_ne hc
    cases hop with
    | member name =>
      have hname := List.count_eq_zero_of_not_mem (hpath name List.mem_cons_self)
      have hlater := ih (fun name hin => hpath name (List.mem_cons_of_mem _ hin)) (level + 1)
      simp [frame, Json.write, Json.writeMembers, hfirst, count_literal, hname, hlater,
        hmark (c := '\x7b') (by decide), hmark (c := ':') (by decide),
        hmark (c := ' ') (by decide), hmark (c := '\x7d') (by decide)]
    | item i =>
      have hlater := ih hpath (level + 1)
      simp [frame, Json.write, Json.writeItems, hfirst, hlater, hmark (c := '[') (by decide),
        hmark (c := ']') (by decide)]

theorem envelope_render (hpath : path ∈ envelopePaths) (indent : Json.Indent) (t : String) :
    Envelope (Json.render indent (frame path (.str t))) t := by
  obtain ⟨hplain, -, -, hnames⟩ := frame_holds hpath t
  exact envelope_of_frame hpath (Json.spells_render hplain indent)
    (.inr (count_write_frame hnames indent 0 t))

end Frame

/-- An envelope has the outcome of the reply in it with one more level to unwrap, and so have nested
ones, with as many levels more as there are envelopes. The texts with nothing else in them are
envelopes of the reply if their backticks are its own or make no fence, as they are in what the
writer gives. No more texts are taken out of each other than allowed, and fewer only if the last one
is no envelope. -/
theorem envelopes_transparent :
    (∀ {text t}, Envelope text t → ∀ m, Alike (plan (m + 1) text) (plan m t)) ∧
    (∀ {n text t}, Nested n text t → ∀ m, Alike (plan (m + n) text) (plan m t) ∧
      (inner? t = none → ∀ d, Alike (plan (m + n) text) (plan d t))) ∧
    (∀ {path}, path ∈ envelopePaths → ∀ {t cs}, SpellsDocument (frame path (.str t)) cs →
      ¬fence <:+: cs ∨ cs.count backtick = t.toList.count backtick → Envelope (.ofList cs) t) ∧
    (∀ {path}, path ∈ envelopePaths → ∀ indent t,
      Envelope (Json.render indent (frame path (.str t))) t) ∧
    ∀ depth text, ∃ k ≤ depth, ∃ t, Unwraps k text t ∧ decode depth text = ownValue t ∧
      (k < depth → inner? t = none) := by
  refine ⟨Envelope.plan, fun h m => ⟨h.plan m, fun hown d => ?_⟩,
    fun hpath => envelope_of_frame hpath, envelope_render, decode_unwraps⟩
  rw [plan_any_depth hown d m]
  exact h.plan m

section Example

def helpList : Json := .arr [.obj [("action", .str "help")]]

def helpText : List Char := Json.write none 0 helpList

def helpStep : Step := { action := "help" }

theorem parse_helpText : Json.parse (.ofList helpText) = .ok helpList :=
  (Json.spells_render (by decide) none).parse (by decide)

theorem stepsOf_help : stepsOf [.obj [("action", .str "help")]] = .ok [helpStep] := by rfl

theorem plan_helpBlock (h : fenced? cs = some helpText) (d : Nat) :
    inner? (.ofList cs) = none ∧ plan d (.ofList cs) = .ok [helpStep] := by
  obtain ⟨hown, hplan⟩ := plan_block h (List.cons_ne_nil _ _) parse_helpText d
  rw [hplan, stepsOf_help]
  exact ⟨hown, rfl⟩

theorem plan_helpText (d : Nat) : plan d (.ofList helpText) = .ok [helpStep] := by
  have hflat : ¬Flat helpList := fun hflat => hflat.1 _ rfl
  have hfence : (fenced? (String.ofList helpText).toList).getD [] = [] := by
    rw [String.toList_ofList]
    decide +kernel
  rw [plan_own (filled_of_parse parse_helpText hflat) (parse_candidate parse_helpText hflat hfence)
    (.inl ⟨_, rfl⟩)]
  show (stepsOf [.obj [("action", .str "help")]] >>= _) = _
  rw [stepsOf_help]
  rfl

/-- The text of an envelope with one member and a reply written in it. -/
def responseText (body : List Char) : List Char :=
  '\x7b' :: '"' :: ("response".toList ++ ['"', ':', ' ', '"'] ++ body ++ ['"', '\x7d'])

theorem spells_response {body : List Char} (h : SpellsChars t.toList body) :
    SpellsDocument (frame [.member "response"] (.str t)) (responseText body) := by
  have hname : SpellsChars "response".toList "response".toList :=
    Json.spells_escaped "response".toList
  have hmember := Spells.lastMember hname Json.blank_nil Json.blank_space (.str h) Json.blank_nil
  have htext := SpellsDocument.intro Json.blank_nil (.object Json.blank_nil hmember) Json.blank_nil
  unfold responseText
  generalize "response".toList = name at htext ⊢
  simpa [frame] using htext

/-- A backtick by its code point. -/
def tickEscape : List Char := "\\u0060".toList

theorem spells_tick : Json.SpellsChar backtick tickEscape :=
  .codePoint (n := 96) rfl rfl rfl

/-- The literal of a text with all backticks escaped. -/
def hidden (cs : List Char) : List Char :=
  cs.flatMap fun c => if c = backtick then tickEscape else Json.escapeChar c

theorem spells_hidden (cs : List Char) : SpellsChars cs (hidden cs) := by
  induction cs with
  | nil => exact .nil
  | cons c cs ih =>
    have hc : Json.SpellsChar c (if c = backtick then tickEscape else Json.escapeChar c) := by
      split
      · rename_i hc
        rw [hc]
        exact spells_tick
      · exact Json.spells_escapeChar c
    exact .cons hc ih

/-- A reply in a fenced block with a tag. -/
def fencedChars : List Char := fence ++ "json\n".toList ++ helpText ++ '\n' :: fence

def fencedReply : String := .ofList fencedChars

def hiddenText : String := .ofList (responseText (hidden fencedChars))

def enclosedText : String := Json.render (some 2) (frame geminiPath (.str hiddenText))

theorem plan_enclosed : Nested 2 enclosedText fencedReply ∧ inner? fencedReply = none ∧
    Alike (plan 1 hiddenText) (plan 0 fencedReply) ∧
    plan defaultDepth enclosedText = .ok [helpStep] := by
  obtain ⟨hstep, hnested, hspelled, hrendered, -⟩ := envelopes_transparent
  have hfenced : fenced? fencedChars = some helpText := by decide +kernel
  obtain ⟨hown, hplan⟩ := plan_helpBlock hfenced 0
  have hunticked : backtick ∉ responseText (hidden fencedChars) := by decide +kernel
  have htext : SpellsChars fencedReply.toList (hidden fencedChars) := by
    rw [fencedReply, String.toList_ofList]
    exact spells_hidden fencedChars
  have hresponse : [Hop.member "response"] ∈ envelopePaths := by decide
  have hhidden : Envelope hiddenText fencedReply :=
    hspelled hresponse (spells_response htext) (.inl (no_fence_of_not_mem hunticked))
  have h : Nested 2 enclosedText fencedReply :=
    .wrap (hrendered (by decide) _ _) (.wrap hhidden (.reply _))
  have halike : Alike (plan (1 + 2) enclosedText) (.ok [helpStep]) :=
    hplan ▸ (hnested h 1).2 hown 0
  exact ⟨h, hown, hstep hhidden 0, halike.eq_ok⟩

theorem plan_emptyList (h : fenced? cs = some ['[', ']']) (d : Nat) :
    plan d (.ofList cs) = .error (.plan "Unable to interpret agent response.") := by
  have hparse : Json.parse (.ofList ['[', ']']) = .ok (.arr []) :=
    Json.parse_render (v := .arr []) rfl none
  rw [(plan_block h (List.cons_ne_nil _ _) hparse d).2]
  rfl

theorem spells_append {a x b y : List Char} (h : SpellsChars a x) (h' : SpellsChars b y) :
    SpellsChars (a ++ b) (x ++ y) := by
  induction h with
  | nil => exact h'
  | cons hc _ ih =>
    rw [List.cons_append, List.append_assoc]
    exact .cons hc ih

/-- A fenced list with nothing in it. -/
def emptyBlock : List Char := fence ++ '[' :: ']' :: fence

/-- The fenced list, and one with nothing in it behind it. -/
def twoBlocks : List Char := fence ++ (helpText ++ (fence ++ (' ' :: emptyBlock)))

/-- A fence with its first backtick escaped. -/
def halfHidden : List Char := tickEscape ++ [backtick, backtick]

/-- An envelope of the two blocks in which only the second one has fences. -/
def halfHiddenText : List Char :=
  responseText
    (halfHidden ++ (helpText.flatMap Json.escapeChar ++ (halfHidden ++ (' ' :: emptyBlock))))

theorem spells_halfHidden :
    SpellsDocument (frame [.member "response"] (.str (.ofList twoBlocks))) halfHiddenText := by
  have hfence : SpellsChars fence halfHidden :=
    .cons spells_tick (Json.spells_escaped [backtick, backtick])
  refine spells_response ?_
  rw [String.toList_ofList]
  exact spells_append hfence (spells_append (Json.spells_escaped helpText)
    (spells_append hfence (Json.spells_escaped (' ' :: emptyBlock))))

def choice (content : List Char) : Json :=
  .obj [("message", .obj [("content", .str (.ofList content))])]

/-- The answer of a provider with two choices. -/
def twoChoices : Json := .obj [("choices", .arr [choice helpText, choice emptyBlock])]

/-- An answer that is a step as well. -/
def actedChoice : Members := [("choices", .arr [choice helpText]), ("action", .str "stop")]

def stopStep : Step :=
  { action := "stop", parameters := [("choices", .arr [choice helpText])] }

theorem plan_actedChoice (d : Nat) :
    plan d (Json.render none (.obj actedChoice)) = .ok [stopStep] := by
  have hparse : Json.parse (Json.render none (.obj actedChoice)) = .ok (.obj actedChoice) :=
    Json.parse_render (by decide) none
  have hflat : ¬Flat (.obj actedChoice) := fun hflat => hflat.2 _ rfl
  have hfence : (fenced? (Json.render none (.obj actedChoice)).toList).getD [] = [] := by
    rw [Json.render, String.toList_ofList]
    decide +kernel
  have hsteps : stepsOf [.obj actedChoice] = .ok [stopStep] := by rfl
  rw [plan_own (filled_of_parse hparse hflat) (parse_candidate hparse hflat hfence) (.inr rfl)]
  show (stepsOf [.obj actedChoice] >>= _) = _
  rw [hsteps]
  rfl

/-- A reply is lost with its backticks written in two ways or with a block next to it, as the first
fences found are then those of the other block, and in an object that is a step itself. -/
theorem plan_lost :
    (SpellsDocument (frame [.member "response"] (.str (.ofList twoBlocks))) halfHiddenText ∧
      plan 0 (.ofList twoBlocks) = .ok [helpStep] ∧
      plan 1 (.ofList halfHiddenText) =
        .error (.plan "Unable to interpret agent response.")) ∧
    plan 0 (.ofList helpText) = .ok [helpStep] ∧
    (textAt chatPath twoChoices = .ofList helpText ∧
      plan 1 (Json.render none twoChoices) =
        .error (.plan "Unable to interpret agent response.")) ∧
    (textAt chatPath (.obj actedChoice) = .ofList helpText ∧
      plan 1 (Json.render none (.obj actedChoice)) = .ok [stopStep]) := by
  have hfirst : fenced? twoBlocks = some helpText := by decide +kernel
  have hsecond : fenced? halfHiddenText = some ['[', ']'] := by decide +kernel
  have hother : fenced? (Json.write none 0 twoChoices) = some ['[', ']'] := by decide +kernel
  exact ⟨⟨spells_halfHidden, (plan_helpBlock hfirst 0).2, plan_emptyList hsecond 1⟩,
    plan_helpText 0, ⟨rfl, plan_emptyList hother 1⟩, ⟨rfl, plan_actedChoice 1⟩⟩

end Example

end LinkShelf.Reply
