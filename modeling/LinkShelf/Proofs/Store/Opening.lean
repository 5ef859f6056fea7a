import LinkShelf.Proofs.Bookmark.Legible
import LinkShelf.Proofs.Store.Restart
/-!
What comes of a text that should be a list of records, when it is imported and when a shelf is
opened on it. Either way what is no object is passed over and every object gives a bookmark, and
the first record that cannot be read decides.
-/
namespace LinkShelf

variable {vs : List Json} {bs : List Bookmark} {text content : String}

def record? : Json → Option Members
  | .obj ms => some ms
  | _ => none

/-- The objects among values. -/
def recordsOf (vs : List Json) : List Members := vs.filterMap record?

/-- What goes wrong with the first record that cannot be read. -/
def firstFault? (vs : List Json) : Option Fault :=
  (recordsOf vs).findSome? Bookmark.recordFault?

theorem firstFault?_head {ms : Members} {f : Fault} (h : Bookmark.recordFault? ms = some f) :
    firstFault? (.obj ms :: vs) = some f := by
  rw [firstFault?, recordsOf, List.filterMap_cons_some (show record? (.obj ms) = some ms from rfl),
    List.findSome?_cons, h]

/-- One bookmark for each object among values, read from it. -/
def ReadFrom (vs : List Json) (bs : List Bookmark) : Prop :=
  List.Forall₂ (fun ms b => Bookmark.ofRecord ms = .ok b) (recordsOf vs) bs

namespace Exchange

/-- Any value is a record or passed over. -/
theorem ofItems_cons (v : Json) (vs : List Json) :
    record? v = none ∧ ofItems (v :: vs) = ofItems vs ∨
    ∃ ms, record? v = some ms ∧ ofItems (v :: vs) = (do
      let b ← Bookmark.ofRecord ms
      pure (b :: (← ofItems vs))) := by
  cases v with
  | obj ms => exact .inr ⟨ms, rfl, rfl⟩
  | _ => exact .inl ⟨rfl, rfl⟩

theorem faultOf_ofItems (vs : List Json) : faultOf (ofItems vs) = firstFault? vs := by
  induction vs with
  | nil => rfl
  | cons v vs ih =>
    rcases ofItems_cons v vs with ⟨hnone, hcons⟩ | ⟨ms, hsome, hcons⟩
    · rw [hcons, ih, firstFault?, firstFault?, recordsOf, recordsOf, List.filterMap_cons_none hnone]
    · have hrest : ∀ b, faultOf (do pure (b :: (← ofItems vs))) = firstFault? vs := by
        intro b
        rw [faultOf_bind_ok fun _ => rfl, ih]
      rw [hcons, faultOf_bind fun b _ => hrest b, Bookmark.faultOf_ofRecord, firstFault?,
        firstFault?, recordsOf, recordsOf, List.filterMap_cons_some hsome, List.findSome?_cons]
      cases Bookmark.recordFault? ms <;> rfl

theorem ofItems_readFrom (h : ofItems vs = .ok bs) : ReadFrom vs bs := by
  induction vs generalizing bs with
  | nil =>
    cases h
    exact .nil
  | cons v vs ih =>
    rcases ofItems_cons v vs with ⟨hnone, hcons⟩ | ⟨ms, hsome, hcons⟩
    · rw [ReadFrom, recordsOf, List.filterMap_cons_none hnone]
      exact ih (hcons.symm.trans h)
    · rw [hcons] at h
      obtain ⟨b, hb, h⟩ := bind_eq_ok.mp h
      obtain ⟨cs, hcs, h⟩ := bind_eq_ok.mp h
      cases h
      rw [ReadFrom, recordsOf, List.filterMap_cons_some hsome]
      exact .cons hb (ih hcs)

/-- What an import of a text comes to. -/
structure Imports (text : String) (r : Except Fault (List Bookmark)) : Prop where
  read : ∀ vs, Json.parse text = .ok (.arr vs) → firstFault? vs = none →
    ∃ bs, r = .ok bs ∧ ReadFrom vs bs
  failed : ∀ vs f, Json.parse text = .ok (.arr vs) → firstFault? vs = some f → r = .error f
  refused : (∀ vs, Json.parse text ≠ .ok (.arr vs)) → ∃ m, r = .error (.exchange m)

theorem ofItems_ok (h : firstFault? vs = none) : ∃ bs, ofItems vs = .ok bs ∧ ReadFrom vs bs := by
  obtain ⟨bs, hbs⟩ := faultOf_eq_none.mp ((faultOf_ofItems vs).trans h)
  exact ⟨bs, hbs, ofItems_readFrom hbs⟩

theorem ofItems_error {f : Fault} (h : firstFault? vs = some f) : ofItems vs = .error f :=
  faultOf_eq_some.mp ((faultOf_ofItems vs).trans h)

theorem ofJsonText_arr (h : Json.parse text = .ok (.arr vs)) : ofJsonText text = ofItems vs := by
  rw [ofJsonText, h]

theorem imports_ofJsonText (text : String) : Imports text (ofJsonText text) := by
  refine ⟨fun vs hvs hnone => ?_, fun vs f hvs hf => ?_, fun hno => ?_⟩
  · rw [ofJsonText_arr hvs]
    exact ofItems_ok hnone
  · rw [ofJsonText_arr hvs]
    exact ofItems_error hf
  · unfold ofJsonText
    split
    · exact ⟨_, rfl⟩
    · rename_i hvs
      exact (hno _ hvs).elim
    · exact ⟨_, rfl⟩

end Exchange

namespace Shelf

open LinkShelf.Act

variable {s : Shelf} {path : Path} {indent : Json.Indent}

/-- What a shelf comes to that is opened on a text: the bookmarks of its records, under ids that
each has or is given. Whatever else happens, the shelf stays as it was. -/
structure Opening (s : Shelf) (text : String) (r : Except Fault Unit × Shelf) : Prop where
  read : ∀ vs, Json.parse text = .ok (.arr vs) → firstFault? vs = none →
    ∃ bs cs m, ReadFrom vs bs ∧ Identified s.supply [] s.drawn bs cs m ∧
      r = (.ok (), { s with items := numbered cs, drawn := m })
  failed : ∀ vs f, Json.parse text = .ok (.arr vs) → firstFault? vs = some f → r = (.error f, s)
  refused : (∀ vs, Json.parse text ≠ .ok (.arr vs)) →
    ∃ message cause, r = (.error (.store .read message (some s.name) cause), s)

theorem run_load (hm : s.medium = .file path indent) (hcalm : s.outages .load = []) :
    run load s = match s.stored path with
      | .ok bs => run (do place (← identify [] bs)) s
      | .error f => (.error f, s) := by
  rw [load, run_meeting _ hcalm]
  simp only [run, run_bind, run_get, hm]
  rw [run_lift]
  cases s.stored path <;> rfl

theorem run_place_identify (bs : List Bookmark) (s : Shelf) :
    ∃ cs m, Identified s.supply [] s.drawn bs cs m ∧
      run (do place (← identify [] bs)) s =
        (.ok (), { s with items := numbered cs, drawn := m }) := by
  obtain ⟨cs, m, hrun, hcs⟩ := identify_run bs [] s
  refine ⟨cs, m, hcs, ?_⟩
  rw [run, run_bind, ← run, hrun]
  rfl

theorem stored_file (hf : s.disk.find path = .ok (.file content)) :
    s.stored path = match Json.parse (.ofList (Disk.unifyLines content.toList)) with
      | .ok (.arr vs) => Exchange.ofItems vs
      | .ok _ => .error (s.fault .read ("Expected a JSON array of bookmarks in " ++ path.text) none)
      | .error e => .error (s.fault .read ("Failed to read " ++ path.text)
          (some (.foreign .badValue "JSONDecodeError" e.message))) := by
  have hexists : s.disk.exists? path = .ok true := by
    rw [Disk.exists?, hf]
  have htext : s.disk.readText path = .ok (.ofList (Disk.unifyLines content.toList)) := by
    rw [Disk.readText, hf]
  rw [stored, hexists]
  show (s.readItems path >>= Exchange.ofItems) = _
  rw [readItems, htext]
  dsimp only
  cases Json.parse (.ofList (Disk.unifyLines content.toList)) with
  | error e => rfl
  | ok v => cases v <;> rfl

theorem opening_load (hm : s.medium = .file path indent) (hcalm : s.outages .load = [])
    (hf : s.disk.find path = .ok (.file content)) :
    Opening s (.ofList (Disk.unifyLines content.toList)) (run load s) := by
  rw [run_load hm hcalm, stored_file hf]
  generalize String.ofList (Disk.unifyLines content.toList) = text
  refine ⟨fun vs hvs hnone => ?_, fun vs f hvs hfault => ?_, fun hno => ?_⟩
  · obtain ⟨bs, hbs, hread⟩ := Exchange.ofItems_ok hnone
    obtain ⟨cs, m, hcs, hrun⟩ := run_place_identify bs s
    rw [hvs]
    simp only [hbs]
    exact ⟨bs, cs, m, hread, hcs, hrun⟩
  · rw [hvs]
    simp only [Exchange.ofItems_error hfault]
  · cases hparse : Json.parse text with
    | error e => exact ⟨_, _, rfl⟩
    | ok v =>
      cases v with
      | arr vs => exact (hno vs hparse).elim
      | _ => exact ⟨_, _, rfl⟩

section Example

/-- Records with values of all kinds in their fields. -/
def odd : List Json :=
  [.obj [("url", .int 1), ("tags", .obj [("a", .null)]), ("rating", .arr [.null])], .int 5,
    .obj [("id", .bool true), ("urlStatus", .arr [])]]

def oddText : String := Json.render none (.arr odd)

/-- A shelf whose file holds these records. -/
def oddShelf : Shelf :=
  { name := "json", medium := .file { parts := ["b.json"] } (some 2), supply := unary,
    disk := { entries := [(["b.json"], .file oddText)] } }

theorem oddShelf_find : oddShelf.disk.find { parts := ["b.json"] } = .ok (.file oddText) := by
  unfold oddShelf
  generalize oddText = text
  rfl

/-- A record whose tags are a number in front of one that can be read. -/
def unlisted : List Json :=
  [.obj [("url", .str "u"), ("tags", .int 5)], .obj [("url", .str "v")]]

/-- A record whose rating is infinite in front of one that can be read. -/
def boundless : List Json :=
  [.obj [("url", .str "u"), ("rating", .str "inf")], .obj [("url", .str "v")]]

end Example

end Shelf

end LinkShelf
