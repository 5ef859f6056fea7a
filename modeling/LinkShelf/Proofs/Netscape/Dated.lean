import LinkShelf.Proofs.Netscape.Written
/-!
Dates of links. The seconds that a link has for a date are the ones that are written for it again,
from the first second of year 1 to the last one of year 9999. Only the first second of 1970 is
written like a date that is not known.
-/
namespace LinkShelf.Netscape

open Html Bookmark

variable {n : Int} {v : Json} {l : Link} {b : Bookmark} {now : String}

/-- What is written for a second. -/
def stamped (n : Int) : String := if n = 0 then "" else Json.intText n

/-- The first second of 1970 counts as no date at all. -/
theorem seconds_epoch (hv : v.truthy = true) (h : instantOf? v = some ⟨0⟩) : seconds v = .ok "" := by
  obtain ⟨s, rfl⟩ : ∃ s, v = .str s := by
    cases v with
    | str s => exact ⟨s, rfl⟩
    | _ => cases h
  have htime := timestamp_time (.inr ⟨s, rfl⟩ : IsTime (.str s))
  rw [h, Option.elim_some, ← Int.zero_mul 1000000, Instant.seconds_whole (by decide),
    Int.natAbs_zero, Nat.zero_mul] at htime
  exact seconds_zero hv htime

theorem truthy_of_instant {s : String} {i : Instant} (h : instantOf? (.str s) = some i) :
    (Json.str s).truthy = true := by
  have hnone : instantOf? (.str "") = none := by decide
  simp only [Json.truthy, bne_iff_ne]
  rintro rfl
  rw [hnone] at h
  cases h

/-- The text of a second denotes that second, and this is what is written for it. -/
theorem second_kept (hlow : Instant.firstSecond ≤ n) (hhigh : n < Instant.endSecond) :
    ∃ text, timeText? (Json.intText n) = some text ∧
      timestamp (.str text) = .ok (.finite (n < 0) (n.natAbs * Binary64.oneUnits)) ∧
      seconds (.str text) = .ok (stamped n) := by
  obtain ⟨text, htext, hread⟩ := timeText?_intText hlow hhigh
  refine ⟨text, htext, ?_, ?_⟩
  · have hbound : n.natAbs ≤ 2 ^ 53 := by
      unfold Instant.firstSecond at hlow
      unfold Instant.endSecond at hhigh
      omega
    rw [timestamp_time (.inr ⟨text, rfl⟩), hread, Option.elim_some, Instant.seconds_whole hbound]
  · unfold stamped
    split
    · rename_i hzero
      subst hzero
      exact seconds_epoch (truthy_of_instant hread) hread
    · rename_i hn
      exact seconds_whole hread hn hlow hhigh

/-- The date of a link, read from one of its attributes. -/
def dateOf (now : String) (l : Link) (name : String) : Json :=
  .str ((timeText? ((l.attributes.get? name).getD "")).getD now)

/-- All that is read of a link is text. -/
theorem textual_bookmark? (h : bookmark? now l = some b) : Textual b ∧
    b.createdAt = dateOf now l "add_date" ∧ b.updatedAt = dateOf now l "last_modified" := by
  unfold bookmark? at h
  simp only at h
  split at h
  · cases h
  · cases h
    exact ⟨⟨⟨_, rfl⟩, ⟨_, rfl⟩, ⟨_, rfl⟩, ⟨_, rfl⟩, ⟨_, rfl⟩, .inr ⟨_, rfl⟩, .inr ⟨_, rfl⟩⟩, rfl,
      rfl⟩

theorem dateOf_eq {name s text : String} (h : l.attributes.get? name = some s)
    (htext : timeText? s = some text) : dateOf now l name = .str text := by
  rw [dateOf, h, Option.getD_some, htext, Option.getD_some]

theorem intercalate_start (sep x : String) (xs : List String) :
    ∃ rest, sep.intercalate (x :: xs) = x ++ rest := by
  cases xs with
  | nil => exact ⟨"", by simp⟩
  | cons y ys =>
    refine ⟨sep ++ sep.intercalate (y :: ys), ?_⟩
    rw [String.intercalate_cons_cons, String.append_assoc]

/-- A line starts with the address and the two dates. Neither the address nor the first date can
end early. -/
theorem line_start (h : Textual b) : ∃ href added modified rest,
    line b = .ok ("<DT><A HREF=\"" ++ href ++ "\" ADD_DATE=\"" ++ added ++
      "\" LAST_MODIFIED=\"" ++ modified ++ "\"" ++ rest) ∧
    '"' ∉ href.toList ∧ '"' ∉ added.toList ∧
    seconds b.createdAt = .ok added ∧ seconds b.updatedAt = .ok modified := by
  obtain ⟨rest, hrest⟩ := intercalate_start " "
    (attributePair ("LAST_MODIFIED", stamp b.updatedAt)) ((given "ICON" (textOr b.favicon) ++
      (given "DESCRIPTION" (textOr b.description) ++
        given "TAGS" (",".intercalate b.tags))).map attributePair)
  have hquote (s : String) : '"' ∉ (escape s).toList := by
    rw [escape, String.toList_ofList]
    exact quote_not_mem_escapeChars _
  have hpairs : " ".intercalate ((attributesOf b).map attributePair) =
      attributePair ("HREF", textOr b.url) ++ " " ++
        (attributePair ("ADD_DATE", stamp b.createdAt) ++ " " ++
          (attributePair ("LAST_MODIFIED", stamp b.updatedAt) ++ rest)) := by
    rw [attributesOf, fields, List.map_cons, List.map_cons, List.map_cons,
      String.intercalate_cons_cons, String.intercalate_cons_cons, hrest]
  refine ⟨escape (textOr b.url), escape (stamp b.createdAt), escape (stamp b.updatedAt),
    rest ++ ">" ++ (escape (entry b).title ++ "</A>"), ?_, hquote _, hquote _,
    seconds_stamp h.createdAt, seconds_stamp h.updatedAt⟩
  rw [line_eq h, lineText, linkStart, hpairs]
  refine congrArg Except.ok (String.toList_inj.mp ?_)
  simp [attributePair, pair]

/-- A second of the years 1 to 9999 has a text that denotes it, and a link that has the second for
one of its dates is written with the second for that date again, unless it is the first of 1970. -/
theorem date_written_again (hlow : Instant.firstSecond ≤ n) (hhigh : n < Instant.endSecond) :
    ∃ text, timeText? (Json.intText n) = some text ∧
      timestamp (.str text) = .ok (.finite (n < 0) (n.natAbs * Binary64.oneUnits)) ∧
      seconds (.str text) = .ok (stamped n) ∧
      ∀ now l b, bookmark? now l = some b →
        (l.attributes.get? "add_date" = some (Json.intText n) → b.createdAt = .str text ∧
          ∃ href rest, line b = .ok ("<DT><A HREF=\"" ++ href ++ "\" ADD_DATE=\"" ++ stamped n ++
            "\" LAST_MODIFIED=\"" ++ rest) ∧ '"' ∉ href.toList) ∧
        (l.attributes.get? "last_modified" = some (Json.intText n) → b.updatedAt = .str text ∧
          ∃ href added rest, line b = .ok ("<DT><A HREF=\"" ++ href ++ "\" ADD_DATE=\"" ++ added ++
            "\" LAST_MODIFIED=\"" ++ stamped n ++ "\"" ++ rest) ∧
              '"' ∉ href.toList ∧ '"' ∉ added.toList) := by
  obtain ⟨text, htext, htime, hseconds⟩ := second_kept hlow hhigh
  refine ⟨text, htext, htime, hseconds, fun now l b hb => ?_⟩
  obtain ⟨htextual, hcreated, hupdated⟩ := textual_bookmark? hb
  obtain ⟨href, added, modified, rest, hline, hhref, hquote, hadded, hmodified⟩ :=
    line_start htextual
  constructor
  · intro hdate
    rw [dateOf_eq hdate htext] at hcreated
    rw [hcreated, hseconds] at hadded
    cases hadded
    refine ⟨hcreated, href, modified ++ "\"" ++ rest, ?_, hhref⟩
    simp only [hline, String.append_assoc]
  · intro hdate
    rw [dateOf_eq hdate htext] at hupdated
    rw [hupdated, hseconds] at hmodified
    cases hmodified
    exact ⟨hupdated, href, added, rest, hline, hhref, hquote⟩

section Example

/-- A link of a leap day and of the last second before 1970. -/
def leapLink : Link :=
  { attributes := [("href", "u"), ("add_date", "951782400"), ("last_modified", "-1")]
    text := "t", folder := "" }

def epochLink : Link :=
  { attributes := [("href", "u"), ("add_date", "0"), ("last_modified", "0")]
    text := "t", folder := "" }

theorem leapLink_written_again :
    (Instant.firstSecond ≤ 951782400 ∧ (951782400 : Int) < Instant.endSecond) ∧
    ∃ b, bookmark? "" leapLink = some b ∧
      leapLink.attributes.get? "add_date" = some (Json.intText 951782400) ∧
      ∃ href rest, line b = .ok ("<DT><A HREF=\"" ++ href ++ "\" ADD_DATE=\"" ++ "951782400" ++
        "\" LAST_MODIFIED=\"" ++ rest) ∧ '"' ∉ href.toList := by
  have hlow : Instant.firstSecond ≤ 951782400 := by decide
  have hhigh : (951782400 : Int) < Instant.endSecond := by decide
  have hdate : leapLink.attributes.get? "add_date" = some (Json.intText 951782400) := by decide
  obtain ⟨text, -, -, -, hwritten⟩ := date_written_again hlow hhigh
  obtain ⟨b, hb⟩ : ∃ b, bookmark? "" leapLink = some b := ⟨_, rfl⟩
  obtain ⟨-, href, rest, hline, hhref⟩ := (hwritten "" leapLink b hb).1 hdate
  exact ⟨⟨hlow, hhigh⟩, b, hb, hdate, href, rest, hline, hhref⟩

/-- The first second of 1970 is read as a date, and written as none. -/
theorem epoch_lost :
    timeText? (Json.intText 0) = some "1970-01-01T00:00:00+00:00" ∧
    ∃ b, bookmark? "" epochLink = some b ∧ b.createdAt = .str "1970-01-01T00:00:00+00:00" ∧
      line b = .ok "<DT><A HREF=\"u\" ADD_DATE=\"\" LAST_MODIFIED=\"\">t</A>" := by
  have hread : instantOf? (.str "1970-01-01T00:00:00+00:00") = some ⟨0⟩ := by decide +kernel
  have hstamp : stamp (.str "1970-01-01T00:00:00+00:00") = "" := by
    rw [stamp, seconds_epoch (truthy_of_instant hread) hread]
    rfl
  obtain ⟨b, hb⟩ : ∃ b, bookmark? "" epochLink = some b := ⟨_, rfl⟩
  obtain ⟨htextual, hcreated, hupdated⟩ := textual_bookmark? hb
  have htime : timeText? (Json.intText 0) = some "1970-01-01T00:00:00+00:00" := by decide +kernel
  rw [dateOf_eq rfl htime] at hcreated hupdated
  refine ⟨htime, b, hb, hcreated, ?_⟩
  cases hb
  rw [line_eq htextual, lineText, linkStart, attributesOf, fields, hcreated, hupdated, hstamp]
  rfl

end Example

end LinkShelf.Netscape
