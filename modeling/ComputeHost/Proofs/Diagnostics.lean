/-
**What a report writes.**

A message is split into lines, each gets the stamp in front, and they are joined to the text of the
report. The events of the report are the lines of that text: it is split once more. A line that ends
with a carriage return loses it there when a line feed follows, and no other line changes.

* `lineChars_intercalate` — splitting a text that was joined from lines.
* `intercalate_shortened_inj` — the text tells whether a line lost something.
* `report_events` — the text and the events of every report.
* `not_every_line_whole` — a report whose event is not the stamped line.
-/

import ComputeHost.Diagnostics
import Mathlib.Data.List.Induction

namespace ComputeHost

namespace Text

variable {line chars : List Char} {lines : List (List Char)}

/-! ### The end of a line -/

/-- The line without one carriage return at its end. -/
def withoutReturn (line : List Char) : List Char :=
  if line.getLast? = some '\r' then line.dropLast else line

theorem endLine_reverse (line : List Char) : endLine line.reverse = withoutReturn line := by
  unfold withoutReturn
  cases line using List.reverseRecOn with
  | nil => rfl
  | append_singleton front last =>
    rw [List.reverse_concat, List.getLast?_concat, List.dropLast_concat]
    by_cases carriage : last = '\r'
    · subst carriage
      rw [if_pos rfl, endLine, List.reverse_reverse]
    · rw [if_neg (by simpa using carriage), endLine.eq_2 _ (by simpa using carriage)]
      simp

theorem withoutReturn_eq_self_iff : withoutReturn line = line ↔ line.getLast? ≠ some '\r' := by
  unfold withoutReturn
  split
  · rename_i carriage
    have shorter : line.dropLast ≠ line := by
      intro same
      have length := congrArg List.length same
      rw [List.length_dropLast] at length
      cases line with
      | nil => cases carriage
      | cons => simp at length
    exact iff_of_false shorter (by simp [carriage])
  · rename_i plain
    exact iff_of_true rfl plain

/-! ### Lines of a text -/

theorem not_mem_endLine (plain : '\n' ∉ line) : '\n' ∉ endLine line := by
  unfold endLine
  split
  · exact fun inside => plain (List.mem_cons_of_mem _ (List.mem_reverse.mp inside))
  · exact fun inside => plain (List.mem_reverse.mp inside)

theorem not_mem_linesFrom (plain : '\n' ∉ line) :
    ∀ found ∈ linesFrom line chars, '\n' ∉ found := by
  fun_induction linesFrom line chars with
  | case1 line => exact List.forall_mem_nil _
  | case2 line =>
    exact List.forall_mem_singleton.mpr fun inside => plain (List.mem_reverse.mp inside)
  | case3 line rest ih =>
    exact List.forall_mem_cons.mpr ⟨not_mem_endLine plain, ih List.not_mem_nil⟩
  | case4 line c rest other ih =>
    refine ih fun inside => ?_
    rcases List.mem_cons.mp inside with same | inside
    · exact other same.symm
    · exact plain inside

/-- A line has no line feed. -/
theorem not_mem_lineChars : ∀ found ∈ lineChars chars, '\n' ∉ found :=
  not_mem_linesFrom List.not_mem_nil

/-- The lines without the carriage return at the end of each, but for the last one. -/
def shortened (lines : List (List Char)) : List (List Char) :=
  lines.dropLast.map withoutReturn ++ lines.getLast?.toList

theorem shortened_cons (line next : List Char) (rest : List (List Char)) :
    shortened (line :: next :: rest) = withoutReturn line :: shortened (next :: rest) := by
  simp [shortened, List.getLast?_cons_cons]

theorem length_shortened (lines : List (List Char)) : (shortened lines).length = lines.length := by
  cases lines using List.reverseRecOn <;> simp [shortened]

theorem intercalate_feed (line next : List Char) (rest : List (List Char)) :
    ['\n'].intercalate (line :: next :: rest) =
      line ++ '\n' :: ['\n'].intercalate (next :: rest) := by
  simp [List.intercalate, List.intersperse]

/-- **Splitting a text that was joined from lines** gives them back, without the carriage returns in
front of line feeds. -/
theorem lineChars_intercalate (plain : ∀ line ∈ lines, '\n' ∉ line)
    (full : ∀ line ∈ lines, line ≠ []) :
    lineChars (['\n'].intercalate lines) = shortened lines := by
  induction lines with
  | nil => rfl
  | cons line rest ih =>
    obtain ⟨here, plain⟩ := List.forall_mem_cons.mp plain
    obtain ⟨some_char, full⟩ := List.forall_mem_cons.mp full
    cases rest with
    | nil =>
      have alone : ['\n'].intercalate [line] = line := by simp [List.intercalate]
      rw [alone, lineChars_of_no_feed here, if_neg (by simpa using some_char)]
      rfl
    | cons next rest =>
      rw [intercalate_feed, lineChars_feed _ here, endLine_reverse, ih plain full, shortened_cons]

/-- Nothing is lost from lines without a carriage return at the end, the last line aside. -/
theorem shortened_eq_self_iff :
    shortened lines = lines ↔ ∀ line ∈ lines.dropLast, line.getLast? ≠ some '\r' := by
  induction lines with
  | nil => simp [shortened]
  | cons line rest ih =>
    cases rest with
    | nil => simp [shortened]
    | cons next rest =>
      rw [shortened_cons, List.dropLast_cons_cons, List.forall_mem_cons, List.cons.injEq,
        withoutReturn_eq_self_iff, ih]

/-- **The text tells whether a line lost something.** Where one did, a line feed stands in place of
its carriage return. -/
theorem intercalate_shortened_inj
    (same : ['\n'].intercalate (shortened lines) = ['\n'].intercalate lines) :
    shortened lines = lines := by
  induction lines with
  | nil => rfl
  | cons line rest ih =>
    cases rest with
    | nil => rfl
    | cons next rest =>
      obtain ⟨first, others, split⟩ : ∃ first others, shortened (next :: rest) = first :: others :=
        List.exists_cons_of_ne_nil (by simp [shortened])
      rw [shortened_cons, split, intercalate_feed, intercalate_feed] at same
      by_cases carriage : line.getLast? = some '\r'
      · obtain ⟨front, rfl⟩ := List.getLast?_eq_some_iff.mp carriage
        rw [withoutReturn, if_pos carriage, List.dropLast_concat, List.append_assoc] at same
        have heads := List.append_cancel_left same
        rw [List.singleton_append, List.cons.injEq] at heads
        exact absurd heads.1 (by decide)
      · have whole := withoutReturn_eq_self_iff.mpr carriage
        rw [whole] at same
        have rest_same := (List.cons.inj (List.append_cancel_left same)).2
        rw [shortened_cons, whole, ih (by rw [split]; exact rest_same)]

end Text

namespace Diagnostics

open Text

variable {stamp message : String}

/-! ### Stamped lines -/

/-- The lines that a report is to write: those of the message with the stamp in front of each, or
the stamp alone. -/
def stampedLines (stamp message : String) : List String :=
  match lines message with
  | [] => [stamp]
  | lines => lines.map (stamp ++ ·)

/-- The line ends with a carriage return. -/
def EndsInReturn (line : String) : Prop := line.toList.getLast? = some '\r'

/-- The line without one carriage return at its end. -/
def cropped (line : String) : String := String.ofList (withoutReturn line.toList)

/-- Whatever holds of the stamp in front of a line without line feeds, and of the stamp, holds of
the stamped lines. -/
theorem forall_mem_stampedLines {holds : String → Prop} (alone : holds stamp)
    (behind : ∀ line : String, '\n' ∉ line.toList → holds (stamp ++ line)) :
    ∀ line ∈ stampedLines stamp message, holds line := by
  have plain : ∀ line ∈ lines message, '\n' ∉ line.toList := by
    intro line among
    obtain ⟨chars, found, rfl⟩ := List.mem_map.mp among
    rw [String.toList_ofList]
    exact not_mem_lineChars chars found
  unfold stampedLines
  cases found : lines message with
  | nil => exact List.forall_mem_singleton.mpr alone
  | cons first rest =>
    intro line among
    obtain ⟨inner, member, rfl⟩ := List.mem_map.mp among
    exact behind inner (plain inner (found ▸ member))

/-- The text of a report is its stamped lines. -/
theorem stamped_eq (visible : stamp ≠ "") :
    stamped stamp message = "\n".intercalate (stampedLines stamp message) := by
  unfold stamped stampedLines
  cases lines message with
  | nil => simp
  | cons first rest =>
    have filled : "\n".intercalate ((first :: rest).map (stamp ++ ·)) ≠ "" := by
      rw [List.map_cons, String.intercalate_cons_append]
      exact fun empty => visible (String.append_eq_empty_iff.mp empty).1
    exact if_neg (by rwa [String.isEmpty_iff])

/-- A stamped line ends as the line behind the stamp. -/
theorem endsInReturn_append (plain : '\r' ∉ stamp.toList) (line : String) :
    EndsInReturn (stamp ++ line) ↔ EndsInReturn line := by
  unfold EndsInReturn
  rw [String.toList_append, List.getLast?_append]
  cases line.toList.getLast? with
  | some last => rfl
  | none =>
    rw [Option.none_or]
    exact iff_of_false (fun last => plain (List.mem_of_getLast? last)) nofun

theorem forall_stampedLines_dropLast (plain : '\r' ∉ stamp.toList) :
    (∀ line ∈ (stampedLines stamp message).dropLast, ¬ EndsInReturn line) ↔
      ∀ line ∈ (lines message).dropLast, ¬ EndsInReturn line := by
  unfold stampedLines
  cases lines message with
  | nil => simp
  | cons first rest =>
    simp only [← List.map_dropLast, List.forall_mem_map, endsInReturn_append plain]

/-! ### The events of a report -/

/-- The events of a report are its stamped lines, without the carriage return at the end of each,
but for the last one. -/
theorem events_report (visible : stamp ≠ "") (feedless : '\n' ∉ stamp.toList) :
    (report stamp message).events =
      (shortened ((stampedLines stamp message).map String.toList)).map String.ofList := by
  have plain : ∀ line ∈ (stampedLines stamp message).map String.toList, '\n' ∉ line :=
    List.forall_mem_map.mpr (forall_mem_stampedLines feedless fun line clear inside =>
      (List.mem_append.mp (String.toList_append ▸ inside)).elim feedless clear)
  have full : ∀ line ∈ (stampedLines stamp message).map String.toList, line ≠ [] :=
    List.forall_mem_map.mpr (forall_mem_stampedLines (by simpa using visible)
      fun line _ => by simp [visible])
  rw [report, stamped_eq visible, lines, String.toList_intercalate]
  exact congrArg (List.map String.ofList) (lineChars_intercalate plain full)

/-- No line but the last one ends with a carriage return. -/
def Clean (message : String) : Prop := ∀ line ∈ (lines message).dropLast, ¬ EndsInReturn line

/-- The stamped lines stay as they are where the message is clean. -/
theorem shortened_stampedLines_iff (returnless : '\r' ∉ stamp.toList) :
    shortened ((stampedLines stamp message).map String.toList) =
      (stampedLines stamp message).map String.toList ↔ Clean message := by
  rw [shortened_eq_self_iff, ← List.map_dropLast, List.forall_mem_map]
  exact forall_stampedLines_dropLast returnless

theorem map_ofList_eq_iff {chars : List (List Char)} {lines : List String} :
    chars.map String.ofList = lines ↔ chars = lines.map String.toList := by
  constructor
  · rintro rfl
    simp
  · rintro rfl
    simp

/-- A line without its carriage return is the line cropped. -/
theorem map_shortened (lines : List String) :
    (shortened (lines.map String.toList)).map String.ofList =
      lines.dropLast.map cropped ++ lines.getLast?.toList := by
  unfold shortened
  rw [← List.map_dropLast, List.getLast?_map, List.map_append, List.map_map, List.map_map]
  congr 1
  cases lines.getLast? <;> simp

/-- **What a report writes.** Its text is the lines of the message with the stamp in front of each,
or the stamp alone, and there is one event for each of these. The event is the stamped line, but
that a carriage return at the end of a line in front of another is lost. So the events are the
stamped lines, and the text is the events joined, exactly where only the last line of the message
may end with a carriage return. -/
theorem report_events (visible : stamp ≠ "") (feedless : '\n' ∉ stamp.toList)
    (returnless : '\r' ∉ stamp.toList) :
    (report stamp message).text = "\n".intercalate (stampedLines stamp message) ∧
    (report stamp message).events.length = (stampedLines stamp message).length ∧
    (report stamp message).events =
      (stampedLines stamp message).dropLast.map cropped ++
        (stampedLines stamp message).getLast?.toList ∧
    ((report stamp message).events = stampedLines stamp message ↔ Clean message) ∧
    ((report stamp message).text = "\n".intercalate (report stamp message).events ↔
      Clean message) := by
  have text : (report stamp message).text = _ := stamped_eq visible
  rw [text, events_report visible feedless, ← shortened_stampedLines_iff returnless]
  refine ⟨rfl, ?_, map_shortened _, map_ofList_eq_iff, fun joined => ?_, fun same => ?_⟩
  · rw [List.length_map, length_shortened, List.length_map]
  · refine intercalate_shortened_inj ?_
    have chars := congrArg String.toList joined
    rw [String.toList_intercalate, String.toList_intercalate, ← map_ofList_eq_iff.mp rfl] at chars
    exact chars.symm
  · rw [map_ofList_eq_iff.mpr same]

/-- The first line has a carriage return in the text and none in its event; the last one keeps its
own. So the text is not the events joined. -/
theorem report_events_returns :
    (report "> " "a\r\r\nb\r").text = "> a\r\n> b\r" ∧
    (report "> " "a\r\r\nb\r").events = ["> a", "> b\r"] ∧
    (report "> " "a\r\r\nb\r").text ≠
      "\n".intercalate (report "> " "a\r\r\nb\r").events := by
  have given : stampedLines "> " "a\r\r\nb\r" = ["> a\r", "> b\r"] := by decide +kernel
  have ends : "a\r" ∈ (lines "a\r\r\nb\r").dropLast := by decide +kernel
  have unclean : ¬ Clean "a\r\r\nb\r" := fun clean =>
    clean "a\r" ends (by decide : ("a\r" : String).toList.getLast? = some '\r')
  have events_are : ["> a\r", "> b\r"].dropLast.map cropped ++ ["> a\r", "> b\r"].getLast?.toList =
      ["> a", "> b\r"] := by decide +kernel
  have joined : "\n".intercalate ["> a\r", "> b\r"] = "> a\r\n> b\r" := by decide +kernel
  obtain ⟨text, -, events, -, same⟩ := @report_events "> " "a\r\r\nb\r" (by decide) (by decide)
    (by decide)
  rw [given] at text events
  exact ⟨text.trans joined, events.trans events_are, fun as_joined => unclean (same.mp as_joined)⟩

/-- **Not every event is the stamped line**, and the text that a report gives is not always what it
wrote. -/
theorem not_every_line_whole :
    ¬ ∀ stamp message : String, stamp ≠ "" → '\n' ∉ stamp.toList → '\r' ∉ stamp.toList →
      (report stamp message).events = stampedLines stamp message ∧
      (report stamp message).text = "\n".intercalate (report stamp message).events := by
  intro claim
  have given : stampedLines "> " "a\r\r\nb" = ["> a\r", "> b"] := by decide +kernel
  have events : (report "> " "a\r\r\nb").events = ["> a", "> b"] := by decide +kernel
  have same := (claim "> " "a\r\r\nb" (by decide) (by decide) (by decide)).1
  rw [given, events] at same
  exact absurd same (by decide)

end Diagnostics

end ComputeHost
