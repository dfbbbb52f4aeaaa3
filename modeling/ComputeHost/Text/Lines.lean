/-
**Lines of a text.**

A line ends at a line feed, and a carriage return right before that line feed belongs to the end
of the line. The end of the last line may be missing; no empty line follows the last end.

* `lineChars_feed` — the first line ends at the first line feed and the rest follows.
* `lineChars_of_no_feed` — a text without line feeds is one line, carriage returns included.
-/

namespace ComputeHost.Text

/-- A finished line, given from its last character back, without the carriage return at its end. -/
def endLine : List Char → List Char
  | '\r' :: line => line.reverse
  | line => line.reverse

/-- The lines of `line.reverse ++ chars`, where `line` has no line feed. -/
def linesFrom (line : List Char) : List Char → List (List Char)
  | [] => if line.isEmpty then [] else [line.reverse]
  | '\n' :: rest => endLine line :: linesFrom [] rest
  | c :: rest => linesFrom (c :: line) rest

/-- The lines of a list of characters. -/
def lineChars (chars : List Char) : List (List Char) := linesFrom [] chars

/-- The lines of a text. -/
def lines (text : String) : List String := (lineChars text.toList).map String.ofList

theorem linesFrom_of_no_feed {line chars : List Char} (plain : '\n' ∉ chars) :
    linesFrom line chars =
      if (line.reverse ++ chars).isEmpty then [] else [line.reverse ++ chars] := by
  induction chars generalizing line with
  | nil => cases line <;> simp [linesFrom]
  | cons c rest ih =>
    have other : c ≠ '\n' := fun same => plain (by simp [same])
    have tail : '\n' ∉ rest := fun inside => plain (List.mem_cons_of_mem _ inside)
    rw [linesFrom.eq_3 _ _ _ other, ih tail]
    simp

theorem linesFrom_feed {line chars : List Char} (rest : List Char) (plain : '\n' ∉ chars) :
    linesFrom line (chars ++ '\n' :: rest) =
      endLine (chars.reverse ++ line) :: linesFrom [] rest := by
  induction chars generalizing line with
  | nil => simp [linesFrom]
  | cons c before ih =>
    have other : c ≠ '\n' := fun same => plain (by simp [same])
    have tail : '\n' ∉ before := fun inside => plain (List.mem_cons_of_mem _ inside)
    rw [List.cons_append, linesFrom.eq_3 _ _ _ other, ih tail]
    simp

theorem lineChars_of_no_feed {chars : List Char} (plain : '\n' ∉ chars) :
    lineChars chars = if chars.isEmpty then [] else [chars] := by
  simpa [lineChars] using @linesFrom_of_no_feed [] chars plain

theorem lineChars_feed {chars : List Char} (rest : List Char) (plain : '\n' ∉ chars) :
    lineChars (chars ++ '\n' :: rest) = endLine chars.reverse :: lineChars rest := by
  simpa [lineChars] using @linesFrom_feed [] chars rest plain

end ComputeHost.Text
