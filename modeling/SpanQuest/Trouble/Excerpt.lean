/-
  Excerpts within limits of any kind.

  The line of a text is its own excerpt wherever it fits the limit, so that a
  double will do as a limit there; a longer line is cut at an integer only.
-/
import SpanQuest.Text.Excerpt
import SpanQuest.Trouble.Fault

namespace SpanQuest.Text

/-- The excerpt of a text for a limit of any kind. -/
def excerptWithin (limit : Json) (s : String) : Except Fault String :=
  match limit with
  | .int n => .ok (excerpt s n)
  | .bool b => .ok (excerpt s (if b then 1 else 0))
  | .double x =>
    let line := flatten s.toList
    if x.atLeast line.length then .ok (String.ofList line) else .error .badLimit
  | v => .error (.notComparable v.kindName)

end SpanQuest.Text
