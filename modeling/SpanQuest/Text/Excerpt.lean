/-
  Excerpts: a long text in one line of bounded length.

  The words of the text, one space apart, are the excerpt if they fit the
  limit; else they are cut three characters short of it and three full stops
  follow.  A limit below three counts from the end of the line: the cut then
  drops as many characters as the limit is short of three.
-/
import SpanQuest.Front
import SpanQuest.Text.Blank

namespace SpanQuest.Text

/-- The words of a text, one space apart. -/
def flatten (cs : List Char) : List Char :=
  (wordsOf cs).intersperse [' '] |>.flatten

/-- The excerpt of a text for a limit. -/
def excerptChars (limit : Int) (cs : List Char) : List Char :=
  let line := flatten cs
  if (line.length : Int) ≤ limit then line
  else front (limit - 3) line ++ ['.', '.', '.']

/-- How long an excerpt is where nothing else is said. -/
def excerptLimit : Int := 200

/-- The excerpt of a text for a limit. -/
def excerpt (s : String) (limit : Int) : String :=
  String.ofList (excerptChars limit s.toList)

/-- An excerpt fits a limit of three or more. -/
theorem length_excerptChars_le {limit : Int} (h : 3 ≤ limit) (cs : List Char) :
    ((excerptChars limit cs).length : Int) ≤ limit := by
  unfold excerptChars
  dsimp only
  split
  · assumption
  · next hlong =>
    have h0 : 0 ≤ limit - 3 := by omega
    simp only [front, h0, if_true, List.length_append, List.length_take, List.length_cons,
      List.length_nil]
    omega

end SpanQuest.Text
