/-
  Control sequences of a terminal.

  A sequence begins with the escape character and a square bracket, goes on with
  digits, semicolons and question marks, and ends with a letter.  A page that
  does not go to a terminal is printed without them.
-/
namespace SpanQuest.Text

/-- A character inside a sequence. -/
def isParameter (c : Char) : Bool :=
  c.isDigit || c == ';' || c == '?'

/-- What follows a sequence whose beginning has been read; none if it does not
    end. -/
def afterSequence? : List Char → Option (List Char)
  | [] => none
  | c :: cs => if isParameter c then afterSequence? cs else if c.isAlpha then some cs else none

/-- What follows a sequence is shorter. -/
theorem length_lt_of_afterSequence? {cs rest : List Char} (h : afterSequence? cs = some rest) :
    rest.length < cs.length := by
  induction cs with
  | nil => cases h
  | cons c cs ih =>
    rw [afterSequence?] at h
    split at h
    · have := ih h
      simp only [List.length_cons]
      omega
    · split at h
      · injection h with h
        subst h
        simp
      · cases h

/-- The text without its control sequences. -/
def dropSequences (cs : List Char) : List Char :=
  match cs with
  | [] => []
  | '\x1b' :: '[' :: rest =>
    match _h : afterSequence? rest with
    | some after => dropSequences after
    | none => '\x1b' :: dropSequences ('[' :: rest)
  | c :: cs => c :: dropSequences cs
termination_by cs.length
decreasing_by
  · have := length_lt_of_afterSequence? _h
    simp only [List.length_cons]
    omega
  · simp
  · simp

end SpanQuest.Text
