/-
  JSON on a page.

  A plain value is written in the visible characters of ASCII, blanks and line
  ends.  None of them begins a control sequence, so that a page shows the value
  as it was written, and what is read off the page is the value again.

  * `shows_indentChars`: the characters of a plain value;
  * `dropSequences_of_notMem`: a text without the escape character has no control
    sequences;
  * `read_line`: a plain value that was printed on a page reads back.
-/
import SpanQuest.Proofs.Json.RoundTrip
import SpanQuest.Text.ControlSequence

namespace SpanQuest

namespace Text

theorem dropSequences_of_notMem {cs : List Char} (h : '\x1b' ∉ cs) : dropSequences cs = cs := by
  induction cs with
  | nil => rw [dropSequences]
  | cons c cs ih =>
    obtain ⟨hne, hrest⟩ := not_or.1 (mt List.mem_cons.2 h)
    rw [dropSequences, ih hrest]
    rintro rest rfl
    exact absurd rfl hne

end Text

namespace Json

open SpanQuest.Text

/-! ## Characters -/

/-- A visible character of ASCII, a blank, or the end of a line. -/
def isShown (c : Char) : Bool :=
  (0x20 ≤ c.toNat && c.toNat < 0x7f) || c == '\n'

/-- All the characters are shown. -/
def Shows (cs : List Char) : Prop :=
  ∀ c ∈ cs, isShown c = true

theorem shows_of_all {cs : List Char} (h : cs.all isShown = true) : Shows cs :=
  List.all_eq_true.1 h

theorem shows_nil : Shows [] := by
  intro c hc
  cases hc

theorem shows_cons {c : Char} {cs : List Char} (hc : isShown c = true) (hcs : Shows cs) :
    Shows (c :: cs) := by
  intro d hd
  rcases List.mem_cons.1 hd with rfl | hd
  · exact hc
  · exact hcs d hd

theorem shows_append {cs ds : List Char} (hcs : Shows cs) (hds : Shows ds) : Shows (cs ++ ds) := by
  intro c hc
  rcases List.mem_append.1 hc with hc | hc
  · exact hcs c hc
  · exact hds c hc

theorem isShown_hexDigit {n : Nat} (h : n < 16) : isShown (hexDigit n) = true := by
  have all : ∀ m ∈ List.range 16, isShown (hexDigit m) = true := by decide
  exact all n (List.mem_range.2 h)

theorem shows_hexDigits (width n : Nat) : Shows (hexDigits width n) := by
  induction width generalizing n with
  | zero => exact shows_nil
  | succ width ih =>
    rw [hexDigits]
    exact shows_append (ih _) (shows_cons (isShown_hexDigit (Nat.mod_lt _ (by decide))) shows_nil)

theorem shows_unitEscape (n : Nat) : Shows (unitEscape n) :=
  shows_cons (by decide) (shows_cons (by decide) (shows_hexDigits 4 n))

theorem shows_escapeChar (c : Char) : Shows (escapeChar c) := by
  unfold escapeChar
  dsimp only
  have short (d : Char) (hd : isShown d = true) : Shows ['\\', d] :=
    shows_cons (by decide) (shows_cons hd shows_nil)
  split
  · exact short _ (by decide)
  split
  · exact short _ (by decide)
  split
  · exact short _ (by decide)
  split
  · exact short _ (by decide)
  split
  · exact short _ (by decide)
  split
  · exact short _ (by decide)
  split
  · exact short _ (by decide)
  split
  · next hvisible => exact shows_cons (by simp [isShown, hvisible]) shows_nil
  split
  · exact shows_unitEscape _
  · exact shows_append (shows_unitEscape _) (shows_unitEscape _)

theorem shows_renderText (s : String) : Shows (renderText s) := by
  refine shows_append (shows_cons (by decide) ?_) (shows_cons (by decide) shows_nil)
  intro c hc
  obtain ⟨d, -, hd⟩ := List.mem_flatMap.1 hc
  exact shows_escapeChar d c hd

theorem isShown_of_isFigure {c : Char} (h : isFigure c = true) : isShown c = true := by
  simp only [isFigure, Bool.and_eq_true, decide_eq_true_eq, Char.le_def] at h
  have hlow : '0'.toNat ≤ c.toNat := h.1
  have hhigh : c.toNat ≤ '9'.toNat := h.2
  have hvisible : 0x20 ≤ c.toNat ∧ c.toNat < 0x7f :=
    ⟨Nat.le_trans (by decide) hlow, Nat.lt_of_le_of_lt hhigh (by decide)⟩
  simp [isShown, hvisible]

theorem shows_renderInt (n : Int) : Shows (renderInt n) := by
  have hdigits : Shows (decimalDigits n.natAbs) := fun c hc =>
    isShown_of_isFigure (isFigure_of_mem_decimalDigits hc)
  unfold renderInt
  split
  · exact shows_cons (by decide) hdigits
  · exact hdigits

theorem shows_newLine (depth : Nat) : Shows (newLine depth) := by
  intro c hc
  simp only [newLine, List.mem_cons, List.mem_replicate] at hc
  rcases hc with rfl | ⟨-, rfl⟩ <;> decide

/-! ## Values -/

theorem shows_bracketed (left right : Char) {cs : List Char} (hleft : isShown left = true)
    (hright : isShown right = true) (hcs : Shows cs) : Shows (left :: cs ++ [right]) :=
  shows_append (shows_cons hleft hcs) (shows_cons hright shows_nil)

theorem shows_member (k : String) {cs : List Char} (hcs : Shows cs) :
    Shows (renderText k ++ ':' :: ' ' :: cs) :=
  shows_append (shows_renderText k) (shows_cons (by decide) (shows_cons (by decide) hcs))

mutual

/-- **A plain value is written in visible characters**, blanks and line ends. -/
theorem shows_indentChars (depth : Nat) : ∀ v : Json, v.isPlain = true →
    Shows (indentChars depth v)
  | null, _ => by
    rw [indentChars]
    exact shows_of_all rfl
  | bool b, _ => by
    rw [indentChars]
    cases b <;> exact shows_of_all rfl
  | int n, _ => by
    rw [indentChars]
    exact shows_renderInt n
  | text s, _ => by
    rw [indentChars]
    exact shows_renderText s
  | array [], _ => by
    rw [indentChars]
    exact shows_of_all rfl
  | array (v :: vs), h => by
    simp only [isPlain, allPlain, Bool.and_eq_true] at h
    have hv := shows_indentChars (depth + 1) v h.1
    have hvs := shows_indentItems (depth + 1) vs h.2
    simpa [indentChars] using shows_bracketed '[' ']' (by decide) (by decide)
      (shows_append (shows_newLine (depth + 1))
        (shows_append (shows_append hv hvs) (shows_newLine depth)))
  | object [], _ => by
    rw [indentChars]
    exact shows_of_all rfl
  | object ((k, v) :: ms), h => by
    simp only [isPlain, membersPlain, Bool.and_eq_true] at h
    have hv := shows_member k (shows_indentChars (depth + 1) v h.2.1)
    have hms := shows_indentMembers (depth + 1) ms h.2.2
    simpa [indentChars] using shows_bracketed '{' '}' (by decide) (by decide)
      (shows_append (shows_newLine (depth + 1))
        (shows_append (shows_append hv hms) (shows_newLine depth)))

theorem shows_indentItems (depth : Nat) : ∀ vs : List Json, allPlain vs = true →
    Shows (indentItems depth vs)
  | [], _ => by
    rw [indentItems]
    exact shows_nil
  | v :: vs, h => by
    simp only [allPlain, Bool.and_eq_true] at h
    have hv := shows_indentChars depth v h.1
    have hvs := shows_indentItems depth vs h.2
    simpa [indentItems] using
      shows_cons (by decide) (shows_append (shows_newLine depth) (shows_append hv hvs))

theorem shows_indentMembers (depth : Nat) : ∀ ms : List (String × Json),
    membersPlain ms = true → Shows (indentMembers depth ms)
  | [], _ => by
    rw [indentMembers]
    exact shows_nil
  | (k, v) :: ms, h => by
    simp only [membersPlain, Bool.and_eq_true] at h
    have hv := shows_member k (shows_indentChars depth v h.1)
    have hms := shows_indentMembers depth ms h.2
    simpa [indentMembers] using
      shows_cons (by decide) (shows_append (shows_newLine depth) (shows_append hv hms))

end

/-! ## Lines -/

/-- What is written of a plain value has no control sequences. -/
theorem dropSequences_renderIndented {v : Json} (h : v.isPlain = true) :
    dropSequences v.renderIndented.toList = v.renderIndented.toList := by
  refine dropSequences_of_notMem fun hmem => ?_
  have hshown := shows_indentChars 0 v h '\x1b' (by simpa [renderIndented] using hmem)
  exact absurd hshown (by decide)

/-- **A plain value that is printed on lines of its own reads back**, with the
    end of its last line. -/
theorem read_line {v : Json} (h : v.isPlain = true) :
    Json.read (String.ofList (dropSequences v.renderIndented.toList) ++ "\n") = .ok v := by
  rw [dropSequences_renderIndented h, String.ofList_toList]
  have hread := (reads_indentChars 0 v h).read_append (gap_newLine 0)
  simpa [renderIndented, newLine] using hread

end Json

end SpanQuest
