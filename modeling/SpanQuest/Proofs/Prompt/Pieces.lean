/-
  Templates as they are written.

  A template is written in pieces (`Piece`): texts in which no mark begins, comments,
  and names between double braces, with blanks around them.  It is read as just these
  pieces, so that what a prompt shows is known from how its template is written.

  * `Laid`: pieces that are what they are written as;
  * `segmentsOf`: what they show before, between and after the questions;
  * `read?_written`: they are read as they are written;
  * `Asking.segmentsOf_eq`: where every name is that of the question, they show their
    texts.
-/
import SpanQuest.Proofs.Prompt.Filling
import SpanQuest.Proofs.Text.Ends
import SpanQuest.Proofs.Text.Identifier

namespace SpanQuest

namespace Template

/-! ## Pieces -/

/-- A piece of a template as it is written. -/
inductive Piece where
  | text (cs : List Char)
  | comment (inside : List Char)
  /-- A name between double braces, with blanks before and after it. -/
  | place (before name after : List Char)

/-- What is written for a piece. -/
def Piece.written : Piece → List Char
  | text cs => cs
  | comment inside => '{' :: '#' :: (inside ++ ['#', '}'])
  | place before name after => '{' :: '{' :: ((before ++ (name ++ after)) ++ ['}', '}'])

/-- What is written for pieces. -/
def written (pieces : List Piece) : List Char :=
  pieces.flatMap Piece.written

/-- A mark begins the characters. -/
def opens : List Char → Bool
  | b :: c :: _ => b == '{' && (c == '{' || c == '#' || c == '%')
  | _ => false

/-- No mark begins in the text, where `rest` follows it. -/
def Unmarked (rest : List Char) : List Char → Prop
  | [] => True
  | c :: cs => opens (c :: (cs ++ rest)) = false ∧ Unmarked rest cs

instance decidableUnmarked (rest : List Char) : (cs : List Char) → Decidable (Unmarked rest cs)
  | [] => isTrue trivial
  | _ :: cs => @instDecidableAnd _ _ _ (decidableUnmarked rest cs)

/-- The inside of a comment: it does not end before its end, and it has no hyphen at
    either end, which would be part of the mark. -/
structure IsRemark (inside : List Char) : Prop where
  unended : ¬ ['#', '}'] <:+: inside
  first : inside.head? ≠ some '-'
  last : inside.getLast? ≠ some '-'

/-- The inside of double braces: a name, with blanks around it. -/
structure IsNamed (before name after : List Char) : Prop where
  blankBefore : ∀ c ∈ before, Text.isBlank c = true
  identifier : Text.isIdentifier name = true
  notNegation : String.ofList name ≠ negation
  blankAfter : ∀ c ∈ after, Text.isBlank c = true

/-- **Pieces that are what they are written as.** -/
inductive Laid : List Piece → Prop where
  | nil : Laid []
  | text {cs : List Char} {pieces : List Piece} (hcs : Unmarked (written pieces) cs)
      (h : Laid pieces) : Laid (.text cs :: pieces)
  | comment {inside : List Char} {pieces : List Piece} (hinside : IsRemark inside)
      (h : Laid pieces) : Laid (.comment inside :: pieces)
  | place {before name after : List Char} {pieces : List Piece}
      (hinside : IsNamed before name after) (h : Laid pieces) :
      Laid (.place before name after :: pieces)

/-- **A template is written in pieces**, but for the kind of its line ends and one line
    end after it. -/
structure WrittenAs (source : String) (pieces : List Piece) : Prop where
  laid : Laid pieces
  written : dropFinalLineEnd (unifyLineEnds source.toList) = written pieces

/-! ## What pieces show -/

/-- The name of a variable that a piece is. -/
def Piece.name? : Piece → Option String
  | place _ name _ =>
    if (constants.lookup (String.ofList name)).isSome then none else some (String.ofList name)
  | _ => none

/-- The names of the variables in pieces, in the order of their first places. -/
def namesOf (pieces : List Piece) : List String :=
  (pieces.filterMap Piece.name?).eraseDups

/-- What a piece shows for every question; none if that is the question. -/
def Piece.shown? (names : List String) : Piece → Option (List Char)
  | text cs => some cs
  | comment _ => some []
  | place _ name _ =>
    match constants.lookup (String.ofList name) with
    | some shown => some shown.toList
    | none =>
      if spellingOf names (String.ofList name) = questionName then none
      else some ((valueOf [] names (String.ofList name)).getD "").toList

/-- What pieces show before, between and after the questions. -/
def segmentsFrom (names : List String) : List Piece → List (List Char)
  | [] => [[]]
  | piece :: pieces =>
    match piece.shown? names with
    | some cs => prepend cs (segmentsFrom names pieces)
    | none => [] :: segmentsFrom names pieces

/-- What a template shows before, between and after the questions. -/
def segmentsOf (pieces : List Piece) : List (List Char) :=
  segmentsFrom (namesOf pieces) pieces

/-- The only name in pieces is that of the question. -/
def Asking (pieces : List Piece) : Prop :=
  ∀ before name after, .place before name after ∈ pieces → name = questionName.toList

/-- The texts before, between and after the names in pieces, without the comments. -/
def textsBetween : List Piece → List (List Char)
  | [] => [[]]
  | .text cs :: pieces => prepend cs (textsBetween pieces)
  | .comment _ :: pieces => textsBetween pieces
  | .place _ _ _ :: pieces => [] :: textsBetween pieces

/-! ## What pieces are read as -/

/-- The part that a name is read as. -/
def partOf (name : List Char) : TemplatePart :=
  match constants.lookup (String.ofList name) with
  | some shown => .literal shown.toList
  | none => .place (String.ofList name)

/-- The parts that pieces are read as, after a text, reversed. -/
def partsFrom (seen : List Char) : List Piece → Template
  | [] => literal? seen
  | .text cs :: pieces => partsFrom (cs.reverse ++ seen) pieces
  | .comment _ :: pieces => literal? seen ++ partsFrom [] pieces
  | .place _ name _ :: pieces => literal? seen ++ partOf name :: partsFrom [] pieces

section

variable {names : List String} {pieces : List Piece} {parts : Template}
  {seen cs rest before name after inside : List Char} {fuel : Nat} {a b : Char}

theorem prepend_nil {segments : List (List Char)} (h : segments ≠ []) :
    prepend [] segments = segments := by
  cases segments with
  | nil => exact absurd rfl h
  | cons first rest => rfl

theorem segmentsFrom_ne_nil (names : List String) (pieces : List Piece) :
    segmentsFrom names pieces ≠ [] := by
  cases pieces with
  | nil => exact List.cons_ne_nil _ _
  | cons piece pieces =>
    unfold segmentsFrom
    split
    · exact prepend_ne_nil _ _
    · exact List.cons_ne_nil _ _

theorem segmentsWith_literal? : segmentsWith names (literal? seen ++ parts) =
    prepend seen.reverse (segmentsWith names parts) := by
  unfold literal?
  cases seen with
  | nil => exact (prepend_nil (segmentsWith_ne_nil names parts)).symm
  | cons c seen => rfl

/-- **The parts show what the pieces show.** -/
theorem segmentsWith_partsFrom : segmentsWith names (partsFrom seen pieces) =
    prepend seen.reverse (segmentsFrom names pieces) := by
  induction pieces generalizing seen with
  | nil =>
    have hliteral : segmentsWith names (literal? seen ++ []) =
        prepend seen.reverse (segmentsWith names []) := segmentsWith_literal?
    rwa [List.append_nil] at hliteral
  | cons piece pieces ih =>
    have hrest : segmentsWith names (partsFrom [] pieces) = segmentsFrom names pieces :=
      ih.trans (prepend_nil (segmentsFrom_ne_nil names pieces))
    cases piece with
    | text cs =>
      unfold partsFrom segmentsFrom
      rw [ih, List.reverse_append, List.reverse_reverse, prepend_append]
      rfl
    | comment inside =>
      unfold partsFrom segmentsFrom
      rw [segmentsWith_literal?, hrest]
      dsimp only [Piece.shown?]
      rw [prepend_nil (segmentsFrom_ne_nil names pieces)]
    | place before name after =>
      unfold partsFrom segmentsFrom
      rw [segmentsWith_literal?]
      congr 1
      rcases hlookup : constants.lookup (String.ofList name) with _ | shown
      · simp only [partOf, Piece.shown?, hlookup, segmentsWith, hrest]
        split <;> rfl
      · simp only [partOf, Piece.shown?, hlookup, segmentsWith, hrest]

theorem filterMap_literal? {f : TemplatePart → Option String}
    (h : ∀ cs, f (.literal cs) = none) : (literal? seen).filterMap f = [] := by
  unfold literal?
  split
  · rfl
  · simp [h]

/-- **The parts name what the pieces name.** -/
theorem names_partsFrom : (partsFrom seen pieces).names = namesOf pieces := by
  unfold Template.names namesOf
  congr 1
  induction pieces generalizing seen with
  | nil => exact filterMap_literal? fun _ => rfl
  | cons piece pieces ih =>
    cases piece with
    | text cs => exact ih
    | comment inside =>
      unfold partsFrom
      rw [List.filterMap_append, filterMap_literal? fun _ => rfl, List.nil_append, ih]
      rfl
    | place before name after =>
      unfold partsFrom
      rw [List.filterMap_append, filterMap_literal? fun _ => rfl, List.nil_append]
      unfold partOf
      rw [List.filterMap_cons, List.filterMap_cons, ih, Piece.name?]
      rcases constants.lookup (String.ofList name) with _ | shown <;> rfl

/-! ## Texts in which no mark begins -/

theorem opens_of_ne {c : Char} (h : c ≠ '{') : opens (c :: cs) = false := by
  cases cs with
  | nil => rfl
  | cons d ds => rw [opens, beq_eq_false_iff_ne.2 h, Bool.false_and]

theorem unmarked_append : Unmarked rest (cs ++ ds) ↔
    Unmarked (ds ++ rest) cs ∧ Unmarked rest ds := by
  induction cs with
  | nil => simp [Unmarked]
  | cons c cs ih => simp [Unmarked, ih, and_assoc]

/-- Whether a mark begins in a line does not depend on what follows its end. -/
theorem Unmarked.of_line (h : Unmarked ['\n'] cs) : Unmarked ('\n' :: rest) cs := by
  induction cs with
  | nil => trivial
  | cons c cs ih =>
    refine ⟨?_, ih h.2⟩
    cases cs with
    | nil => exact h.1
    | cons d cs => exact h.1

theorem unmarked_lines {lines : List (List Char)} (h : ∀ line ∈ lines, Unmarked ['\n'] line) :
    Unmarked rest (lines.flatMap (· ++ ['\n'])) := by
  induction lines generalizing rest with
  | nil => trivial
  | cons line lines ih =>
    have hline := h line (List.mem_cons_self ..)
    rw [List.flatMap_cons, List.append_assoc, unmarked_append, unmarked_append]
    refine ⟨hline.of_line, ⟨opens_of_ne (by decide), trivial⟩, ih fun l hl => ?_⟩
    exact h l (List.mem_cons_of_mem _ hl)

/-! ## Reading -/

theorem splitAtPair?_append (h : ¬ [a, b] <:+: inside ++ [a]) :
    splitAtPair? a b (inside ++ a :: b :: rest) = some (inside, rest) := by
  induction inside with
  | nil => simp [splitAtPair?]
  | cons c cs ih =>
    have hcs : ¬ [a, b] <:+: cs ++ [a] :=
      fun hwithin => h (hwithin.trans (List.suffix_cons c _).isInfix)
    have hfirst (d : Char) (ds : List Char) (heq : cs ++ [a] = d :: ds) :
        (c == a && d == b) = false := by
      refine Bool.eq_false_iff.2 fun hboth => h ?_
      rw [Bool.and_eq_true, beq_iff_eq, beq_iff_eq] at hboth
      obtain ⟨rfl, rfl⟩ := hboth
      rw [List.cons_append, heq]
      exact ⟨[], ds, rfl⟩
    rcases cs with _ | ⟨d, ds⟩
    · rw [List.cons_append, List.nil_append, splitAtPair?, hfirst a [] rfl]
      simp [splitAtPair?]
    · rw [List.cons_append, List.cons_append, splitAtPair?, hfirst d (ds ++ [a]) rfl]
      rw [← List.cons_append, ih hcs]
      rfl

/-- A sign at the beginning of a mark does not matter but for the hyphen. -/
theorem opened_of_plain (hhyphen : cs.head? ≠ some '-') (hplus : cs.head? ≠ some '+') :
    opened seen cs = (seen, cs) := by
  unfold opened
  split
  · exact absurd rfl hhyphen
  · exact absurd rfl hplus
  · rfl

theorem closed_of_plain (h : inside.getLast? ≠ some '-') : closed inside rest = (inside, rest) := by
  unfold closed
  split
  · next hlast => exact absurd hlast h
  · rfl

theorem readFrom_nil : readFrom fuel seen [] = some (literal? seen) := by
  cases fuel <;> rfl

theorem readFrom_cons {c : Char} (h : opens (c :: cs) = false) :
    readFrom (fuel + 1) seen (c :: cs) = readFrom fuel (c :: seen) cs := by
  rw [readFrom]
  all_goals
    rintro ds rfl rfl
    simp [opens] at h

theorem readFrom_text (h : Unmarked rest cs) (hfuel : (cs ++ rest).length ≤ fuel) :
    ∃ fuel', rest.length ≤ fuel' ∧
      readFrom fuel seen (cs ++ rest) = readFrom fuel' (cs.reverse ++ seen) rest := by
  induction cs generalizing fuel seen with
  | nil => exact ⟨fuel, hfuel, rfl⟩
  | cons c cs ih =>
    obtain ⟨hc, hcs⟩ := h
    rw [List.cons_append, List.length_cons] at hfuel
    obtain ⟨fuel, rfl⟩ : ∃ n, fuel = n + 1 := ⟨fuel - 1, by omega⟩
    obtain ⟨fuel', hfuel', hread⟩ := @ih (c :: seen) fuel hcs (Nat.le_of_succ_le_succ hfuel)
    refine ⟨fuel', hfuel', ?_⟩
    rw [List.cons_append, readFrom_cons hc, hread, List.reverse_cons, List.append_assoc]
    rfl

/-- An end of a mark that begins in the text is in the text, unless it is one
    character twice. -/
theorem infix_snoc_cases (h : [a, b] <:+: inside ++ [a]) :
    [a, b] <:+: inside ∨ b = a ∧ a ∈ inside := by
  obtain hsuffix | hwithin := List.infix_concat_iff.1 h
  · obtain hnil | ⟨t, heq, ht⟩ := List.suffix_concat_iff.1 hsuffix
    · cases hnil
    · have hparts : [a] = t ∧ [b] = [a] := @List.append_inj' _ [a] _ _ _ heq rfl
      obtain ⟨rfl, hlast⟩ := hparts
      cases hlast
      exact .inr ⟨rfl, ht.subset (List.mem_cons_self ..)⟩
  · exact .inl hwithin

theorem opened_remark (h : IsRemark inside) (seen rest : List Char) :
    ∃ cs, cs <:+ inside ∧ cs.getLast? ≠ some '-' ∧
      opened seen (inside ++ '#' :: '}' :: rest) = (seen, cs ++ '#' :: '}' :: rest) := by
  rcases inside with _ | ⟨c, cs⟩
  · exact ⟨[], List.suffix_rfl, h.last, rfl⟩
  by_cases hplus : c = '+'
  · subst hplus
    refine ⟨cs, List.suffix_cons _ _, fun hlast => h.last ?_, rfl⟩
    rw [List.getLast?_cons, hlast]
    rfl
  · refine ⟨c :: cs, List.suffix_rfl, h.last, opened_of_plain h.first fun hhead => ?_⟩
    exact hplus (Option.some.inj hhead)

theorem readFrom_comment (h : IsRemark inside) :
    readFrom (fuel + 1) seen ((Piece.comment inside).written ++ rest) =
      (readFrom fuel [] rest).map (literal? seen ++ ·) := by
  obtain ⟨cs, hsuffix, hlast, hopened⟩ := opened_remark h seen rest
  have hunended : ¬ ['#', '}'] <:+: cs ++ ['#'] := by
    intro hwithin
    obtain hinside | ⟨hsame, -⟩ := infix_snoc_cases hwithin
    · exact h.unended (hinside.trans hsuffix.isInfix)
    · exact absurd hsame (by decide)
  have hwritten : (Piece.comment inside).written ++ rest =
      '{' :: '#' :: (inside ++ '#' :: '}' :: rest) := by
    simp [Piece.written]
  rw [hwritten, readFrom, hopened]
  dsimp only
  rw [splitAtPair?_append hunended]
  dsimp only
  rw [closed_of_plain hlast]

theorem IsNamed.not_mem {d : Char} (h : IsNamed before name after) (hblank : Text.isBlank d = false)
    (hname : Text.isFollowing d = false) : d ∉ before ++ (name ++ after) := by
  intro hmem
  rcases List.mem_append.1 hmem with hmem | hmem
  · rw [h.blankBefore d hmem] at hblank
    cases hblank
  rcases List.mem_append.1 hmem with hmem | hmem
  · exact Text.ne_of_mem_identifier h.identifier hmem hname rfl
  · rw [h.blankAfter d hmem] at hblank
    cases hblank

theorem IsNamed.trimChars_eq (h : IsNamed before name after) :
    Text.trimChars (before ++ (name ++ after)) = name := by
  have hink (c : Char) (hc : c ∈ name) : Text.isBlank c = false :=
    Text.isBlank_of_isFollowing (Text.isFollowing_of_mem_identifier h.identifier hc)
  refine Text.trimChars_eq_iff.2 ⟨⟨before, after, rfl, h.blankBefore, h.blankAfter⟩, ?_, ?_⟩
  · exact fun c hc => hink c (List.mem_of_head? hc)
  · exact fun c hc => hink c (List.mem_of_getLast? hc)

theorem IsNamed.part?_eq (h : IsNamed before name after) :
    part? (before ++ (name ++ after)) = some (partOf name) := by
  unfold part? partOf
  rw [h.trimChars_eq]
  dsimp only
  rw [h.identifier]
  rcases hlookup : constants.lookup (String.ofList name) with _ | shown
  · simp [h.notNegation]
  · simp

theorem readFrom_place (h : IsNamed before name after) :
    readFrom (fuel + 1) seen ((Piece.place before name after).written ++ rest) =
      (readFrom fuel [] rest).map (literal? seen ++ partOf name :: ·) := by
  have hwritten : (Piece.place before name after).written ++ rest =
      '{' :: '{' :: (before ++ (name ++ after) ++ '}' :: '}' :: rest) := by
    simp [Piece.written]
  have hhyphen := h.not_mem (d := '-') (by decide) (by decide)
  have hplus := h.not_mem (d := '+') (by decide) (by decide)
  have hbrace := h.not_mem (d := '}') (by decide) (by decide)
  have hpart := h.part?_eq
  rw [hwritten]
  generalize before ++ (name ++ after) = inside at *
  have hhead {d : Char} (hmem : d ∉ inside) (hd : d ≠ '}') :
      (inside ++ '}' :: '}' :: rest).head? ≠ some d := by
    intro hhead
    cases inside with
    | nil =>
      cases hhead
      exact hd rfl
    | cons c cs =>
      cases hhead
      exact hmem (List.mem_cons_self ..)
  have hunended : ¬ ['}', '}'] <:+: inside ++ ['}'] := by
    intro hwithin
    obtain hinside | ⟨-, hmem⟩ := infix_snoc_cases hwithin
    · exact hbrace (hinside.subset (List.mem_cons_self ..))
    · exact hbrace hmem
  rw [readFrom, opened_of_plain (hhead hhyphen (by decide)) (hhead hplus (by decide))]
  dsimp only
  rw [splitAtPair?_append hunended]
  dsimp only
  rw [closed_of_plain fun hlast => hhyphen (List.mem_of_getLast? hlast)]
  dsimp only
  rw [hpart]
  cases readFrom fuel [] rest <;> rfl

theorem written_cons (piece : Piece) (pieces : List Piece) :
    written (piece :: pieces) = piece.written ++ written pieces :=
  List.flatMap_cons

/-- **Pieces are read as they are written.** -/
theorem readFrom_written (h : Laid pieces) (hfuel : (written pieces).length ≤ fuel) :
    readFrom fuel seen (written pieces) = some (partsFrom seen pieces) := by
  induction h generalizing fuel seen with
  | nil => exact readFrom_nil
  | @text cs pieces hcs _ ih =>
    obtain ⟨fuel', hfuel', hread⟩ := readFrom_text hcs hfuel
    exact hread.trans (ih hfuel')
  | @comment inside pieces hinside _ ih =>
    rw [written_cons] at hfuel ⊢
    have hlength : 1 ≤ (Piece.comment inside).written.length := Nat.le_add_left ..
    rw [List.length_append] at hfuel
    obtain ⟨fuel, rfl⟩ : ∃ n, fuel = n + 1 := ⟨fuel - 1, by omega⟩
    rw [readFrom_comment hinside, ih (by omega)]
    rfl
  | @place before name after pieces hinside _ ih =>
    rw [written_cons] at hfuel ⊢
    have hlength : 1 ≤ (Piece.place before name after).written.length := Nat.le_add_left ..
    rw [List.length_append] at hfuel
    obtain ⟨fuel, rfl⟩ : ∃ n, fuel = n + 1 := ⟨fuel - 1, by omega⟩
    rw [readFrom_place hinside, ih (by omega)]
    rfl

/-- **A template is read as it is written**: its parts name and show what its pieces
    name and show. -/
theorem read?_written {source : String} (h : WrittenAs source pieces) :
    ∃ parts, read? source = some parts ∧ parts.names = namesOf pieces ∧
      parts.segments = segmentsOf pieces := by
  refine ⟨partsFrom [] pieces, ?_, names_partsFrom, ?_⟩
  · unfold read?
    rw [h.written]
    exact readFrom_written h.laid (Nat.le_succ _)
  · unfold segments segmentsOf
    rw [names_partsFrom, segmentsWith_partsFrom, List.reverse_nil,
      prepend_nil (segmentsFrom_ne_nil _ _)]

/-! ## Pieces with no name but the question's -/

theorem eq_questionName_of_mem_namesOf {name : String} (h : Asking pieces)
    (hname : name ∈ namesOf pieces) : name = questionName := by
  unfold namesOf at hname
  rw [List.mem_eraseDups, List.mem_filterMap] at hname
  obtain ⟨piece, hpiece, hname⟩ := hname
  cases piece with
  | text cs => cases hname
  | comment inside => cases hname
  | place before n after =>
    obtain rfl := h before n after hpiece
    exact (Option.some.inj hname).symm

theorem Asking.not_foreign (h : Asking pieces) (name : String) :
    ¬ Foreign (namesOf pieces) name :=
  fun hforeign => hforeign.unknown (.inl (eq_questionName_of_mem_namesOf h hforeign.mem))

/-- **They show their texts**, and the question for each name. -/
theorem Asking.segmentsOf_eq (h : Asking pieces) : segmentsOf pieces = textsBetween pieces := by
  have hcounts : spellingOf (namesOf pieces) questionName = questionName :=
    spellingOf_eq_self fun n hn _ => eq_questionName_of_mem_namesOf h hn
  unfold segmentsOf
  generalize namesOf pieces = names at hcounts
  induction pieces with
  | nil => rfl
  | cons piece pieces ih =>
    have hrest := ih fun before name after hmem => h before name after (List.mem_cons_of_mem _ hmem)
    cases piece with
    | text cs =>
      unfold segmentsFrom textsBetween
      rw [hrest]
      rfl
    | comment inside =>
      unfold segmentsFrom textsBetween
      rw [← hrest]
      exact prepend_nil (segmentsFrom_ne_nil names pieces)
    | place before name after =>
      obtain rfl := h before name after (List.mem_cons_self ..)
      have hshown : (Piece.place before questionName.toList after).shown? names = none := by
        have hlookup : constants.lookup questionName = none := by decide
        simp only [Piece.shown?, String.ofList_toList, hlookup, if_pos hcounts]
      unfold segmentsFrom textsBetween
      rw [hshown, hrest]

end

end Template

end SpanQuest
