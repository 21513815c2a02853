/-
  The questions that templates embed.

  A prompt is what its template shows, with the question between: the texts as they
  stand, nothing for a comment, and the question, character for character, for its
  name.  The question is never read as a template, so that what is around it is the
  same for every question.

  * `writtenAs_bundledTemplate`: the prompt that comes with the program is a text, the
    question and a quote;
  * `questionPrompt_embeds`: what becomes of every question, for every template, and
    for that one;
  * `questionPrompt_itself`: a name that is not the question's, and still has a value.
-/
import SpanQuest.Proofs.Prompt.Pieces

namespace SpanQuest

namespace Template

/-! ## Lines -/

theorem unifyLineEnds_of_not_mem {cs : List Char} (h : '\r' ∉ cs) : unifyLineEnds cs = cs := by
  induction cs with
  | nil => rfl
  | cons c cs ih =>
    have hc : c ≠ '\r' := fun hc => h (hc ▸ List.mem_cons_self ..)
    have hcs : '\r' ∉ cs := fun hmem => h (List.mem_cons_of_mem _ hmem)
    rw [unifyLineEnds]
    · rw [ih hcs, if_neg (by simpa using hc)]
    · exact fun _ hc' _ => hc hc'

/-- Lines that are joined are each followed by a line end but the last. -/
theorem intercalate_concat (sep : List Char) (lines : List (List Char)) (last : List Char) :
    sep.intercalate (lines ++ [last]) = lines.flatMap (· ++ sep) ++ last := by
  induction lines with
  | nil => simp
  | cons line lines ih =>
    rw [List.cons_append, List.intercalate_cons_of_ne_nil (by simp), ih]
    simp

end Template

namespace Prompt

open Template

/-! ## The prompt that comes with the program -/

/-- The lines before the question. -/
def linesBefore : List String := bundledLines.dropLast

set_option maxRecDepth 2000 in
theorem plain_linesBefore : ∀ line ∈ linesBefore,
    '\r' ∉ line.toList ∧ Unmarked ['\n'] line.toList := by
  have hplain : ∀ line ∈ linesBefore,
      ∃ cs, line.toList = cs ∧ '\r' ∉ cs ∧ Unmarked ['\n'] cs := by
    simp only [linesBefore, bundledLines, List.dropLast, List.forall_mem_cons]
    and_intros
    all_goals first | exact ⟨_, String.toList_ofList, by decide +kernel⟩ | simp
  intro line hline
  obtain ⟨cs, rfl, hcs⟩ := hplain line hline
  exact hcs

/-- What is written before the question in its line, and from the question on. -/
def lineStart : String := "Now parse this question: \""

def lineRest : String := "\x7b\x7b question \x7d\x7d\""

/-- The text before the question.  It is too long to be evaluated. -/
@[irreducible] def promptStart : String :=
  "\n".intercalate (linesBefore ++ [lineStart])

theorem toList_promptStart : promptStart.toList =
    (linesBefore.map String.toList).flatMap (· ++ ['\n']) ++ lineStart.toList := by
  unfold promptStart
  rw [String.toList_intercalate, List.map_append]
  exact intercalate_concat ..

theorem toList_bundledTemplate : bundledTemplate.toList =
    promptStart.toList ++ lineRest.toList := by
  have hlines : bundledLines = linesBefore ++ [lineStart ++ lineRest] := rfl
  rw [bundledTemplate, hlines, String.toList_intercalate, List.map_append, toList_promptStart,
    List.append_assoc, ← String.toList_append]
  exact intercalate_concat ..

/-- A text that the question follows, as pieces. -/
def piecesAfter (start : List Char) : List Piece :=
  [.text start, .place [' '] questionName.toList [' '], .text ['"']]

variable {start : List Char}

theorem written_piecesAfter (start : List Char) :
    written (piecesAfter start) = start ++ lineRest.toList :=
  rfl

theorem isBlank_space : ∀ c ∈ [' '], Text.isBlank c = true :=
  List.forall_mem_singleton.2 rfl

theorem isNamed_question : IsNamed [' '] questionName.toList [' '] :=
  ⟨isBlank_space, by decide, by decide, isBlank_space⟩

theorem laid_piecesAfter (h : Unmarked lineRest.toList start) : Laid (piecesAfter start) :=
  .text h (.place isNamed_question (.text (by decide) .nil))

theorem asking_piecesAfter (start : List Char) : Asking (piecesAfter start) := by
  simp +contextual [Asking, piecesAfter]

theorem intercalate_piecesAfter (q start : List Char) :
    q.intercalate (textsBetween (piecesAfter start)) = start ++ q ++ ['"'] := by
  simp [piecesAfter, textsBetween, prepend, List.intercalate_cons_cons]

/-- **The prompt that comes with the program** is a text, the question and a quote. -/
theorem writtenAs_bundledTemplate : WrittenAs bundledTemplate (piecesAfter promptStart.toList) := by
  have hline (line : List Char) (h : line ∈ linesBefore.map String.toList) :
      '\r' ∉ line ∧ Unmarked ['\n'] line := by
    obtain ⟨l, hl, rfl⟩ := List.mem_map.1 h
    exact plain_linesBefore l hl
  have hunmarked : Unmarked lineRest.toList promptStart.toList := by
    rw [toList_promptStart, unmarked_append]
    exact ⟨unmarked_lines fun line h => (hline line h).2, by decide⟩
  have hreturn : '\r' ∉ promptStart.toList := by
    rw [toList_promptStart, List.mem_append, List.mem_flatMap]
    rintro (⟨line, h, hmem⟩ | hmem)
    · rcases List.mem_append.1 hmem with hmem | hmem
      · exact (hline line h).1 hmem
      · exact absurd hmem (by decide)
    · exact absurd hmem (by decide)
  have hbundled := toList_bundledTemplate
  generalize promptStart.toList = start at *
  refine ⟨laid_piecesAfter hunmarked, ?_⟩
  rw [hbundled, written_piecesAfter]
  have hnone : '\r' ∉ start ++ lineRest.toList := by
    rw [List.mem_append]
    exact fun hmem => hmem.elim hreturn (by decide)
  rw [unifyLineEnds_of_not_mem hnone, dropFinalLineEnd, List.getLast?_append]
  rfl

namespace Registry

/-! ## Prompts for questions -/

theorem bundled_entry : ∃ r, bundled.entry parseQuestion = (.ok ⟨.text bundledTemplate, .int 1⟩, r) :=
  ⟨_, rfl⟩

/-- **A template with no name but the question's** makes the prompt that is its texts
    joined by the question. -/
theorem questionPrompt_asking {r r' : Registry} {e : Entry} {source : String} {pieces : List Piece}
    (hentry : r.entry parseQuestion = (.ok e, r')) (htext : e.template = .text source)
    (hwritten : WrittenAs source pieces) (h : Asking pieces) (q : String) :
    r.questionPrompt q =
      (.ok (String.ofList (q.toList.intercalate (textsBetween pieces))), r') := by
  obtain ⟨parts, hread, hnames, hsegments⟩ := read?_written hwritten
  have hgiven (name : String) : ¬ Foreign parts.names name := by
    rw [hnames]
    exact h.not_foreign name
  rw [questionPrompt_given hentry htext hread hgiven, hsegments, h.segmentsOf_eq]

/-- **The prompt that comes with the program** embeds the question between a text and a
    quote. -/
theorem bundled_questionPrompt (q : String) :
    (bundled.questionPrompt q).1 = .ok (promptStart ++ q ++ "\"") := by
  obtain ⟨r, hentry⟩ := bundled_entry
  rw [questionPrompt_asking hentry rfl writtenAs_bundledTemplate (asking_piecesAfter _) q]
  dsimp only
  congr 1
  apply String.toList_injective
  rw [String.toList_ofList, String.toList_append, String.toList_append, intercalate_piecesAfter]
  rfl

/-- **Questions are embedded as they are.**  A template of texts, comments and the name
    of the question, in whatever registry it is, makes of every question the prompt
    that is its texts joined by the question.  Every template that can be read does
    so with its segments, unless one of its variables is not given: then it makes no
    prompt, for the same variable whatever the question is.  The prompt that comes
    with the program puts the question between a text and a quote, so that no two
    questions have the same prompt. -/
theorem questionPrompt_embeds {r r' : Registry} {e : Entry} {source : String}
    (hentry : r.entry parseQuestion = (.ok e, r')) (htext : e.template = .text source) :
    (∀ pieces, WrittenAs source pieces →
      ∃ parts, read? source = some parts ∧ parts.names = namesOf pieces ∧
        (Asking pieces → ∀ q, r.questionPrompt q =
          (.ok (String.ofList (q.toList.intercalate (textsBetween pieces))), r'))) ∧
      (∀ parts, read? source = some parts →
        ((∀ name, ¬ Foreign parts.names name) → ∀ q, r.questionPrompt q =
          (.ok (String.ofList (q.toList.intercalate parts.segments)), r')) ∧
        ((∃ name, Foreign parts.names name) → ∃ name ∈ parts.names,
          Foreign parts.names (spellingOf parts.names name) ∧
            ∀ q, r.questionPrompt q = (.error (.failure (notGiven name)), r'))) ∧
      (∀ q, (bundled.questionPrompt q).1 = .ok (promptStart ++ q ++ "\"")) ∧
      ∀ q q', (bundled.questionPrompt q).1 = (bundled.questionPrompt q').1 → q = q' := by
  refine ⟨fun pieces hwritten => ?_, fun parts hread => ⟨?_, ?_⟩, bundled_questionPrompt, ?_⟩
  · obtain ⟨parts, hread, hnames, -⟩ := read?_written hwritten
    exact ⟨parts, hread, hnames, questionPrompt_asking hentry htext hwritten⟩
  · exact questionPrompt_given hentry htext hread
  · exact questionPrompt_foreign hentry htext hread
  · intro q q' hsame
    rw [bundled_questionPrompt, bundled_questionPrompt] at hsame
    have htexts := Except.ok.inj hsame
    exact String.append_right_inj _ |>.1 (String.append_left_inj _ |>.1 htexts)

/-- A registry that holds only the prompt for questions. -/
def holding (source : String) : Registry where
  source := .missing
  entries := [(parseQuestion, ⟨.text source, .int 1⟩)]
  loaded := true

/-- A template with a comment, and its pieces. -/
def commented : String := "Ask\x7b# it #\x7d: \x7b\x7b question \x7d\x7d"

def commentedPieces : List Piece :=
  [.text "Ask".toList, .comment " it ".toList, .text ": ".toList,
    .place [' '] questionName.toList [' ']]

/-- A template with a name that is not given. -/
def foreignTemplate : String := "\x7b\x7b who \x7d\x7d"

/-- A question that looks like a template is put after the text as it is, and a name
    that is not given makes no prompt. -/
theorem questionPrompt_embeds_commented :
    WrittenAs commented commentedPieces ∧ Asking commentedPieces ∧
      ((holding commented).questionPrompt "\x7b\x7b x \x7d\x7d\n").1 =
        .ok "Ask: \x7b\x7b x \x7d\x7d\n" ∧
      ∀ q, ((holding foreignTemplate).questionPrompt q).1 =
        .error (.failure (notGiven "who")) := by
  have hremark : IsRemark " it ".toList := ⟨by decide, by decide, by decide⟩
  have hwritten : WrittenAs commented commentedPieces :=
    ⟨.text (by decide) (.comment hremark (.text (by decide) (.place isNamed_question .nil))), rfl⟩
  have hasking : Asking commentedPieces := by
    simp +contextual [Asking, commentedPieces]
  have hforeign : Foreign ["who"] "who" := ⟨by decide, by decide, by decide⟩
  obtain ⟨hpieces, -⟩ := questionPrompt_embeds (r := holding commented) rfl rfl
  obtain ⟨parts, -, -, hprompt⟩ := hpieces commentedPieces hwritten
  obtain ⟨-, hread, -⟩ := questionPrompt_embeds (r := holding foreignTemplate) rfl rfl
  obtain ⟨-, hnone⟩ := hread [.place "who"] rfl
  obtain ⟨name, hname, -, hfails⟩ := hnone ⟨"who", hforeign⟩
  obtain rfl : name = "who" := List.mem_singleton.1 hname
  refine ⟨hwritten, hasking, ?_, fun q => ?_⟩
  · rw [hprompt hasking]
    rfl
  · rw [hfails q]

/-- A template with the name that stands for the template itself. -/
def itselfTemplate : String := "\x7b\x7b self \x7d\x7d"

/-- The names that have a value in every template of the environment. -/
def globalNames : List String := ["range", "dict", "lipsum", "cycler", "joiner", "namespace"]

/-- **The name of the template itself** is not the question's, no literal and no global
    name, and still every question has a prompt. -/
theorem questionPrompt_itself :
    WrittenAs itselfTemplate [.place [' '] "self".toList [' ']] ∧
      "self" ≠ questionName ∧ constants.lookup "self" = none ∧ "self" ∉ globalNames ∧
      ∀ q, ((holding itselfTemplate).questionPrompt q).1 = .ok "<TemplateReference None>" := by
  have hnamed : IsNamed [' '] "self".toList [' '] :=
    ⟨isBlank_space, by decide, by decide, isBlank_space⟩
  have hnames : Template.names [.place "self"] = ["self"] := rfl
  have hgiven (name : String) : ¬ Foreign (Template.names [.place "self"]) name := by
    rw [hnames]
    intro hforeign
    obtain rfl : name = "self" := List.mem_singleton.1 hforeign.mem
    exact hforeign.unknown known_itself
  have hsegments : segments [.place "self"] = ["<TemplateReference None>".toList] := by
    decide +kernel
  have hread : read? itselfTemplate = some [.place "self"] := rfl
  refine ⟨⟨.place hnamed .nil, rfl⟩, by decide, by decide, by decide, fun q => ?_⟩
  have hprompt := questionPrompt_given (r := holding itselfTemplate) rfl rfl hread hgiven q
  rw [hsegments, List.intercalate_singleton, String.ofList_toList] at hprompt
  rw [hprompt]

end Registry

end Prompt

end SpanQuest
