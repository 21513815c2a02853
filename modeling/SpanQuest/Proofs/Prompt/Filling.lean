/-
  Templates with a question in them.

  The question is the one value that is given, so that every other name shows what
  stands for it anyway, or has no value.  Of several spellings of one name the last
  one counts (`Template.spellingOf`), for the question as well: a name shows the
  question if it is the spelling that counts that is `question`.

  * `Foreign`: a variable that has no value, whatever the question is;
  * `fill_question`: without one, a template is its segments joined by the question,
    which are the same for every question;
  * `fill_foreign`: with one, it cannot be filled in for any question.
-/
import Mathlib.Data.List.Infix
import SpanQuest.Prompt.Registry

namespace SpanQuest

namespace Template

variable {names : List String} {name other : String} {parts : Template}

/-! ## Spellings -/

theorem sameName_iff : sameName name other = true ↔
    Text.compatibleForm name.toList = Text.compatibleForm other.toList := by
  unfold sameName
  rw [Bool.or_eq_true, beq_iff_eq, beq_iff_eq]
  exact or_iff_right_of_imp fun h => by rw [h]

/-- Spellings of one name have the same spelling that counts, unless they are not in
    the template. -/
theorem spellingOf_eq_of_sameName (hmem : other ∈ names) (hother : other ≠ itself)
    (h : sameName name other = true) : spellingOf names name = spellingOf names other := by
  have hsame : (fun n => n != itself && sameName name n) =
      fun n => n != itself && sameName other n := by
    funext n
    congr 1
    rw [Bool.eq_iff_iff, sameName_iff, sameName_iff, sameName_iff.1 h]
  have hself : other ∈ names.filter fun n => n != itself && sameName other n := by
    refine List.mem_filter.2 ⟨hmem, ?_⟩
    rw [Bool.and_eq_true, sameName_iff]
    exact ⟨bne_iff_ne.2 hother, rfl⟩
  unfold spellingOf
  rw [hsame, List.getLast?_eq_some_getLast (List.ne_nil_of_mem hself)]
  rfl

/-- The spelling that counts is a spelling of the name, and if it is another one it
    has a place in the template. -/
theorem spellingOf_cases (names : List String) (name : String) :
    spellingOf names name = name ∨
      spellingOf names name ∈ names ∧ spellingOf names name ≠ itself ∧
        sameName name (spellingOf names name) = true := by
  unfold spellingOf
  rcases hlast : (names.filter fun n => n != itself && sameName name n).getLast? with _ | s
  · exact .inl rfl
  · obtain ⟨hmem, hs⟩ := List.mem_filter.1 (List.mem_of_getLast? hlast)
    rw [Bool.and_eq_true, bne_iff_ne] at hs
    exact .inr ⟨hmem, hs⟩

theorem spellingOf_eq_self (h : ∀ n ∈ names, sameName name n = true → n = name) :
    spellingOf names name = name := by
  obtain hsame | ⟨hmem, -, hs⟩ := spellingOf_cases names name
  · exact hsame
  · exact h _ hmem hs

/-! ## Values -/

/-- The name that the question is given for. -/
def questionName : String := "question"

/-- The name has a value when only the question is given: it is the question's, or
    one that has a value anyway. -/
def Known (name : String) : Prop :=
  name = questionName ∨ (standing.lookup name).isSome = true

instance (name : String) : Decidable (Known name) :=
  inferInstanceAs (Decidable (_ ∨ _))

/-- **A variable that is not given**: it counts among the spellings of its name, and it
    is neither the question nor one that has a value anyway. -/
structure Foreign (names : List String) (name : String) : Prop where
  mem : name ∈ names
  counts : spellingOf names name = name
  unknown : ¬ Known name

/-- The question is shown by the names that are spelled like it; every other name
    shows the same for each question. -/
theorem valueOf_question (names : List String) (name q : String) :
    valueOf [(questionName, q)] names name =
      if spellingOf names name = questionName then some q else valueOf [] names name := by
  unfold valueOf
  by_cases h : spellingOf names name = questionName
  · simp [h, Mapping.get?]
  · simp [h, Ne.symm h, Mapping.get?]

/-- A name has no value, whatever the question is. -/
def Lacking (names : List String) (name : String) : Prop :=
  ∀ q, valueOf [(questionName, q)] names name = none

theorem lacking_iff {q : String} :
    Lacking names name ↔ valueOf [(questionName, q)] names name = none := by
  refine ⟨fun h => h q, fun h q' => ?_⟩
  rw [valueOf_question] at h ⊢
  by_cases hquestion : spellingOf names name = questionName
  · rw [if_pos hquestion] at h
    cases h
  · rw [if_neg hquestion] at h ⊢
    exact h

theorem known_itself : Known itself := by
  decide

theorem lacking_iff_not_known (h : name ≠ itself) :
    Lacking names name ↔ ¬ Known (spellingOf names name) := by
  have hvalue : valueOf [(questionName, "")] names name =
      if spellingOf names name = questionName then some ""
      else standing.lookup (spellingOf names name) := by
    rw [valueOf_question]
    unfold valueOf
    simp [h, Mapping.get?]
  rw [lacking_iff (q := ""), hvalue]
  unfold Known
  rw [Option.isSome_iff_ne_none]
  by_cases hquestion : spellingOf names name = questionName
  · simp [hquestion]
  · rw [if_neg hquestion, not_or, not_not, and_iff_right hquestion]

theorem Lacking.ne_itself (h : Lacking names name) : name ≠ itself := by
  rintro rfl
  have hnone := h ""
  simp [valueOf] at hnone

theorem Lacking.foreign (hmem : name ∈ names) (h : Lacking names name) :
    Foreign names (spellingOf names name) := by
  have hunknown := (lacking_iff_not_known h.ne_itself).1 h
  obtain hsame | ⟨hspelling, hother, hsame⟩ := spellingOf_cases names name
  · exact ⟨by rwa [hsame], by rw [hsame, hsame], hunknown⟩
  · exact ⟨hspelling, (spellingOf_eq_of_sameName hspelling hother hsame).symm, hunknown⟩

theorem Foreign.lacking (h : Foreign names name) : Lacking names name := by
  have hname : name ≠ itself := fun hname => h.unknown (hname ▸ known_itself)
  rw [lacking_iff_not_known hname, h.counts]
  exact h.unknown

/-! ## Filling -/

theorem mem_names : name ∈ parts.names ↔ .place name ∈ parts := by
  unfold Template.names
  rw [List.mem_eraseDups, List.mem_filterMap]
  constructor
  · rintro ⟨part, hmem, hpart⟩
    cases part with
    | literal cs => cases hpart
    | place n => cases hpart; exact hmem
  · exact fun h => ⟨_, h, rfl⟩

/-- A text in front of the first of several segments. -/
def prepend (cs : List Char) : List (List Char) → List (List Char)
  | [] => [cs]
  | first :: rest => (cs ++ first) :: rest

theorem prepend_ne_nil (cs : List Char) (segments : List (List Char)) :
    prepend cs segments ≠ [] := by
  cases segments <;> exact List.cons_ne_nil _ _

theorem prepend_append (cs ds : List Char) (segments : List (List Char)) :
    prepend (cs ++ ds) segments = prepend cs (prepend ds segments) := by
  cases segments with
  | nil => rfl
  | cons first rest => simp [prepend]

theorem intercalate_prepend (q cs : List Char) (segments : List (List Char)) :
    q.intercalate (prepend cs segments) = cs ++ q.intercalate segments := by
  rcases segments with _ | ⟨first, _ | ⟨second, rest⟩⟩
  · simp [prepend]
  · simp [prepend]
  · simp [prepend, List.intercalate_cons_cons]

/-- The segments of parts whose names are those of a template: what stands before,
    between and after the places of the question. -/
def segmentsWith (names : List String) : Template → List (List Char)
  | [] => [[]]
  | .literal cs :: parts => prepend cs (segmentsWith names parts)
  | .place name :: parts =>
    if spellingOf names name = questionName then [] :: segmentsWith names parts
    else prepend ((valueOf [] names name).getD "").toList (segmentsWith names parts)

/-- The segments of a template. -/
def segments (parts : Template) : List (List Char) :=
  segmentsWith parts.names parts

theorem segmentsWith_ne_nil (names : List String) (parts : Template) :
    segmentsWith names parts ≠ [] := by
  rcases parts with _ | ⟨cs | name, parts⟩
  · exact List.cons_ne_nil _ _
  · exact prepend_ne_nil _ _
  · unfold segmentsWith
    split
    · exact List.cons_ne_nil _ _
    · exact prepend_ne_nil _ _

theorem fillWith_question (h : ∀ name, .place name ∈ parts → ¬ Lacking names name) (q : String) :
    fillWith (valueOf [(questionName, q)] names) parts =
      .ok (q.toList.intercalate (segmentsWith names parts)) := by
  induction parts with
  | nil => rfl
  | cons part parts ih =>
    have hrest := ih fun name hmem => h name (List.mem_cons_of_mem _ hmem)
    cases part with
    | literal cs =>
      unfold fillWith segmentsWith
      rw [hrest, intercalate_prepend]
      rfl
    | place name =>
      have hvalue := mt (lacking_iff (q := q)).2 (h name (List.mem_cons_self ..))
      unfold fillWith segmentsWith
      rw [hrest]
      rw [valueOf_question] at hvalue ⊢
      by_cases hquestion : spellingOf names name = questionName
      · rw [if_pos hquestion, if_pos hquestion,
          List.intercalate_cons_of_ne_nil (segmentsWith_ne_nil names parts)]
        rfl
      · rw [if_neg hquestion] at hvalue ⊢
        rw [if_neg hquestion, intercalate_prepend]
        obtain ⟨value, hvalue⟩ := Option.ne_none_iff_exists'.1 hvalue
        rw [hvalue]
        rfl

theorem fillWith_lacking (h : ∃ name, .place name ∈ parts ∧ Lacking names name) :
    ∃ name, .place name ∈ parts ∧ Lacking names name ∧
      ∀ q, fillWith (valueOf [(questionName, q)] names) parts = .error name := by
  induction parts with
  | nil =>
    obtain ⟨name, hmem, -⟩ := h
    cases hmem
  | cons part parts ih =>
    -- the first name without a value is here, or in the rest
    by_cases hhere : ∃ name, part = .place name ∧ Lacking names name
    · obtain ⟨name, rfl, hlacking⟩ := hhere
      refine ⟨name, List.mem_cons_self .., hlacking, fun q => ?_⟩
      unfold fillWith
      rw [hlacking q]
    · have hrest : ∃ name, .place name ∈ parts ∧ Lacking names name := by
        obtain ⟨name, hmem, hlacking⟩ := h
        obtain heq | hmem := List.mem_cons.1 hmem
        · exact absurd ⟨name, heq.symm, hlacking⟩ hhere
        · exact ⟨name, hmem, hlacking⟩
      obtain ⟨name, hmem, hlacking, hfill⟩ := ih hrest
      refine ⟨name, List.mem_cons_of_mem _ hmem, hlacking, fun q => ?_⟩
      cases part with
      | literal cs =>
        unfold fillWith
        rw [hfill q]
        rfl
      | place n =>
        have hvalue := mt (lacking_iff (q := q)).2 fun hn => hhere ⟨n, rfl, hn⟩
        obtain ⟨value, hvalue⟩ := Option.ne_none_iff_exists'.1 hvalue
        unfold fillWith
        rw [hvalue, hfill q]
        rfl

/-- **A template in which every variable is given** is its segments joined by the
    question. -/
theorem fill_question (h : ∀ name, ¬ Foreign parts.names name) (q : String) :
    fill [(questionName, q)] parts = .ok (q.toList.intercalate parts.segments) :=
  fillWith_question (fun _ hmem hlacking => h _ (hlacking.foreign (mem_names.2 hmem))) q

/-- **A template with a variable that is not given** cannot be filled in, for the same
    variable whatever the question is. -/
theorem fill_foreign (h : ∃ name, Foreign parts.names name) :
    ∃ name ∈ parts.names, Foreign parts.names (spellingOf parts.names name) ∧
      ∀ q, fill [(questionName, q)] parts = .error name := by
  obtain ⟨foreign, hforeign⟩ := h
  obtain ⟨name, hmem, hlacking, hfill⟩ :=
    fillWith_lacking ⟨foreign, mem_names.1 hforeign.mem, hforeign.lacking⟩
  exact ⟨name, mem_names.2 hmem, hlacking.foreign (mem_names.2 hmem), hfill⟩

end Template

/-! ## Prompts for questions -/

namespace Prompt.Registry

open Template

variable {r r' : Registry} {e : Entry} {source : String} {parts : Template}

/-- The failure of a prompt that has a variable without a value. -/
def notGiven (name : String) : Failure :=
  .promptUnusable s!"Missing template variable: {Text.quoted name} is undefined"

theorem questionPrompt_of_entry (hentry : r.entry parseQuestion = (.ok e, r')) (q : String) :
    r.questionPrompt q = (fillIn e.template [(questionName, q)], r') := by
  have hplain : (reserved.any fun n => Mapping.has n [(questionName, q)]) = false := by
    simp [reserved, Mapping.has, Mapping.get?, questionName]
  unfold questionPrompt render
  rw [show [("question", q)] = [(questionName, q)] from rfl, hplain, hentry]
  rfl

/-- **A template in which every variable is given** makes the prompt that is its
    segments joined by the question. -/
theorem questionPrompt_given (hentry : r.entry parseQuestion = (.ok e, r'))
    (htext : e.template = .text source) (hread : read? source = some parts)
    (h : ∀ name, ¬ Foreign parts.names name) (q : String) :
    r.questionPrompt q = (.ok (String.ofList (q.toList.intercalate parts.segments)), r') := by
  rw [questionPrompt_of_entry hentry, htext, fillIn, hread]
  dsimp only
  rw [fill_question h]

/-- **A template with a variable that is not given** makes no prompt, for the same
    variable whatever the question is. -/
theorem questionPrompt_foreign (hentry : r.entry parseQuestion = (.ok e, r'))
    (htext : e.template = .text source) (hread : read? source = some parts)
    (h : ∃ name, Foreign parts.names name) :
    ∃ name ∈ parts.names, Foreign parts.names (spellingOf parts.names name) ∧
      ∀ q, r.questionPrompt q = (.error (.failure (notGiven name)), r') := by
  obtain ⟨name, hmem, hforeign, hfill⟩ := fill_foreign h
  refine ⟨name, hmem, hforeign, fun q => ?_⟩
  rw [questionPrompt_of_entry hentry, htext, fillIn, hread]
  dsimp only
  rw [hfill q]
  rfl

end Prompt.Registry

end SpanQuest
