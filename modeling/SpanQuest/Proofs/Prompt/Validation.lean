/-
  What validation of a registry says.

  Validation goes through the prompts that a registry holds, and says which required
  ones are missing, which templates are blank and which are malformed
  (`Complaint`).  It asks every template for its blanks, so that a template that is
  no text, such as null in a file, ends it with a fault, and no list is returned.

  * `Verdict`: what validation answers;
  * `verdict_validate`: it answers just that;
  * `Asks`: what becomes of questions, once validation has nothing to say;
  * `validate_outcomes`: both, for a file that is read and whatever is registered;
  * `validate_nullTemplate`: a file with a template that is null.
-/
import SpanQuest.Proofs.Prompt.Filling
import SpanQuest.Proofs.Prompt.Loading

namespace SpanQuest.Prompt

/-! ## Complaints -/

/-- The template is a text. -/
def Entry.IsText (e : Entry) : Prop :=
  ∃ source, e.template = .text source

/-- **What is wrong with a prompt**, in the words of validation. -/
inductive Entry.Complaint (name : String) (e : Entry) : String → Prop where
  | blank {source : String} (htext : e.template = .text source)
      (hblank : Text.allBlank source = true) :
      Complaint name e s!"Prompt '{name}' has empty template"
  | malformed {source : String} (htext : e.template = .text source)
      (hread : Template.read? source = none) :
      Complaint name e s!"Prompt '{name}' has invalid Jinja2 syntax"

/-- **What is wrong with prompts**, in the words of validation. -/
inductive Complaint (entries : Mapping Entry) : String → Prop where
  | missing (h : Mapping.has parseQuestion entries = false) :
      Complaint entries s!"Missing required prompts: {Registry.showNames [parseQuestion]}"
  | prompt {name : String} {e : Entry} {said : String} (hmem : (name, e) ∈ entries)
      (h : e.Complaint name said) : Complaint entries said

/-- **What validation answers** about prompts: what is wrong with them, unless the
    template of one is no text; the first such template is a fault. -/
inductive Verdict (entries : Mapping Entry) : Except Trouble (List String) → Prop where
  | said {messages : List String} (htexts : ∀ p ∈ entries, p.2.IsText)
      (hmessages : ∀ m, m ∈ messages ↔ Complaint entries m) : Verdict entries (.ok messages)
  | fault {before after : List (String × Entry)} {name : String} {e : Entry}
      (hentries : entries = before ++ (name, e) :: after) (hbefore : ∀ p ∈ before, p.2.IsText)
      (he : ¬ e.IsText) :
      Verdict entries (.error (.fault (.noMember e.template.kindName "strip")))

namespace Registry

variable {r r' : Registry} {entries : Mapping Entry} {name : String} {e : Entry}

theorem complaintsOf_text (name : String) {source : String} (htext : e.template = .text source) :
    ∃ said, complaintsOf name e = .ok said ∧ ∀ m, m ∈ said ↔ e.Complaint name m := by
  unfold complaintsOf
  rw [htext]
  refine ⟨_, rfl, fun m => ?_⟩
  rw [List.mem_append]
  constructor
  · rintro (hm | hm)
    · cases hblank : Text.allBlank source <;> simp [hblank] at hm
      exact hm ▸ .blank htext hblank
    · cases hread : Template.read? source <;> simp [hread] at hm
      exact hm ▸ .malformed htext hread
  · rintro (⟨htext', hblank⟩ | ⟨htext', hread⟩)
    · cases htext.symm.trans htext'
      exact .inl (by simp [hblank])
    · cases htext.symm.trans htext'
      exact .inr (by simp [hread])

/-- What is no text has no complaints, but is a fault. -/
theorem complaintsOf_other (h : ¬ e.IsText) :
    complaintsOf name e = .error (.noMember e.template.kindName "strip") := by
  unfold complaintsOf
  split
  · next source htext => exact absurd ⟨source, htext⟩ h
  · rfl

/-- **Texts have the complaints that are said about them.** -/
theorem complaints_texts (h : ∀ p ∈ entries, p.2.IsText) :
    ∃ said, complaints entries = .ok said ∧
      ∀ m, m ∈ said ↔ ∃ p ∈ entries, p.2.Complaint p.1 m := by
  induction entries with
  | nil => exact ⟨[], rfl, by simp⟩
  | cons p entries ih =>
    obtain ⟨source, htext⟩ := h p (List.mem_cons_self ..)
    obtain ⟨said, hsaid, hmem⟩ := complaintsOf_text p.1 htext
    obtain ⟨rest, hrest, hmems⟩ := ih fun q hq => h q (List.mem_cons_of_mem _ hq)
    refine ⟨said ++ rest, ?_, fun m => ?_⟩
    · unfold complaints
      rw [hsaid, hrest]
      rfl
    · simp [hmem, hmems]

theorem complaints_other {before after : List (String × Entry)}
    (hbefore : ∀ p ∈ before, p.2.IsText) (he : ¬ e.IsText) :
    complaints (before ++ (name, e) :: after) =
      .error (.noMember e.template.kindName "strip") := by
  induction before with
  | nil =>
    rw [List.nil_append, complaints, complaintsOf_other he]
  | cons p before ih =>
    obtain ⟨source, htext⟩ := hbefore p (List.mem_cons_self ..)
    obtain ⟨said, hsaid, -⟩ := complaintsOf_text p.1 htext
    rw [List.cons_append, complaints, hsaid, ih fun q hq => hbefore q (List.mem_cons_of_mem _ hq)]
    rfl

theorem texts_or_first (entries : Mapping Entry) :
    (∀ p ∈ entries, p.2.IsText) ∨ ∃ before name e after,
      entries = before ++ (name, e) :: after ∧ (∀ p ∈ before, p.2.IsText) ∧ ¬ e.IsText := by
  induction entries with
  | nil => exact .inl (by simp)
  | cons p entries ih =>
    by_cases hp : p.2.IsText
    · obtain htexts | ⟨before, name, e, after, rfl, hbefore, he⟩ := ih
      · exact .inl (List.forall_mem_cons.2 ⟨hp, htexts⟩)
      · exact .inr ⟨p :: before, name, e, after, rfl, List.forall_mem_cons.2 ⟨hp, hbefore⟩, he⟩
    · exact .inr ⟨[], p.1, p.2, entries, rfl, by simp, hp⟩

theorem missing_required (entries : Mapping Entry) :
    (required.filter fun n => !Mapping.has n entries) =
      if Mapping.has parseQuestion entries then [] else [parseQuestion] := by
  unfold required
  cases h : Mapping.has parseQuestion entries <;> simp [h]

/-- **Validation answers as its verdict says**, once the registry was read. -/
theorem verdict_validate (hload : r.load = (none, r')) : Verdict r'.entries r.validate.1 := by
  unfold validate afterLoad
  rw [hload]
  dsimp only
  rw [missing_required]
  obtain htexts | ⟨before, name, e, after, hentries, hbefore, he⟩ := texts_or_first r'.entries
  · obtain ⟨said, hsaid, hmem⟩ := complaints_texts htexts
    rw [hsaid]
    refine .said htexts fun m => ?_
    rw [List.mem_append, hmem]
    constructor
    · rintro (hm | ⟨p, hp, hm⟩)
      · cases hhas : Mapping.has parseQuestion r'.entries <;> simp [hhas] at hm
        exact hm ▸ .missing hhas
      · exact .prompt hp hm
    · rintro (hhas | ⟨hp, hm⟩)
      · exact .inl (by simp [hhas])
      · exact .inr ⟨_, hp, hm⟩
  · rw [hentries, complaints_other hbefore he]
    exact .fault rfl hbefore he

/-! ## Questions -/

/-- **What becomes of questions**: each is put into the prompt, unless its template has
    a variable that is not given, which is not the question. -/
structure Asks (r : Registry) (parts : Template) : Prop where
  given : (∀ name, ¬ Template.Foreign parts.names name) →
    ∀ q, (r.questionPrompt q).1 = .ok (String.ofList (q.toList.intercalate parts.segments))
  lacking : ∀ other, Template.Foreign parts.names other → ∃ name ∈ parts.names,
    ∀ q, (r.questionPrompt q).1 = .error (.failure (notGiven name))

theorem asks_of_no_complaint (hload : r.load = (none, r'))
    (htexts : ∀ p ∈ r'.entries, p.2.IsText) (h : ∀ m, ¬ Complaint r'.entries m) :
    ∃ e source parts, Mapping.get? parseQuestion r'.entries = some e ∧
      e.template = .text source ∧ Template.read? source = some parts ∧ Asks r parts := by
  have hhas : Mapping.has parseQuestion r'.entries = true :=
    Bool.of_not_eq_false fun hmissing => h _ (.missing hmissing)
  obtain ⟨e, he⟩ := Option.isSome_iff_exists.1 hhas
  have hmem := Mapping.mem_of_get? he
  obtain ⟨source, htext⟩ := htexts _ hmem
  have hread : Template.read? source ≠ none :=
    fun hread => h _ (.prompt hmem (.malformed htext hread))
  obtain ⟨parts, hparts⟩ := Option.ne_none_iff_exists'.1 hread
  have hentry : r.entry parseQuestion = (.ok e, r') := by
    simp only [entry, afterLoad, hload, he]
  refine ⟨e, source, parts, he, htext, hparts, fun hgiven q => ?_, fun other hother => ?_⟩
  · rw [questionPrompt_given hentry htext hparts hgiven]
  · obtain ⟨name, hname, -, hprompt⟩ := questionPrompt_foreign hentry htext hparts ⟨other, hother⟩
    exact ⟨name, hname, fun q => by rw [hprompt q]⟩

/-! ## Files and registers -/

/-- Prompts are registered, one after another. -/
def registers (registered : List (String × Entry)) : List RegistryEvent :=
  registered.map fun p => .use (.register p.1 p.2)

theorem putsOf_registers (registered : List (String × Entry)) :
    putsOf (registers registered) = registered := by
  induction registered with
  | nil => rfl
  | cons p registered ih => exact congrArg (p :: ·) ih

/-- **What a registry holds** after registers: the prompts of the file, overridden by
    those that were registered. -/
theorem load_of_registers {source : Source} {own : List (String × Entry)}
    (hread : source.read = (none, own)) (registered : List (String × Entry)) :
    ∃ after, ((ofSource source).run (registers registered)).load = (none, after) ∧
      after.entries = Mapping.putAll [] (own ++ registered) := by
  rcases registered with _ | ⟨p, registered⟩
  · have hload := load_of_unread (r := ofSource source) rfl
    rw [show (ofSource source).source = source from rfl, hread] at hload
    exact ⟨_, hload, by rw [List.append_nil]; rfl⟩
  · have hfirst : (ofSource source).step (.use (.register p.1 p.2)) =
        { ofSource source with entries := Mapping.putAll [] (own ++ [p]), loaded := true } :=
      perform_of_read rfl rfl hread
    obtain ⟨hloaded, hentries⟩ := run_of_loaded
      (r := (ofSource source).step (.use (.register p.1 p.2))) (by rw [hfirst])
      (registers registered)
    refine ⟨_, load_of_loaded hloaded, hentries.trans ?_⟩
    rw [hfirst, putsOf_registers, ← Mapping.putAll_append, List.append_assoc]
    rfl

/-- **What validation says**, for a file that is read and whatever is registered.  It
    says which prompts are missing, blank or malformed, unless the template of one is
    no text.  If it says nothing, each question is put into the prompt, unless its
    template has a variable that is not given. -/
theorem validate_outcomes {source : Source} {own : List (String × Entry)}
    (hread : source.read = (none, own)) (registered : List (String × Entry)) :
    Verdict (Mapping.putAll [] (own ++ registered))
        ((ofSource source).run (registers registered)).validate.1 ∧
      (((ofSource source).run (registers registered)).validate.1 = .ok [] →
        ∃ e text parts,
          Mapping.get? parseQuestion (Mapping.putAll [] (own ++ registered)) = some e ∧
          e.template = .text text ∧ Template.read? text = some parts ∧
          Asks ((ofSource source).run (registers registered)) parts) := by
  obtain ⟨after, hload, hentries⟩ := load_of_registers hread registered
  have hverdict := verdict_validate hload
  rw [← hentries]
  refine ⟨hverdict, fun hnothing => ?_⟩
  rw [hnothing] at hverdict
  cases hverdict with
  | said htexts hmessages =>
    refine asks_of_no_complaint hload htexts fun m hm => ?_
    exact absurd ((hmessages m).2 hm) (List.not_mem_nil)

/-- A file whose question prompt has no template, and a malformed one. -/
def sparseFile : Source :=
  .content (.object [("prompts", .object [(parseQuestion, .object [("version", .int 2)]),
    ("greeting", .text "Hello \x7b\x7b")])])

/-- What that file lacks. -/
def askingPrompt : List (String × Entry) :=
  [(parseQuestion, ⟨.text "Ask: \x7b\x7b question \x7d\x7d", .int 1⟩)]

def greetingPrompt : List (String × Entry) :=
  [("greeting", ⟨.text "Hello \x7b\x7b name \x7d\x7d", .int 1⟩)]

/-- Validation says what is wrong with that file, and nothing once both were mended;
    then the question is put after the text. -/
theorem validate_outcomes_sparse :
    sparseFile.read = (none, [(parseQuestion, ⟨.text "", .int 2⟩),
      ("greeting", ⟨.text "Hello \x7b\x7b", .int 1⟩)]) ∧
    ((ofSource sparseFile).run (registers [])).validate.1 =
      .ok ["Prompt 'parse_question' has empty template",
        "Prompt 'greeting' has invalid Jinja2 syntax"] ∧
    ((ofSource sparseFile).run (registers (askingPrompt ++ greetingPrompt))).validate.1 = .ok [] ∧
    Asks ((ofSource sparseFile).run (registers (askingPrompt ++ greetingPrompt)))
      [.literal "Ask: ".toList, .place "question"] := by
  have hread : sparseFile.read = (none, [(parseQuestion, ⟨.text "", .int 2⟩),
      ("greeting", ⟨.text "Hello \x7b\x7b", .int 1⟩)]) := rfl
  have hmended : ((ofSource sparseFile).run
      (registers (askingPrompt ++ greetingPrompt))).validate.1 = .ok [] := rfl
  obtain ⟨-, hnothing⟩ := validate_outcomes hread (askingPrompt ++ greetingPrompt)
  obtain ⟨e, text, parts, he, htext, hparts, hasks⟩ := hnothing hmended
  obtain rfl : (⟨.text "Ask: \x7b\x7b question \x7d\x7d", .int 1⟩ : Entry) = e := Option.some.inj he
  obtain rfl : "Ask: \x7b\x7b question \x7d\x7d" = text := Json.text.inj htext
  obtain rfl : [.literal "Ask: ".toList, .place "question"] = parts := Option.some.inj hparts
  exact ⟨hread, rfl, hmended, hasks⟩

def nullTemplate : Source :=
  .content (.object [("prompts", .object [(parseQuestion, .object [("template", .null)])])])

/-- **A template that is null**: the file is read, and validation returns no list. -/
theorem validate_nullTemplate :
    nullTemplate.read = (none, [(parseQuestion, ⟨.null, .int 1⟩)]) ∧
    ((ofSource nullTemplate).run (registers [])).validate.1 =
      .error (.fault (.noMember "NoneType" "strip")) :=
  ⟨rfl, rfl⟩

end Registry

end SpanQuest.Prompt
