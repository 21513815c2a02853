/-
  Which credential a request has.

  A credential comes from the caller, from a variable or from the saved
  settings, in this order.  The first text that is not empty is taken, but only
  one with a character that is not blank is a credential.  So a text of blanks
  stands before a later one that could be used (`Shadowed`), and the request
  lacks a credential although a source has one.

  * `firstGiven?`, `firstUsable?`: the text that is taken, and the one that is
    looked for;
  * `Profile.configure_eq`: what a request is configured with;
  * `Profile.configure_credential`: the best credential is taken exactly if none
    is shadowed;
  * `Profile.configure_blankKey`: a text of blanks that shadows a credential.
-/
import SpanQuest.Backend.Gateway
import SpanQuest.Environment.Profile
import SpanQuest.Proofs.Storage.Standing

namespace SpanQuest

/-! ## Sources -/

section

variable {sources : List (Option String)} {key : String}

/-- The first of the texts that is not empty. -/
def firstGiven? (sources : List (Option String)) : Option String :=
  sources.findSome? (Option.filter fun s => !s.isEmpty)

/-- The first of the texts with a character that is not blank. -/
def firstUsable? (sources : List (Option String)) : Option String :=
  sources.findSome? (Option.filter Text.hasInk)

/-- The text that is taken has no character that is not blank, but another has. -/
def Shadowed (sources : List (Option String)) : Prop :=
  (∃ key, firstGiven? sources = some key ∧ Text.hasInk key = false) ∧
    (firstUsable? sources).isSome = true

theorem firstUsable?_of_given_none (h : firstGiven? sources = none) :
    firstUsable? sources = none := by
  refine List.findSome?_eq_none_iff.2 fun source hsource => ?_
  have hgiven := List.findSome?_eq_none_iff.1 h source hsource
  rw [Option.filter_eq_none_iff] at hgiven ⊢
  intro key hkey hink
  exact hgiven key hkey (by rw [Text.isEmpty_of_hasInk hink]; rfl)

/-- **The text that is given first is the one to use**, if it can be used. -/
theorem firstUsable?_of_given (h : firstGiven? sources = some key)
    (hink : Text.hasInk key = true) : firstUsable? sources = some key := by
  induction sources with
  | nil => cases h
  | cons source rest ih =>
    unfold firstGiven? at h
    unfold firstUsable?
    rw [List.findSome?_cons] at h ⊢
    rcases hgiven : source.filter (fun s => !s.isEmpty) with _ | given
    · -- a source that gives nothing has nothing to use either
      have hnone : source.filter Text.hasInk = none := by
        have hone : firstUsable? [source] = none :=
          firstUsable?_of_given_none (by simpa [firstGiven?] using hgiven)
        simpa [firstUsable?] using hone
      rw [hgiven] at h
      rw [hnone]
      exact ih h
    · rw [hgiven] at h
      cases h
      have hsource : source = some key := (Option.filter_eq_some_iff.1 hgiven).1
      rw [hsource, Option.filter_some, if_pos hink]

end

/-! ## Settings -/

/-- What a caller gives for one request, as texts. -/
structure Given where
  model : Option String := none
  apiKey : Option String := none
  baseUrl : Option String := none
  localModel : Option String := none

/-- What the caller gives, as the values of a request. -/
def Given.overrides (g : Given) : Overrides :=
  ⟨.ofOption g.model, .ofOption g.apiKey, .ofOption g.baseUrl, .ofOption g.localModel⟩

/-- A text that a mapping holds. -/
def textAt (key : String) (data : Mapping Json) : Option String :=
  (Mapping.get? key data).bind Json.text?

/-- **What the saved settings hold**: a credential and an address, if there are
    settings and they hold them. -/
inductive Saves : Option Shelf → Option String → Option String → Prop where
  | nowhere : Saves none none none
  | somewhere {s : Shelf} {data : Mapping Json} (hs : s.Stands data) (htidy : Tidy data) :
      Saves (some s) (textAt Settings.apiKeyKey data) (textAt Settings.urlKey data)

/-! ## Values -/

namespace Json

@[simp] theorem orElse_assoc (u v w : Json) : (u.orElse v).orElse w = u.orElse (v.orElse w) := by
  cases hu : u.isTruthy <;> simp [orElse, hu]

/-- **The first text that is given**, or else another value. -/
theorem foldr_orElse (sources : List (Option String)) (v : Json) :
    sources.foldr (fun source rest => (ofOption source).orElse rest) v =
      ((firstGiven? sources).map text).getD v := by
  induction sources with
  | nil => rfl
  | cons source rest ih =>
    unfold firstGiven? at ih ⊢
    rw [List.foldr_cons, List.findSome?_cons, ih]
    rcases source with _ | s
    · rfl
    · rw [Option.filter_some]
      cases hs : s.isEmpty <;> simp [ofOption, orElse, isTruthy, hs]

theorem getD_null (source : Option String) : (source.map text).getD null = ofOption source := by
  cases source <;> rfl

theorem orElse_text (source : Option String) (other : String) :
    (ofOption source).orElse (.text other) = .text ((firstGiven? [source]).getD other) :=
  (foldr_orElse [source] (.text other)).trans (Option.getD_map ..)

end Json

@[simp] theorem ClientConfig.textField_ofOption (name : String) (source : Option String) :
    textField name (.ofOption source) = .ok source := by
  cases source <;> rfl

namespace Settings

theorem getD_present (saved : Option String) (v : Json) :
    (present (saved.map Json.text)).getD v = (Json.ofOption saved).orElse v := by
  rcases saved with _ | s
  · rfl
  · rw [Option.map_some, present, Option.filter_some]
    cases hs : s.isEmpty <;> simp [Json.ofOption, Json.orElse, Json.isTruthy, hs]

end Settings

theorem Tidy.get?_eq_textAt {data : Mapping Json} (h : Tidy data) (key : String) :
    Mapping.get? key data = (textAt key data).map Json.text := by
  unfold textAt
  rcases hv : Mapping.get? key data with _ | v
  · rfl
  · obtain ⟨s, rfl⟩ := h.get?_eq_text hv
    rfl

/-! ## Configurations -/

namespace Standing

variable {s : Shelf} {data : Mapping Json}

theorem get_text (hs : s.Stands data) (htidy : Tidy data) (key : String) :
    ∃ after, s.get key = (.ok ((textAt key data).map Json.text), after) ∧ after.Stands data := by
  obtain ⟨hanswer, hafter⟩ := hs.get key
  refine ⟨(s.get key).2, ?_, hafter⟩
  rw [← htidy.get?_eq_textAt, ← hanswer]

theorem savedKey_stands (hs : s.Stands data) (htidy : Tidy data) :
    ∃ after, savedKey s =
      (.ok ((Json.ofOption (textAt Settings.apiKeyKey data)).orElse .null), after) ∧
        after.Stands data := by
  obtain ⟨after, hget, hafter⟩ := get_text hs htidy Settings.apiKeyKey
  refine ⟨after, ?_, hafter⟩
  unfold savedKey Settings.apiKey
  rw [hget, ← Settings.getD_present]

theorem savedUrl_stands (hs : s.Stands data) (htidy : Tidy data) :
    ∃ after, Settings.url s =
      (.ok ((Json.ofOption (textAt Settings.urlKey data)).orElse (.text ClientConfig.localUrl)),
        after) ∧ after.Stands data := by
  obtain ⟨after, hget, hafter⟩ := get_text hs htidy Settings.urlKey
  refine ⟨after, ?_, hafter⟩
  unfold Settings.url
  rw [hget, ← Settings.getD_present]

theorem orSaved_stands (given : Json) {v : Json} {saved : Shelf → Except Fault Json × Shelf}
    (hs : s.Stands data)
    (hsaved : ∃ after, saved s = (.ok v, after) ∧ after.Stands data) :
    ∃ after, orSaved given saved s = (.ok (given.orElse v), after) ∧ after.Stands data := by
  unfold orSaved Json.orElse
  cases given.isTruthy with
  | true => exact ⟨s, rfl, hs⟩
  | false => exact hsaved

end Standing

namespace Profile

/-- The configuration of a request, with the settings of a store or without. -/
def configure (p : Profile) (o : Overrides) : Option Shelf → Except Trouble ClientConfig
  | none => p.standing.plainConfig o
  | some s => (p.clientConfig o s).1

theorem configOf_texts (p : Profile) (g : Given) {key url : Json} {k u : Option String}
    (hkey : key.orElse .null = .ofOption k)
    (hurl : url.orElse (.text ClientConfig.localUrl) = .ofOption u) :
    p.standing.configOf g.overrides key url =
      match ModelIdentity.ofName? ((firstGiven? [g.model]).getD p.model) with
      | none => .error (.failure (.unknownModel ((firstGiven? [g.model]).getD p.model)))
      | some m => .ok ⟨.known m, k, u, some ((firstGiven? [g.localModel]).getD p.localModel)⟩ := by
  have hmodel := Json.orElse_text g.model p.model
  have hname := Json.orElse_text g.localModel p.localModel
  have hname' : Json.text ((firstGiven? [g.localModel]).getD p.localModel) =
    .ofOption (some ((firstGiven? [g.localModel]).getD p.localModel)) := rfl
  unfold Json.orElse at hkey
  unfold Standing.configOf standing Given.overrides ClientConfig.check
  dsimp only
  rw [hmodel, hname, hname', hkey, hurl]
  simp only [ClientConfig.textField_ofOption, Option.getD_some, ModelIdentity.ofJson?]
  rfl

/-- **What a request is configured with**: each value of the caller before the one
    of the profile, and this before the saved one. -/
theorem configure_eq {settings : Option Shelf} {savedKey savedUrl : Option String}
    (h : Saves settings savedKey savedUrl) (p : Profile) (g : Given) :
    p.configure g.overrides settings =
      match ModelIdentity.ofName? ((firstGiven? [g.model]).getD p.model) with
      | none => .error (.failure (.unknownModel ((firstGiven? [g.model]).getD p.model)))
      | some m => .ok {
        model := .known m
        apiKey := firstGiven? [g.apiKey, p.apiKey, savedKey]
        baseUrl := some ((firstGiven? [g.baseUrl, p.localUrl, savedUrl]).getD ClientConfig.localUrl)
        localModel := some ((firstGiven? [g.localModel]).getD p.localModel) } := by
  have hkey (saved : Option String) : (Json.ofOption g.apiKey).orElse
      ((Json.ofOption p.apiKey).orElse ((Json.ofOption saved).orElse .null)) =
        .ofOption (firstGiven? [g.apiKey, p.apiKey, saved]) :=
    (Json.foldr_orElse [g.apiKey, p.apiKey, saved] .null).trans (Json.getD_null _)
  have hurl (saved : Option String) : (Json.ofOption g.baseUrl).orElse
      ((Json.ofOption p.localUrl).orElse
        ((Json.ofOption saved).orElse (.text ClientConfig.localUrl))) =
        .text ((firstGiven? [g.baseUrl, p.localUrl, saved]).getD ClientConfig.localUrl) :=
    (Json.foldr_orElse [g.baseUrl, p.localUrl, saved] _).trans (Option.getD_map ..)
  cases h with
  | nowhere =>
    refine p.configOf_texts g ?_ ?_
    · exact (Json.orElse_assoc _ _ _).trans (hkey none)
    · exact (Json.orElse_assoc _ _ _).trans (hurl none)
  | @somewhere s data hs htidy =>
    obtain ⟨s', hfirst, hs'⟩ := Standing.orSaved_stands (p.standing.givenKey g.overrides) hs
      (Standing.savedKey_stands hs htidy)
    obtain ⟨s'', hsecond, -⟩ := Standing.orSaved_stands (p.standing.givenUrl g.overrides) hs'
      (Standing.savedUrl_stands hs' htidy)
    unfold configure clientConfig Standing.clientConfig
    dsimp only
    rw [hfirst]
    dsimp only
    rw [hsecond]
    refine p.configOf_texts g ?_ ?_
    · simp only [Standing.givenKey, Json.orElse_assoc]
      exact hkey _
    · simp only [Standing.givenUrl, Json.orElse_assoc]
      exact hurl _

theorem apiKey_of_ofEnvironment {env : Environment} {p : Profile}
    (h : ofEnvironment env = .ok p) : p.apiKey = nonEmpty? env "OPENAI_API_KEY" := by
  unfold ofEnvironment at h
  simp only [bind, Except.bind, pure, Except.pure] at h
  split at h
  · cases h
  split at h
  · cases h
  split at h
  · cases h
  · cases h
    rfl

theorem ofEnvironment_of_load {disk : Disk} {env env' : Environment} {asked : Option String}
    {p : Profile} (h : load disk env asked = .ok (p, env')) : ofEnvironment env' = .ok p := by
  unfold load at h
  rcases hloaded : loadVariables disk env asked with f | loaded
  · rw [hloaded] at h
    cases h
  rcases hprofile : ofEnvironment loaded with f | q
  · simp [bind, Except.bind, Except.mapError, hloaded, hprofile] at h
  · simp [bind, Except.bind, Except.mapError, pure, Except.pure, hloaded, hprofile] at h
    rw [← h.1, ← h.2, hprofile]

end Profile

/-! ## Credentials -/

section

variable {sources : List (Option String)} {config : ClientConfig}

/-- **The configuration has the best credential**: it has one exactly if a source has
    one, and then it is that of the first such source. -/
def HasBest (sources : List (Option String)) (config : ClientConfig) : Prop :=
  (config.hasCredential = true ↔ (firstUsable? sources).isSome = true) ∧
    ∀ key, firstUsable? sources = some key → config.apiKey = some key

/-- A configuration lacks a credential where no source has one, and where one is
    shadowed. -/
theorem hasCredential_eq_false_iff (h : config.apiKey = firstGiven? sources) :
    config.hasCredential = false ↔ firstUsable? sources = none ∨ Shadowed sources := by
  unfold ClientConfig.hasCredential
  rw [h]
  rcases hgiven : firstGiven? sources with _ | key
  · simp [firstUsable?_of_given_none hgiven]
  dsimp only
  cases hink : Text.hasInk key with
  | true => simp [Shadowed, hgiven, hink, firstUsable?_of_given hgiven hink]
  | false =>
    rcases hbest : firstUsable? sources with _ | best
    · simp
    · simp [Shadowed, hgiven, hink, hbest]

/-- **The best credential is taken exactly if none is shadowed.** -/
theorem hasBest_iff (h : config.apiKey = firstGiven? sources) :
    HasBest sources config ↔ ¬ Shadowed sources := by
  constructor
  · rintro ⟨hboth, -⟩ hshadowed
    have hlacks := (hasCredential_eq_false_iff h).2 (Or.inr hshadowed)
    rw [hboth.2 hshadowed.2] at hlacks
    cases hlacks
  · intro hclear
    have hlacks : config.hasCredential = false ↔ firstUsable? sources = none :=
      (hasCredential_eq_false_iff h).trans (or_iff_left hclear)
    refine ⟨?_, fun key hkey => ?_⟩
    · rw [Option.isSome_iff_ne_none, Ne, ← hlacks, Bool.not_eq_false]
    · rw [h]
      rcases hgiven : firstGiven? sources with _ | given
      · rw [firstUsable?_of_given_none hgiven] at hkey
        cases hkey
      cases hink : Text.hasInk given with
      | true => rw [← firstUsable?_of_given hgiven hink, hkey]
      | false => exact absurd ⟨⟨given, hgiven, hink⟩, by rw [hkey]; rfl⟩ hclear

end

/-! ## Requests -/

/-- What becomes of the credential of a request, where the sources can have one. -/
structure Credits (sources : List (Option String)) (m : ModelIdentity) (config : ClientConfig) :
    Prop where
  model : config.model = .known m
  key : config.apiKey = firstGiven? sources
  /-- It is the best one, unless one is shadowed. -/
  best : HasBest sources config ↔ ¬ Shadowed sources
  /-- A hosted model is refused where no source has one, and where one is shadowed. -/
  refused : m.isHosted = true → (Gateway.validate config = .error .missingCredential ↔
    firstUsable? sources = none ∨ Shadowed sources)

theorem validate_missing_iff {config : ClientConfig} {m : ModelIdentity}
    (hm : config.model = .known m) (hhosted : m.isHosted = true) :
    Gateway.validate config = .error .missingCredential ↔ config.hasCredential = false := by
  unfold Gateway.validate
  rw [hm]
  dsimp only
  rw [hhosted]
  cases config.hasCredential <;> simp

namespace Profile

/-- **The credential of a request**, for every profile that was read from an
    environment, with saved settings and without.  A request is configured exactly
    if its model is known, and then with the first credential that is given. -/
theorem configure_credential {disk : Disk} {env env' : Environment} {asked : Option String}
    {p : Profile} {settings : Option Shelf} {savedKey savedUrl : Option String}
    (hload : load disk env asked = .ok (p, env')) (hsaved : Saves settings savedKey savedUrl)
    (g : Given) :
    match ModelIdentity.ofName? ((firstGiven? [g.model]).getD p.model) with
    | none => p.configure g.overrides settings =
        .error (.failure (.unknownModel ((firstGiven? [g.model]).getD p.model)))
    | some m => ∃ config, p.configure g.overrides settings = .ok config ∧
        Credits [g.apiKey, Mapping.get? "OPENAI_API_KEY" env', savedKey] m config := by
  have hkey : firstGiven? [g.apiKey, p.apiKey, savedKey] =
      firstGiven? [g.apiKey, Mapping.get? "OPENAI_API_KEY" env', savedKey] := by
    rw [apiKey_of_ofEnvironment (ofEnvironment_of_load hload)]
    simp [firstGiven?, nonEmpty?, List.findSome?_cons]
  rw [configure_eq hsaved]
  rcases ModelIdentity.ofName? ((firstGiven? [g.model]).getD p.model) with _ | m
  · rfl
  · refine ⟨_, rfl, rfl, hkey, hasBest_iff hkey, fun hhosted => ?_⟩
    rw [validate_missing_iff rfl hhosted]
    exact hasCredential_eq_false_iff hkey

/-- A profile with a credential in the environment. -/
def keyed : Profile := { apiKey := some "sk-env" }

/-- The variables that it is read from. -/
def keyedVariables : Environment := [("OPENAI_API_KEY", "sk-env")]

theorem splitOn_dotenv : ".env".splitOn "/" = [".env"] := by
  unfold String.splitOn
  rw [if_neg (by decide)]
  iterate 4 rw [String.splitOnAux, if_neg (by decide), if_neg (by decide)]
  rw [String.splitOnAux, if_pos (by decide)]
  decide

theorem ofText_dotenv : VariableFile.ofText ".env" = ⟨⟨false, [".env"]⟩, false⟩ := by
  unfold VariableFile.ofText Path.ofText
  rw [splitOn_dotenv]
  decide

theorem candidates_dotenv (env : Environment) :
    candidates env (some ".env") = .ok [⟨⟨false, [".env"]⟩, false⟩] := by
  rw [← ofText_dotenv]
  rfl

theorem load_keyed : load .empty keyedVariables (some ".env") = .ok (keyed, keyedVariables) := by
  unfold load loadVariables
  rw [candidates_dotenv]
  rfl

/-- Settings with a credential. -/
def keyedShelf : Shelf := ⟨.memory [(Settings.apiKeyKey, .text "sk-saved")], .empty⟩

theorem saves_keyedShelf : Saves (some keyedShelf) (some "sk-saved") none :=
  have htidy : Tidy [(Settings.apiKeyKey, .text "sk-saved")] := ⟨by decide, by simp⟩
  .somewhere (.memory rfl htidy.distinct) htidy

/-- A caller who gives a blank for the credential of a hosted model. -/
def blankKey : Given := { model := some "openai-gpt4", apiKey := some " " }

/-- The credential of the environment goes before the saved one. -/
theorem configure_credential_keyed :
    load .empty keyedVariables (some ".env") = .ok (keyed, keyedVariables) ∧
    Saves (some keyedShelf) (some "sk-saved") none ∧
    ∃ config, keyed.configure (Given.overrides { model := some "openai-gpt4" }) (some keyedShelf) =
        .ok config ∧
      Credits [none, some "sk-env", some "sk-saved"] .gpt4 config ∧
      HasBest [none, some "sk-env", some "sk-saved"] config := by
  have hclear : ¬ Shadowed [none, some "sk-env", some "sk-saved"] := by
    rintro ⟨⟨key, hkey, hblank⟩, -⟩
    have htaken : firstGiven? [none, some "sk-env", some "sk-saved"] = some "sk-env" := by decide
    obtain rfl : "sk-env" = key := Option.some.inj (htaken.symm.trans hkey)
    revert hblank
    decide
  obtain ⟨config, hconfig, hcredits⟩ :=
    configure_credential load_keyed saves_keyedShelf { model := some "openai-gpt4" }
  exact ⟨load_keyed, saves_keyedShelf, config, hconfig, hcredits, hcredits.best.2 hclear⟩

/-- **A blank shadows a credential**: the request is refused although the variable
    has one. -/
theorem configure_blankKey :
    firstUsable? [some " ", some "sk-env", some "sk-saved"] = some "sk-env" ∧
    ∃ config, keyed.configure blankKey.overrides (some keyedShelf) = .ok config ∧
      config.apiKey = some " " ∧ config.hasCredential = false ∧
      Gateway.validate config = .error .missingCredential := by
  refine ⟨by decide, _, configure_eq saves_keyedShelf keyed blankKey, rfl, rfl, rfl⟩

end Profile

end SpanQuest
