/-
  Variables that are empty.

  A variable may be there and be empty.  For the credential, the address of the local
  backend and the numbers that is the same as if it were not there; the texts are
  taken as they are, so that an empty one takes the place of its default
  (`Variable.emptied`).  A request without a model of its own is then refused, and
  one for the local backend names no model to it; nothing else about a request
  changes (`Variable.emptiedConfig`).

  * `ofEnvironment_put_empty`: the profile where a variable is empty, from the one
    where it is missing;
  * `configure_emptied`: and the configuration of every request;
  * `load_emptyVariable`: both, for every environment without a file of variables,
    and when they are the same;
  * `load_emptyModel`: an empty model.
-/
import SpanQuest.Proofs.Environment.Assignments

namespace SpanQuest

/-! ## Variables -/

/-- A variable that a profile is read from. -/
inductive Variable where
  | model | apiKey | localUrl | localModel | timeout | lookback | limit | storePath | host
  | portNumber | logLevel
  deriving DecidableEq, Repr

namespace Variable

/-- The name of a variable. -/
def name : Variable → String
  | model => "TRACEQUERY_MODEL"
  | apiKey => "OPENAI_API_KEY"
  | localUrl => "OLLAMA_API_BASE"
  | localModel => "TRACEQUERY_OLLAMA_MODEL"
  | timeout => "TRACEQUERY_TIMEOUT"
  | lookback => "TRACEQUERY_LOOKBACK"
  | limit => "TRACEQUERY_LIMIT"
  | storePath => "TRACEQUERY_STORE"
  | host => "TRACEQUERY_HOST"
  | portNumber => "TRACEQUERY_PORT"
  | logLevel => "TRACEQUERY_LOG_LEVEL"

/-- Home is no variable of a profile, and there are no others. -/
example : Profile.variableNames = [model, apiKey, localUrl, localModel, timeout, lookback, limit,
    storePath, host, portNumber, logLevel].map name ++ ["HOME"] := rfl

/-- The part of a profile that is the text of the variable as it stands; none for a
    variable that is read otherwise, so that an empty one counts as missing. -/
def text? : Variable → Option (Profile → String)
  | model => some Profile.model
  | localModel => some Profile.localModel
  | lookback => some Profile.lookback
  | storePath => some Profile.storePath
  | host => some Profile.host
  | logLevel => some Profile.logLevel
  | apiKey | localUrl | timeout | limit | portNumber => none

/-- **The profile where a variable is empty**, from the one where it is missing. -/
def emptied (v : Variable) (p : Profile) : Profile :=
  match v with
  | model => { p with model := "" }
  | localModel => { p with localModel := "" }
  | lookback => { p with lookback := "" }
  | storePath => { p with storePath := "" }
  | host => { p with host := "" }
  | logLevel => { p with logLevel := "" }
  | apiKey | localUrl | timeout | limit | portNumber => p

/-- **The configuration of a request where a variable is empty**, from the one where it
    is missing. -/
def emptiedConfig (v : Variable) (g : Given) (config : Except Trouble ClientConfig) :
    Except Trouble ClientConfig :=
  match v with
  | model =>
    if firstGiven? [g.model] = none then .error (.failure (.unknownModel "")) else config
  | localModel =>
    if firstGiven? [g.localModel] = none then config.map fun c => { c with localModel := some "" }
    else config
  | _ => config

/-- That the variable is empty reaches a request: it decides about a model that the
    request does not give. -/
def Reaches (v : Variable) (p : Profile) (g : Given) : Prop :=
  match v with
  | model => firstGiven? [g.model] = none
  | localModel => firstGiven? [g.localModel] = none ∧
      (ModelIdentity.ofName? ((firstGiven? [g.model]).getD p.model)).isSome = true
  | _ => False

theorem text_emptied {v : Variable} {text : Profile → String} (h : v.text? = some text)
    (p : Profile) : text (v.emptied p) = "" := by
  cases v <;> cases h <;> rfl

theorem emptied_of_text?_none {v : Variable} (h : v.text? = none) (p : Profile) :
    v.emptied p = p := by
  cases v <;> first | rfl | cases h

theorem default_ne_empty {v : Variable} {text : Profile → String} (h : v.text? = some text) :
    text {} ≠ "" := by
  cases v <;> cases h <;> decide

end Variable

namespace Profile

/-! ## Reading a profile -/

variable {env : Environment} {name other : String} {v : Variable} {p : Profile}

theorem variableOr_put_of_ne (h : other ≠ name) (text : String) :
    variableOr (Mapping.put name "" env) other text = variableOr env other text := by
  unfold variableOr
  rw [Mapping.get?_put_of_ne h]

theorem variableOr_put_self (text : String) : variableOr (Mapping.put name "" env) name text = "" := by
  unfold variableOr
  rw [Mapping.get?_put_self]
  rfl

theorem nonEmpty?_put_of_ne (h : other ≠ name) :
    nonEmpty? (Mapping.put name "" env) other = nonEmpty? env other := by
  unfold nonEmpty?
  rw [Mapping.get?_put_of_ne h]

/-- Where an empty variable counts as missing, it is the same as one that is. -/
theorem nonEmpty?_put_self (h : Mapping.get? name env = none) :
    nonEmpty? (Mapping.put name "" env) name = nonEmpty? env name := by
  unfold nonEmpty?
  rw [Mapping.get?_put_self, h]
  rfl

theorem numberOr_put_of_ne {α : Type} (h : other ≠ name) (x : α) (read : String → Option α) :
    numberOr (Mapping.put name "" env) other x read = numberOr env other x read := by
  unfold numberOr
  rw [nonEmpty?_put_of_ne h]

theorem numberOr_put_self {α : Type} (h : Mapping.get? name env = none) (x : α)
    (read : String → Option α) :
    numberOr (Mapping.put name "" env) name x read = numberOr env name x read := by
  unfold numberOr
  rw [nonEmpty?_put_self h]

/-- **The profile where a variable is empty.** -/
theorem ofEnvironment_put_empty (h : Mapping.get? v.name env = none) :
    ofEnvironment (Mapping.put v.name "" env) = (ofEnvironment env).map v.emptied := by
  unfold ofEnvironment
  cases v
  all_goals
    unfold Variable.name at h ⊢
    -- the variable is read in one place, so that the others read what they did
    simp (disch := first | decide | assumption) only [variableOr_put_of_ne, variableOr_put_self,
      nonEmpty?_put_of_ne, nonEmpty?_put_self, numberOr_put_of_ne, numberOr_put_self]
    rcases numberOr env "TRACEQUERY_TIMEOUT" _ _ with f | timeout
    · rfl
    rcases numberOr env "TRACEQUERY_LIMIT" _ _ with f | limit
    · rfl
    rcases numberOr env "TRACEQUERY_PORT" _ _ with f | portNumber <;> rfl

theorem text_of_ofEnvironment (h : ofEnvironment env = .ok p) {text : Profile → String}
    (htext : v.text? = some text) : text p = variableOr env v.name (text {}) := by
  unfold ofEnvironment at h
  simp only [bind, Except.bind, pure, Except.pure] at h
  split at h
  · cases h
  split at h
  · cases h
  split at h
  · cases h
  · cases h
    cases v <;> cases htext <;> rfl

theorem text_ne_empty (h : ofEnvironment env = .ok p) (hmissing : Mapping.get? v.name env = none)
    {text : Profile → String} (htext : v.text? = some text) : text p ≠ "" := by
  rw [text_of_ofEnvironment h htext, variableOr, hmissing]
  exact Variable.default_ne_empty htext

/-- **An empty variable makes the same profile** as a missing one, exactly if it is not
    taken as it stands. -/
theorem emptied_eq_iff (h : ofEnvironment env = .ok p)
    (hmissing : Mapping.get? v.name env = none) : v.emptied p = p ↔ v.text? = none := by
  refine ⟨fun hsame => ?_, fun hnone => Variable.emptied_of_text?_none hnone p⟩
  rcases htext : v.text? with _ | text
  · rfl
  · have hempty := Variable.text_emptied htext p
    rw [hsame] at hempty
    exact absurd hempty (text_ne_empty h hmissing htext)

/-! ## Configuring a request -/

variable {settings : Option Shelf} {savedKey savedUrl : Option String}

/-- **The configuration of a request where a variable is empty.** -/
theorem configure_emptied (hsaved : Saves settings savedKey savedUrl) (v : Variable) (p : Profile)
    (g : Given) : (v.emptied p).configure g.overrides settings =
      v.emptiedConfig g (p.configure g.overrides settings) := by
  rw [configure_eq hsaved, configure_eq hsaved]
  cases v with
  | model =>
    unfold Variable.emptiedConfig
    rcases firstGiven? [g.model] with _ | model <;> rfl
  | localModel =>
    unfold Variable.emptiedConfig
    dsimp only [Variable.emptied]
    rcases ModelIdentity.ofName? ((firstGiven? [g.model]).getD p.model) with _ | m <;>
      rcases firstGiven? [g.localModel] with _ | name <;> rfl
  | _ => rfl

/-- **The configuration of a request is the same** where a variable is empty and where it
    is missing, unless that reaches the request. -/
theorem configure_emptied_eq_iff (h : ofEnvironment env = .ok p)
    (hmissing : Mapping.get? v.name env = none) (hsaved : Saves settings savedKey savedUrl)
    (g : Given) : (v.emptied p).configure g.overrides settings = p.configure g.overrides settings ↔
      ¬ v.Reaches p g := by
  rw [configure_emptied hsaved, configure_eq hsaved]
  cases v with
  | model =>
    have hdefault : ModelIdentity.ofName? p.model = some .ollama := by
      rw [text_of_ofEnvironment (v := .model) h rfl, variableOr, hmissing]
      decide
    unfold Variable.emptiedConfig Variable.Reaches
    dsimp only
    rcases firstGiven? [g.model] with _ | model
    · simp [hdefault]
    · simp
  | localModel =>
    have hname : p.localModel ≠ "" := text_ne_empty (v := .localModel) h hmissing rfl
    unfold Variable.emptiedConfig Variable.Reaches
    dsimp only
    rcases ModelIdentity.ofName? ((firstGiven? [g.model]).getD p.model) with _ | m <;>
      rcases firstGiven? [g.localModel] with _ | name <;>
        simp [Except.map, Ne.symm hname]
  | _ => simp [Variable.emptiedConfig, Variable.Reaches]

/-! ## Loading a profile -/

variable {disk : Disk} {asked : Option String}

/-- There is no file of variables. -/
def Fileless (disk : Disk) (env : Environment) (asked : Option String) : Prop :=
  ∃ files, candidates env asked = .ok files ∧ ∀ file ∈ files, NoFile disk file

theorem firstFile?_eq_none {files : List VariableFile} (h : ∀ file ∈ files, NoFile disk file) :
    firstFile? disk files = .ok none := by
  induction files with
  | nil => rfl
  | cons file files ih =>
    have hrest := ih fun f hf => h f (List.mem_cons_of_mem _ hf)
    rcases h file (List.mem_cons_self ..) with hlook | hlook <;> simp [firstFile?, hlook, hrest]

theorem load_of_fileless (h : Fileless disk env asked) :
    load disk env asked = ((ofEnvironment env).mapError .failure).map fun p => (p, env) := by
  obtain ⟨files, hcandidates, hnone⟩ := h
  have hloaded : loadVariables disk env asked = .ok env := by
    unfold loadVariables
    rw [hcandidates]
    simp only [bind, Except.bind]
    rw [firstFile?_eq_none hnone]
    rfl
  unfold load
  simp only [hloaded, Except.mapError, bind, Except.bind]
  rcases ofEnvironment env with f | p <;> rfl

/-- Which files are the candidates depends on no variable of the profile. -/
theorem Fileless.put (h : Fileless disk env asked) (v : Variable) :
    Fileless disk (Mapping.put v.name "" env) asked := by
  have hhome : "HOME" ≠ v.name := by cases v <;> decide
  unfold Fileless candidates at h ⊢
  rwa [variableOr_put_of_ne hhome]

/-- **An empty variable.**  In every environment without a file of variables, a variable
    that is empty makes the profile that is emptied of it, which is the same profile
    exactly if the variable is not a text that is taken as it stands.  The
    configuration of a request is the same one unless the variable names the model,
    or the local model, and the request does not; then a request without a model is
    refused, and one without a local model names an empty one. -/
theorem load_emptyVariable (hfileless : Fileless disk env asked)
    (hmissing : Mapping.get? v.name env = none) :
    (∀ t, load disk env asked = .error t →
      load disk (Mapping.put v.name "" env) asked = .error t) ∧
    ∀ p env', load disk env asked = .ok (p, env') →
      load disk (Mapping.put v.name "" env) asked =
        .ok (v.emptied p, Mapping.put v.name "" env) ∧
      (v.emptied p = p ↔ v.text? = none) ∧
      ∀ settings savedKey savedUrl, Saves settings savedKey savedUrl → ∀ g : Given,
        (v.emptied p).configure g.overrides settings =
          v.emptiedConfig g (p.configure g.overrides settings) ∧
        ((v.emptied p).configure g.overrides settings = p.configure g.overrides settings ↔
          ¬ v.Reaches p g) := by
  have hempty := load_of_fileless (hfileless.put v)
  rw [ofEnvironment_put_empty hmissing] at hempty
  rw [load_of_fileless hfileless, hempty]
  rcases hprofile : ofEnvironment env with f | q
  · exact ⟨fun t ht => ht, fun p env' h => nomatch h⟩
  · refine ⟨fun t ht => (nomatch ht), fun p env' h => ?_⟩
    cases h
    refine ⟨rfl, emptied_eq_iff hprofile hmissing, fun settings savedKey savedUrl hsaved g => ?_⟩
    exact ⟨configure_emptied hsaved v q g, configure_emptied_eq_iff hprofile hmissing hsaved g⟩

theorem fileless_empty (env : Environment) : Fileless .empty env (some ".env") := by
  refine ⟨_, candidates_dotenv env, fun file hfile => ?_⟩
  obtain rfl := List.mem_singleton.1 hfile
  exact .inl rfl

/-- Beside a credential, an empty limit changes nothing, and an empty local model only a
    request that does not name one. -/
theorem load_emptyVariable_keyed :
    load .empty keyedVariables (some ".env") = .ok (keyed, keyedVariables) ∧
    load .empty (keyedVariables ++ [("TRACEQUERY_LIMIT", "")]) (some ".env") =
      .ok (keyed, keyedVariables ++ [("TRACEQUERY_LIMIT", "")]) ∧
    load .empty (keyedVariables ++ [("TRACEQUERY_OLLAMA_MODEL", "")]) (some ".env") =
      .ok ({ keyed with localModel := "" },
        keyedVariables ++ [("TRACEQUERY_OLLAMA_MODEL", "")]) ∧
    Profile.configure { keyed with localModel := "" } (Given.overrides { localModel := some "m" })
        none = keyed.configure (Given.overrides { localModel := some "m" }) none ∧
    Profile.configure { keyed with localModel := "" } (Given.overrides {}) none =
      .ok ⟨.known .ollama, some "sk-env", some ClientConfig.localUrl, some ""⟩ := by
  obtain ⟨-, hlimit⟩ := load_emptyVariable (v := .limit) (fileless_empty keyedVariables) rfl
  obtain ⟨hload, -⟩ := hlimit _ _ load_keyed
  obtain ⟨-, hname⟩ := load_emptyVariable (v := .localModel) (fileless_empty keyedVariables) rfl
  obtain ⟨hload', -, hconfig⟩ := hname _ _ load_keyed
  have hnamed := (hconfig none none none .nowhere { localModel := some "m" }).2.2
  have hunnamed := (hconfig none none none .nowhere {}).1
  refine ⟨load_keyed, hload, hload', hnamed fun hreaches => ?_, hunnamed.trans rfl⟩
  exact absurd hreaches.1 (by decide)

/-- An environment with an empty model. -/
def modelless : Environment := [("TRACEQUERY_MODEL", "")]

/-- **An empty model**: without the variable a request is configured with the default
    model, and with the empty one it is refused. -/
theorem load_emptyModel :
    load .empty [] (some ".env") = .ok ({}, []) ∧
    Profile.configure {} (Given.overrides {}) none =
      .ok ⟨.known .ollama, none, some ClientConfig.localUrl, some ClientConfig.defaultLocalModel⟩ ∧
    load .empty modelless (some ".env") = .ok ({ model := "" }, modelless) ∧
    Profile.configure { model := "" } (Given.overrides {}) none =
      .error (.failure (.unknownModel "")) :=
  ⟨load_of_fileless (fileless_empty []), configure_eq .nowhere {} {},
    load_of_fileless (fileless_empty modelless), configure_eq .nowhere _ {}⟩

end Profile

end SpanQuest
