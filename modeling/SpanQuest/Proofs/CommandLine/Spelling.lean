/-
  How a question is spelled on the command line.

  Every question can be asked there, with any texts about the model: an option
  takes the next argument as its value, whatever that is, and after two dashes
  the question is no option.  Only a path with the NUL character is refused.

  * `Takes.readFrom?`: an option that is given is taken with its value;
  * `read?_askArguments`: the command line of a question is read as it.
-/
import SpanQuest.CommandLine.Command
import SpanQuest.Proofs.Environment.Credential

namespace SpanQuest.CommandLine

/-! ## Options with a value -/

/-- The arguments of an option, if it is given. -/
def spelled (spelling : String) : Option String → List String
  | some value => [spelling, value]
  | none => []

/-- What an option says, if it is given. -/
def said (name : String) (value : Option String) : List (String × String) :=
  value.toList.map fun s => (name, s)

theorem lookup_said (name other : String) (value : Option String) :
    (said other value).reverse.lookup name = if name = other then value else none := by
  cases value with
  | none => simp [said]
  | some s =>
    by_cases h : name = other
    · simp [said, h]
    · have hne : (name == other) = false := beq_eq_false_iff_ne.2 h
      simp [said, List.lookup_cons, h, hne]

/-- The spelling is that of an option of `ask`, which takes the next argument as its
    value, whatever that is. -/
structure Takes (spelling name : String) : Prop where
  isOption : ∃ c cs, spelling.toList = '-' :: c :: cs
  isName : (spelling == "--") = false
  takes : ∀ value rest, Options.readOption? Command.askRules spelling.toList (value :: rest) =
    some ([(name, value)], rest)

/-- **An option that is given is taken with its value**, and one that is not given
    changes nothing. -/
theorem Takes.readFrom? {spelling name : String} (h : Takes spelling name)
    (value : Option String) {rest : List String} {fuel : Nat}
    (hfuel : (spelled spelling value ++ rest).length ≤ fuel) (seen : Options) :
    ∃ left, rest.length ≤ left ∧
      Options.readFrom? Command.askRules fuel seen (spelled spelling value ++ rest) =
        Options.readFrom? Command.askRules left
          { seen with given := seen.given ++ said name value } rest := by
  cases value with
  | none => exact ⟨fuel, hfuel, by simp [spelled, said]⟩
  | some s =>
    obtain ⟨m, rfl⟩ : ∃ m, fuel = m + 1 := ⟨fuel - 1, by simp [spelled] at hfuel; omega⟩
    obtain ⟨c, cs, hchars⟩ := h.isOption
    have htakes := h.takes s rest
    rw [hchars] at htakes
    refine ⟨m, by simp [spelled] at hfuel; omega, ?_⟩
    simp only [spelled, List.cons_append, List.nil_append, Options.readFrom?, h.isName,
      Bool.false_eq_true, if_false, hchars, htakes]
    rfl

theorem takes_model : Takes "--model" "model" :=
  ⟨⟨_, _, rfl⟩, rfl, fun _ _ => rfl⟩

theorem takes_apiKey : Takes "--api-key" "api-key" :=
  ⟨⟨_, _, rfl⟩, rfl, fun _ _ => rfl⟩

theorem takes_baseUrl : Takes "--base-url" "base-url" :=
  ⟨⟨_, _, rfl⟩, rfl, fun _ _ => rfl⟩

theorem takes_localModel : Takes "--ollama-model" "ollama-model" :=
  ⟨⟨_, _, rfl⟩, rfl, fun _ _ => rfl⟩

theorem takes_envFile : Takes "--env-file" "env-file" :=
  ⟨⟨_, _, rfl⟩, rfl, fun _ _ => rfl⟩

/-! ## Questions -/

/-- The options of a question that is answered as JSON, before its text. -/
def jsonOptions (g : Given) (envFile : Option String) (rest : List String) : List String :=
  spelled "--model" g.model ++ (spelled "--api-key" g.apiKey ++ (spelled "--base-url" g.baseUrl ++
    (spelled "--ollama-model" g.localModel ++ (spelled "--env-file" envFile ++ rest))))

/-- The command line of a question that is answered as JSON. -/
def askArguments (question : String) (g : Given) (envFile : Option String) : List String :=
  "ask" :: "--json" :: jsonOptions g envFile ["--", question]

/-- What those options say. -/
def jsonSaid (g : Given) (envFile : Option String) : List (String × String) :=
  [("json", "")] ++ said "model" g.model ++ said "api-key" g.apiKey ++ said "base-url" g.baseUrl ++
    said "ollama-model" g.localModel ++ said "env-file" envFile

/-- The value of an option among them; options with other names say nothing of it. -/
theorem value?_jsonSaid (g : Given) (envFile : Option String) (others : List String)
    (name : String) :
    Options.value? ⟨jsonSaid g envFile, others⟩ name =
      (if name = "env-file" then envFile else none).or
      ((if name = "ollama-model" then g.localModel else none).or
      ((if name = "base-url" then g.baseUrl else none).or
      ((if name = "api-key" then g.apiKey else none).or
      ((if name = "model" then g.model else none).or
      (if name = "json" then some "" else none))))) := by
  have hjson : [("json", "")] = said "json" (some "") := rfl
  unfold Options.value? jsonSaid
  rw [hjson]
  simp only [List.reverse_append, List.lookup_append, lookup_said]

theorem readOptions_askArguments (question : String) (g : Given) (envFile : Option String) :
    Options.read? Command.askRules ("--json" :: jsonOptions g envFile ["--", question]) =
      some ⟨jsonSaid g envFile, [question]⟩ := by
  have hjson (fuel : Nat) (rest : List String) :
      Options.readFrom? Command.askRules (fuel + 1) ⟨[], []⟩ ("--json" :: rest) =
        Options.readFrom? Command.askRules fuel ⟨[("json", "")], []⟩ rest := rfl
  unfold Options.read? jsonOptions
  rw [List.length_cons, hjson]
  obtain ⟨_, hleft, hmodel⟩ := takes_model.readFrom? g.model (Nat.le_succ _) ⟨[("json", "")], []⟩
  rw [hmodel]
  obtain ⟨_, hleft, hkey⟩ := takes_apiKey.readFrom? g.apiKey hleft _
  rw [hkey]
  obtain ⟨_, hleft, hurl⟩ := takes_baseUrl.readFrom? g.baseUrl hleft _
  rw [hurl]
  obtain ⟨_, hleft, hlocal⟩ := takes_localModel.readFrom? g.localModel hleft _
  rw [hlocal]
  obtain ⟨left, hleft, hfile⟩ := takes_envFile.readFrom? envFile hleft _
  rw [hfile]
  obtain ⟨m, rfl⟩ : ∃ m, left = m + 1 := ⟨left - 1, by simp at hleft; omega⟩
  rfl

/-- **The command line of a question is read as it**, unless the path of the file of
    variables holds the NUL character. -/
theorem read?_askArguments (question : String) (g : Given) {envFile : Option String}
    (hpath : ∀ path, envFile = some path → Path.hasNul path = false) :
    Command.read? (askArguments question g envFile) =
      some (.ask question ⟨g.model, g.apiKey, g.baseUrl, g.localModel, none, true, none, envFile⟩) := by
  show Command.readAsk? ("--json" :: jsonOptions g envFile ["--", question]) = _
  have hfile : Command.path? ⟨jsonSaid g envFile, [question]⟩ "env-file" = some envFile := by
    unfold Command.path?
    rw [value?_jsonSaid]
    cases henv : envFile with
    | none => rfl
    | some path => simp [hpath path henv]
  unfold Command.readAsk?
  rw [readOptions_askArguments]
  dsimp only
  rw [hfile]
  simp [Command.number?, Command.path?, Options.has, value?_jsonSaid]

end SpanQuest.CommandLine
