/-
  The command line and the service agree.

  Both make a configuration of the same profile, ask a desk with the same rules,
  and tell what came of it, each in its own form.  A resolution is printed as
  JSON and answered as JSON, and both are the same value; a failure is printed
  with its kind and its message, and answered with its status, its kind and its
  message; any other trouble escapes the one and is an internal error of the
  other.  The line of a failure is printed without control sequences, though,
  and so it may not show the whole message.

  * `SameTold`: a command and a response tell the same;
  * `ask_eq`, `Http.Service.exchange_of_asks`: what comes of a question in
    either form;
  * `ask_agrees`: both tell the same, post the same, and leave the same disk;
  * `ask_controlSequence`: a message that is not printed as it is.
-/
import SpanQuest.Proofs.CommandLine.Spelling
import SpanQuest.Proofs.Http.Exchange
import SpanQuest.Proofs.Json.Printed
import SpanQuest.Proofs.Search.LookbackText

namespace SpanQuest

open Backend

/-! ## The disk under the settings -/

namespace Standing

variable (d : Standing) (o : Overrides) (s : Shelf)

theorem disk_used : s.used.disk = s.disk := by
  unfold Shelf.used
  split <;> rfl

theorem disk_savedKey : (savedKey s).2.disk = s.disk := by
  unfold savedKey Settings.apiKey Shelf.get
  cases s.data <;> exact disk_used s

theorem disk_url : (Settings.url s).2.disk = s.disk := by
  unfold Settings.url Shelf.get
  cases s.data <;> exact disk_used s

theorem disk_orSaved {given : Json} {saved : Shelf → Except Fault Json × Shelf}
    (h : (saved s).2.disk = s.disk) : (orSaved given saved s).2.disk = s.disk := by
  unfold orSaved
  split
  · rfl
  · exact h

/-- The saved settings are read at most, so that the disk stays as it was. -/
theorem disk_clientConfig : (d.clientConfig o s).2.disk = s.disk := by
  have hkey : (orSaved (d.givenKey o) savedKey s).2.disk = s.disk :=
    disk_orSaved s (disk_savedKey s)
  unfold clientConfig
  generalize orSaved (d.givenKey o) savedKey s = r at hkey
  obtain ⟨f | key, s'⟩ := r
  · exact hkey
  · have hurl : (orSaved (d.givenUrl o) Settings.url s').2.disk = s'.disk :=
      disk_orSaved s' (disk_url s')
    dsimp only
    generalize orSaved (d.givenUrl o) Settings.url s' = r at hurl
    obtain ⟨f | url, s''⟩ := r <;> exact hurl.trans hkey

end Standing

namespace CommandLine

/-! ## What is told -/

/-- A line was printed: without control sequences, and as it is if no escape
    character stands in it. -/
structure Prints (line printed : String) : Prop where
  dropped : printed = String.ofList (Text.dropSequences line.toList) ++ "\n"
  asItIs : '\x1b' ∉ line.toList → printed = line ++ "\n"

theorem prints_printed (line : String) : Prints line (Ending.printed [line]) where
  dropped := rfl
  asItIs h := by
    show String.ofList (Text.dropSequences line.toList) ++ "\n" = line ++ "\n"
    rw [Text.dropSequences_of_notMem h, String.ofList_toList]

/-- **A command and a response tell the same.** -/
inductive SameTold (e : Ending) : Http.Response → Prop where
  /-- A resolution, as one value. -/
  | succeeds (t : Resolution) (hexit : e.exitCode = 0) (hescaped : e.escaped = none)
      (hout : Json.read e.out = .ok t.toJson) (herr : e.err = "") :
      SameTold e ⟨200, .json t.toJson⟩
  /-- A failure: the command prints a line of its kind and its message. -/
  | fails (f : Failure) (hexit : e.exitCode = 1) (hescaped : e.escaped = none)
      (hout : e.out = "") (herr : Prints s!"Error ({f.kind.name}): {f.message}" e.err) :
      SameTold e ⟨f.httpStatus, .json (.object [("error",
        .object [("kind", .text f.kind.name), ("message", .text f.message)])])⟩
  /-- A trouble that is no failure: it escapes the command. -/
  | escapes (t : Trouble) (hother : ∀ f, t ≠ .failure f) (hexit : e.exitCode = 1)
      (hescaped : e.escaped = some t) (hout : e.out = "") (herr : e.err = "") :
      SameTold e .internalError

theorem sameTold_of_trouble (t : Trouble) (disk : Disk) (posts : List Post) :
    SameTold (.complain disk posts t) (.ofTrouble t) := by
  cases t with
  | failure f => exact .fails f rfl rfl rfl (prints_printed _)
  | fault f => exact .escapes (.fault f) nofun rfl rfl rfl rfl
  | rejected r => exact .escapes (.rejected r) nofun rfl rfl rfl rfl
  | withdrawn reason => exact .escapes (.withdrawn reason) nofun rfl rfl rfl rfl

theorem posts_complain (disk : Disk) (posts : List Post) (t : Trouble) :
    (Ending.complain disk posts t).posts = posts := by
  cases t <;> rfl

theorem disk_complain (disk : Disk) (posts : List Post) (t : Trouble) :
    (Ending.complain disk posts t).disk = disk := by
  cases t <;> rfl

theorem sameTold_of_resolution {t : Resolution} (h : t.Drawn) (disk : Disk) (posts : List Post) :
    SameTold { out := Ending.printed [t.toJson.renderIndented], posts := posts, disk := disk }
      ⟨200, .json t.toJson⟩ :=
  .succeeds t rfl rfl (Json.read_line h.isPlain) rfl

/-! ## One question -/

/-- The arguments ask a question of the command, to be answered as JSON. -/
def Spells (arguments : List String) (question : String) (g : Given) (envFile : Option String) :
    Prop :=
  Command.read? arguments =
    some (.ask question ⟨g.model, g.apiKey, g.baseUrl, g.localModel, none, true, none, envFile⟩)

/-- A command and an exchange with the service agree: they tell the same, have
    posted the same, and leave the same disk. -/
structure Agrees (e : Ending) (r : Http.Service × List Http.Effect) : Prop where
  told : ∃ response, Http.responsesOf r.2 = [response] ∧ SameTold e response
  posts : e.posts = Http.postsOf r.2
  disk : e.disk = r.1.desk.shelf.disk

/-- The rules of the desks of a profile. -/
def rulesOf (p : Profile) (l : Lookback) : DeskRules :=
  ⟨.after p.timeout, l, .int p.limit, some .usual, false⟩

section

variable {w : World} {p : Profile} {l : Lookback} {envFile : Option String} {env : Environment}

theorem opened_of_lookback (h : Lookback.read p.lookback = .ok l) (disk : Disk) :
    Http.Service.opened p disk =
      .ok ⟨p.standing, .fresh (rulesOf p l) .bundled (Http.Service.shelfOf p disk)⟩ := by
  unfold Http.Service.opened Http.Service.openedWith
  rw [Desk.opened_eq, Lookback.ofJson, h]
  rfl

/-- **What comes of a question on the command line**: its configuration is made with
    the saved settings, and a desk is consulted. -/
theorem run_of_spells (hload : Profile.load w.disk w.environment (fileAsked envFile) = .ok (p, env))
    (h : Lookback.read p.lookback = .ok l) {arguments : List String} {question : String} {g : Given}
    (hspells : Spells arguments question g envFile) (respond : Post → Option Answer) :
    run w arguments respond =
      match p.standing.clientConfig g.overrides (Http.Service.shelfOf p w.disk) with
      | (.error t, _) => .complain w.disk [] t
      | (.ok config, shelf) =>
        let (desk, effects) :=
          consult (.fresh (rulesOf p l) .bundled shelf) question config w.now respond
        match resultOf effects with
        | some (.error t) => .complain desk.shelf.disk (postsOf effects) t
        | some (.ok t) => { out := Ending.printed [t.toJson.renderIndented],
                            posts := postsOf effects, disk := desk.shelf.disk }
        | none => { posts := postsOf effects, disk := desk.shelf.disk } := by
  unfold run
  rw [hspells]
  dsimp only
  unfold ask
  rw [hload]
  dsimp only [Profile.clientConfig]
  have hshelf : shelfOf w p none = Http.Service.shelfOf p w.disk := rfl
  have hoverrides : Overrides.mk (.ofOption g.model) (.ofOption g.apiKey) (.ofOption g.baseUrl)
      (.ofOption g.localModel) = g.overrides := rfl
  rw [hshelf, hoverrides]
  rcases p.standing.clientConfig g.overrides (Http.Service.shelfOf p w.disk) with
    ⟨t | config, shelf⟩
  · rfl
  · dsimp only
    rw [Desk.opened_eq, Lookback.ofJson, h]
    rfl

/-- **One question on the command line and one over HTTP agree.** -/
theorem agrees_of_same
    (hload : Profile.load w.disk w.environment (fileAsked envFile) = .ok (p, env))
    (h : Lookback.read p.lookback = .ok l) {arguments : List String} {r : Http.Request}
    {question : String} {g : Given} (hspells : Spells arguments question g envFile)
    (hasks : Http.Asks r ⟨question, g.overrides⟩) (respond : Post → Option Answer) :
    Agrees (run w arguments respond) (Http.Service.exchange
      ⟨p.standing, .fresh (rulesOf p l) .bundled (Http.Service.shelfOf p w.disk)⟩ r w.now respond) := by
  rw [run_of_spells hload h hspells, Http.Service.exchange_of_asks hasks]
  have hdisk := Standing.disk_clientConfig p.standing g.overrides (Http.Service.shelfOf p w.disk)
  dsimp only [Desk.fresh]
  generalize p.standing.clientConfig g.overrides (Http.Service.shelfOf p w.disk) = made at hdisk
  obtain ⟨t | config, shelf⟩ := made
  · refine ⟨⟨_, rfl, sameTold_of_trouble t w.disk []⟩, posts_complain .., ?_⟩
    exact (disk_complain ..).trans hdisk.symm
  · -- the same desk is consulted, and its only call ends once
    obtain ⟨result, hends, hresult⟩ := consult_ends (d := .fresh (rulesOf p l) .bundled shelf) rfl
      rfl nofun rfl question config w.now respond
    dsimp only [Desk.fresh] at hends ⊢
    generalize consult _ question config w.now respond = told at hends
    obtain ⟨desk, effects⟩ := told
    have hresponse : Http.responsesOf (effects.flatMap Http.Service.effectOf) =
        [Http.Service.responseOf result] := by
      rw [Http.Service.responsesOf_effects, hends]
      rfl
    have hposts := Http.Service.postsOf_effects effects
    dsimp only
    rw [resultOf_eq, hends]
    rcases hresult with ⟨t, rfl, ht⟩ | ⟨f, rfl⟩
    · exact ⟨⟨_, hresponse, sameTold_of_resolution ht _ _⟩, hposts.symm, rfl⟩
    · exact ⟨⟨_, hresponse, sameTold_of_trouble _ _ _⟩, hposts.symm, rfl⟩

/-- **The command line and the service agree**, for every profile whose lookback is
    one, on every disk, at every time, and with every backend: the service opens,
    every question can be asked in both ways, and whichever way it is spelled, both
    tell the same, post the same and leave the same disk. -/
theorem ask_agrees (hload : Profile.load w.disk w.environment (fileAsked envFile) = .ok (p, env))
    (hlookback : Lookback.read p.lookback = .ok l) :
    ∃ s, Http.Service.opened p w.disk = .ok s ∧
      ∀ (question : String) (g : Given) (respond : Post → Option Answer),
        ((∀ path, envFile = some path → Path.hasNul path = false) →
          ∃ arguments, Spells arguments question g envFile) ∧
        (∃ r, Http.Asks r ⟨question, g.overrides⟩) ∧
        ∀ arguments r, Spells arguments question g envFile →
          Http.Asks r ⟨question, g.overrides⟩ →
          Agrees (run w arguments respond) (s.exchange r w.now respond) := by
  refine ⟨_, opened_of_lookback hlookback w.disk, fun question g respond => ⟨?_, ?_, ?_⟩⟩
  · exact fun hpath => ⟨_, read?_askArguments question g hpath⟩
  · exact ⟨_, Http.asks_askRequest question g⟩
  · exact fun arguments r hspells hasks => agrees_of_same hload hlookback hspells hasks respond

end

/-- A disk without files, and a credential in the environment. -/
def keyedWorld : World := ⟨.empty, Profile.keyedVariables, ⟨1709294400123456⟩⟩

theorem fileAsked_dotenv : fileAsked (some ".env") = some ".env" := by
  unfold fileAsked
  rw [Option.map_some, Path.ofText, Profile.splitOn_dotenv]
  decide

theorem load_keyedWorld : Profile.load keyedWorld.disk keyedWorld.environment
    (fileAsked (some ".env")) = .ok (Profile.keyed, Profile.keyedVariables) := by
  rw [fileAsked_dotenv]
  exact Profile.load_keyed

theorem read_oneHour : Lookback.read Profile.keyed.lookback = .ok ⟨3600, "1h"⟩ := by
  have hsaid : Lookback.Says Profile.keyed.lookback ['1'] 1 .hour :=
    Lookback.says_iff.2 ⟨by decide +kernel, by decide +kernel⟩
  exact (Lookback.Verdict.lookback hsaid (by decide) (by decide) (by decide)).read_eq

/-- A question with an address that its caller gives. -/
theorem ask_agrees_keyed :
    Profile.load keyedWorld.disk keyedWorld.environment (fileAsked (some ".env")) =
      .ok (Profile.keyed, Profile.keyedVariables) ∧
    Lookback.read Profile.keyed.lookback = .ok ⟨3600, "1h"⟩ ∧
    ∃ s, Http.Service.opened Profile.keyed keyedWorld.disk = .ok s ∧
      ∀ respond, Agrees
        (run keyedWorld (askArguments "slow" { baseUrl := some "http://h" } (some ".env")) respond)
        (s.exchange (Http.askRequest "slow" { baseUrl := some "http://h" }) keyedWorld.now respond) := by
  obtain ⟨s, hs, hagrees⟩ := ask_agrees load_keyedWorld read_oneHour
  refine ⟨load_keyedWorld, read_oneHour, s, hs, fun respond => ?_⟩
  refine (hagrees _ _ respond).2.2 _ _ (read?_askArguments _ _ ?_) (Http.asks_askRequest _ _)
  rintro path ⟨⟩
  decide

/-- A caller who gives a name with a control sequence for the model. -/
def colouredModel : Given := { model := some "\x1b[31mx", baseUrl := some "http://h" }

/-- That caller on the command line. -/
def colouredArguments : List String :=
  ["ask", "q", "--json", "--model", "\x1b[31mx", "--base-url", "http://h", "--env-file", ".env"]

/-- What the caller is told. -/
def colouredFailure : Failure := .unknownModel "\x1b[31mx"

/-- **A control sequence is not printed**: the service answers the message with it,
    and the command prints the line without it. -/
theorem ask_controlSequence :
    Spells colouredArguments "q" colouredModel (some ".env") ∧
    ∃ s, Http.Service.opened Profile.keyed keyedWorld.disk = .ok s ∧ ∀ respond,
      Http.responsesOf (s.exchange (Http.askRequest "q" colouredModel) keyedWorld.now respond).2 =
        [.ofFailure colouredFailure] ∧
      (run keyedWorld colouredArguments respond).err =
        "Error (ConfigurationError): Unknown model: x\n" ∧
      (run keyedWorld colouredArguments respond).err ≠
        s!"Error ({colouredFailure.kind.name}): {colouredFailure.message}" ++ "\n" := by
  have hspells : Spells colouredArguments "q" colouredModel (some ".env") := by
    unfold Spells
    rfl
  have hconfig : Profile.keyed.standing.clientConfig colouredModel.overrides
      (Http.Service.shelfOf Profile.keyed keyedWorld.disk) =
      (.error (.failure colouredFailure), Http.Service.shelfOf Profile.keyed keyedWorld.disk) := rfl
  have hprinted : (Ending.complain keyedWorld.disk [] (.failure colouredFailure)).err =
      "Error (ConfigurationError): Unknown model: x\n" := by decide +kernel
  refine ⟨hspells, _, opened_of_lookback read_oneHour _, fun respond => ?_⟩
  rw [run_of_spells load_keyedWorld read_oneHour hspells,
    Http.Service.exchange_of_asks (Http.asks_askRequest "q" colouredModel)]
  dsimp only [Desk.fresh]
  rw [hconfig]
  dsimp only
  rw [hprinted]
  exact ⟨rfl, rfl, by decide⟩

end CommandLine

end SpanQuest
