/-
  A question over HTTP, from its request to its response.

  `Service.exchange` is a request and what comes of it: the service receives it,
  and the backend answers what was posted.

  * `Asks`: the request asks a question;
  * `exchange_of_asks`: what comes of such a request is what comes of a desk that
    is consulted with the question, in the form of the service;
  * `asks_askRequest`: every question can be asked, with any texts about the model.
-/
import SpanQuest.Proofs.CommandLine.Consult
import SpanQuest.Proofs.Environment.Credential
import SpanQuest.Proofs.Json.Bytes

namespace SpanQuest.Http

open Backend

/-! ## Effects -/

/-- The responses among effects. -/
def responsesOf (effects : List Effect) : List Response :=
  effects.filterMap fun
    | .respond _ response => some response
    | .send .. => none

/-- The posts among effects. -/
def postsOf (effects : List Effect) : List Post :=
  effects.filterMap fun
    | .send _ post => some post
    | .respond .. => none

theorem responsesOf_append (xs ys : List Effect) :
    responsesOf (xs ++ ys) = responsesOf xs ++ responsesOf ys :=
  List.filterMap_append

theorem postsOf_append (xs ys : List Effect) : postsOf (xs ++ ys) = postsOf xs ++ postsOf ys :=
  List.filterMap_append

namespace Service

theorem responsesOf_effects (effects : List DeskEffect) :
    responsesOf (effects.flatMap effectOf) = (endings effects).map fun e => responseOf e.2 := by
  induction effects with
  | nil => rfl
  | cons e effects ih =>
    rw [List.flatMap_cons, responsesOf_append, ih, ← List.singleton_append, endings_append,
      List.map_append]
    cases e <;> rfl

theorem postsOf_effects (effects : List DeskEffect) :
    postsOf (effects.flatMap effectOf) = CommandLine.postsOf effects := by
  induction effects with
  | nil => rfl
  | cons e effects ih =>
    rw [List.flatMap_cons, postsOf_append, ih, ← List.singleton_append, CommandLine.postsOf,
      CommandLine.postsOf, List.filterMap_append]
    cases e <;> rfl

/-! ## Exchanges -/

/-- A list of things that happen to the desk, and all their effects. -/
def run (s : Service) : List DeskEvent → Service × List Effect
  | [] => (s, [])
  | e :: rest =>
    let (s, first) := s.onDesk e
    let (s, others) := s.run rest
    (s, first ++ others)

/-- A request that finds the service free, and the answers of the backend to what
    is posted for it. -/
def exchange (s : Service) (r : Request) (now : Moment) (respond : Post → Option Answer) :
    Service × List Effect :=
  let (s, asked) := s.receive 0 r
  let (s, told) := s.run ((postsOf asked).map fun post => CommandLine.eventsOf now (respond post))
  (s, asked ++ told)

/-- What happens to the desk of a service is a run of the desk. -/
theorem run_eq (s : Service) (es : List DeskEvent) :
    s.run es = ({ s with desk := (s.desk.run es).1 }, (s.desk.run es).2.flatMap effectOf) := by
  induction es generalizing s with
  | nil => rfl
  | cons e es ih =>
    rw [run, Desk.run_cons, List.flatMap_append]
    dsimp only [onDesk]
    rw [ih]

end Service

/-! ## Questions -/

/-- The request asks a question. -/
structure Asks (r : Request) (a : Ask) : Prop where
  method : Text.upper r.method = "POST"
  path : Service.pathOf? r.target = some "/v1/ask"
  body : readAsk r.body = .ok a

namespace Service

variable {r : Request} {a : Ask}

theorem receive_of_asks (h : Asks r a) (s : Service) (call : Nat) :
    s.receive call r = s.ask call r.body := by
  unfold receive route
  rw [h.method, h.path]
  rfl

/-- **What comes of a question**: its configuration is made with the saved settings,
    and the desk is consulted. -/
theorem exchange_of_asks (h : Asks r a) (s : Service) (now : Moment)
    (respond : Post → Option Answer) :
    s.exchange r now respond =
      match s.standing.clientConfig a.overrides s.desk.shelf with
      | (.error t, shelf) =>
        ({ s with desk := { s.desk with shelf := shelf } }, [.respond 0 (.ofTrouble t)])
      | (.ok config, shelf) =>
        let (desk, effects) :=
          CommandLine.consult { s.desk with shelf := shelf } a.question config now respond
        ({ s with desk := desk }, effects.flatMap effectOf) := by
  unfold exchange
  rw [receive_of_asks h, ask, h.body]
  dsimp only
  rcases s.standing.clientConfig a.overrides s.desk.shelf with ⟨t | config, shelf⟩
  · rfl
  · dsimp only [onDesk]
    rw [postsOf_effects, run_eq]
    unfold CommandLine.consult
    dsimp only
    rw [List.flatMap_append]

end Service

/-! ## Every question can be asked -/

/-- A text for the question, and texts or nothing for the model, leave nothing to
    complain of. -/
theorem memberIssues_of_texts {v : Json} {question : String}
    (hquestion : v.member? "question" = some (.text question))
    (h : ∀ name ∈ optionalNames, ∃ s, v.member name = .ofOption s) : memberIssues v = [] := by
  unfold memberIssues
  rw [hquestion]
  refine List.filterMap_eq_nil_iff.2 fun name hname => ?_
  obtain ⟨s, hs⟩ := h name hname
  rw [hs]
  cases s <;> rfl

theorem readAsk_of_members {body : ByteArray} {members : List (String × Json)}
    (hread : Json.readBytes? body = some (.object members))
    (hissues : memberIssues (.object members) = []) :
    readAsk body = .ok ⟨(((Json.object members).member "question").text?).getD "",
      ⟨(Json.object members).member "model", (Json.object members).member "api_key",
        (Json.object members).member "base_url", (Json.object members).member "local_model"⟩⟩ := by
  have hok : Json.readBytes body = .ok (.object members) := by
    unfold Json.readBytes? at hread
    cases h : Json.readBytes body with
    | error e =>
      rw [h] at hread
      cases hread
    | ok v =>
      rw [h] at hread
      cases hread
      rfl
  have hempty : ¬ body.isEmpty = true := by
    intro hempty
    obtain rfl : body = ByteArray.empty := by
      have hsize : body.size = 0 := by simpa [ByteArray.isEmpty] using hempty
      exact ByteArray.size_eq_zero_iff.1 hsize
    have hnone : (Json.readBytes? ByteArray.empty).isNone = true := by decide +kernel
    simp [hread] at hnone
  unfold readAsk
  rw [if_neg hempty, hok]
  dsimp only
  rw [hissues]

/-- The members of a question, with what its caller says about the model. -/
def askMembers (question : String) (g : Given) : List (String × Json) := [
  ("question", .text question),
  ("model", .ofOption g.model),
  ("api_key", .ofOption g.apiKey),
  ("base_url", .ofOption g.baseUrl),
  ("local_model", .ofOption g.localModel)]

theorem member_askMembers (question : String) (g : Given) :
    (Json.object (askMembers question g)).member? "question" = some (.text question) ∧
    (Json.object (askMembers question g)).member "model" = .ofOption g.model ∧
    (Json.object (askMembers question g)).member "api_key" = .ofOption g.apiKey ∧
    (Json.object (askMembers question g)).member "base_url" = .ofOption g.baseUrl ∧
    (Json.object (askMembers question g)).member "local_model" = .ofOption g.localModel := by
  simp [askMembers, Json.member, Json.member?, Mapping.get?]

/-- The request for a question. -/
def askRequest (question : String) (g : Given) : Request :=
  ⟨"POST", "/v1/ask", (Json.object (askMembers question g)).render.toUTF8⟩

/-- **Every question can be asked**, with any texts about the model. -/
theorem asks_askRequest (question : String) (g : Given) :
    Asks (askRequest question g) ⟨question, g.overrides⟩ := by
  have hmethod : Text.upper "POST" = "POST" := by decide +kernel
  have hpath : Service.pathOf? "/v1/ask" = some "/v1/ask" := by decide +kernel
  refine ⟨hmethod, hpath, ?_⟩
  have hplain : (Json.object (askMembers question g)).isPlain = true :=
    Json.isPlain_object (by simp [askMembers, Mapping.keys])
      (by simp only [askMembers, Json.membersPlain, Json.isPlain_text, Json.isPlain_ofOption,
        Bool.and_true])
  obtain ⟨hquestion, hmodel, hkey, hurl, hlocal⟩ := member_askMembers question g
  have hissues : memberIssues (.object (askMembers question g)) = [] := by
    refine memberIssues_of_texts hquestion fun name hname => ?_
    simp only [optionalNames, List.mem_cons, List.not_mem_nil, or_false] at hname
    rcases hname with rfl | rfl | rfl | rfl
    · exact ⟨_, hmodel⟩
    · exact ⟨_, hkey⟩
    · exact ⟨_, hurl⟩
    · exact ⟨_, hlocal⟩
  have hread := readAsk_of_members (Json.readBytes?_render hplain) hissues
  rw [hmodel, hkey, hurl, hlocal, Json.member, hquestion] at hread
  unfold askRequest Given.overrides
  dsimp only
  rw [hread]
  rfl

end SpanQuest.Http
