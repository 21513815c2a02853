/-
  The service: a desk behind HTTP.

  Three resources answer: the health of the service, the history, and a
  question.  One desk serves all callers, so that a question that comes while
  another is outstanding is told 409.  A failure answers with its status, its
  kind and its message; what goes wrong outside a request is an internal error
  that says no more.

  * `Service.receive` is a request over HTTP;
  * `Service.onDesk` is what else happens to the desk, such as the backend's
    answer.
-/
import SpanQuest.Address
import SpanQuest.Environment.Profile
import SpanQuest.Json.Finite
import SpanQuest.Request.Desk

namespace SpanQuest.Http

open Backend

/-- The version of the program. -/
def version : String := "0.1.0"

/-! ## Requests and responses -/

/-- A request over HTTP.  The target is a path, or an address with one. -/
structure Request where
  method : String
  target : String
  body : ByteArray
  deriving Inhabited

/-- The body of a response. -/
inductive Content where
  | json (v : Json)
  | plain (s : String)
  deriving Inhabited

/-- A response over HTTP. -/
structure Response where
  status : Nat
  content : Content
  deriving Inhabited

namespace Response

/-- A response that says what was wrong with the request. -/
def detail (status : Nat) (said : String) : Response :=
  ⟨status, .json (.object [("detail", .text said)])⟩

/-- An issue of a request as a value. -/
def issueJson (i : Issue) : Json :=
  .array [.text i.kind.name, .array (i.path.map .text)]

/-- The response where the service itself failed. -/
def internalError : Response :=
  ⟨500, .plain "Internal Server Error"⟩

/-- The response to a body of the wrong shape: what is wrong, each with the value
    it is about.  The service fails on a value that cannot be written. -/
def invalid (issues : List (Issue × Json)) : Response :=
  if issues.all fun p => p.2.isFinite then
    ⟨422, .json (.object [("detail", .array (issues.map fun p => issueJson p.1))])⟩
  else internalError

/-- The response to one who asks for its head only. -/
def withoutContent (r : Response) : Response :=
  ⟨r.status, .plain ""⟩

/-- The response to a failure. -/
def ofFailure (f : Failure) : Response :=
  ⟨f.httpStatus, .json (.object [("error",
    .object [("kind", .text f.kind.name), ("message", .text f.message)])])⟩

/-- The response to a trouble. -/
def ofTrouble : Trouble → Response
  | .failure f => ofFailure f
  | _ => internalError

end Response

/-! ## The body of a question -/

/-- A question and what its caller says about the model. -/
structure Ask where
  question : String
  overrides : Overrides
  deriving Inhabited

/-- The names of the optional members of the body, in order. -/
def optionalNames : List String := ["model", "api_key", "base_url", "local_model"]

/-- An issue with the body. -/
def bodyIssue (kind : IssueKind) (path : List String) : Issue :=
  ⟨kind, "body" :: path⟩

/-- The issues of the members of a body, each with the member. -/
def memberIssues (v : Json) : List (Issue × Json) :=
  let question := match v.member? "question" with
    | none => []
    | some (.text _) => []
    | some given => [(bodyIssue .wantsText ["question"], given)]
  question ++ optionalNames.filterMap fun name =>
    match v.member name with
    | .null => none
    | .text _ => none
    | given => some (bodyIssue .wantsText [name], given)

/-- The question in a body, or the response that says why there is none. -/
def readAsk (body : ByteArray) : Except Response Ask :=
  if body.isEmpty then .error (.invalid [(bodyIssue .missing [], .null)])
  else
    match Json.readBytes body with
    | .error (.unreadable (.malformed _ place)) =>
      .error (.invalid [(bodyIssue .unreadableBody [toString place.offset], .object [])])
    | .error _ => .error (.detail 400 "There was an error parsing the body")
    | .ok (.object members) =>
      let v := Json.object members
      match memberIssues v with
      | [] => .ok ⟨((v.member "question").text?).getD "",
          ⟨v.member "model", v.member "api_key", v.member "base_url", v.member "local_model"⟩⟩
      | issues => .error (.invalid issues)
    | .ok v => .error (.invalid [(bodyIssue .bodyNotObject [], v)])

/-! ## The service -/

/-- A desk behind HTTP, with what stands for every request. -/
structure Service where
  standing : Standing
  desk : Desk
  deriving Inhabited

/-- What a service does to others. -/
inductive Effect where
  | respond (call : Nat) (response : Response)
  | send (call : Nat) (post : Post)

/-- An effect for one who asks for the head of a response only. -/
def Effect.headOnly : Effect → Effect
  | .respond call response => .respond call response.withoutContent
  | other => other

namespace Service

/-- The store of a profile on a disk. -/
def shelfOf (p : Profile) (disk : Disk) : Shelf :=
  ⟨.file (.ofText p.storePath) none, disk⟩

/-- A service whose desk has these rules: it asks with the prompts that come with
    the program, and leaves the search to its callers. -/
def openedWith (standing : Standing) (deadline : Deadline) (lookback limit : Json)
    (history : Option History) (shelf : Shelf) : Except Trouble Service :=
  (Desk.opened deadline lookback limit history false .bundled shelf).map fun desk =>
    ⟨standing, desk⟩

/-- The service of a profile: its desk keeps a history. -/
def opened (p : Profile) (disk : Disk) : Except Trouble Service :=
  openedWith p.standing (.after p.timeout) (.text p.lookback) (.int p.limit) (some .usual)
    (shelfOf p disk)

/-- What the end of a call is told as. -/
def responseOf : Except Trouble Resolution → Response
  | .ok t => ⟨200, .json t.toJson⟩
  | .error t => .ofTrouble t

/-- What the effect of the desk is to others. -/
def effectOf : DeskEffect → List Effect
  | .send call post => [.send call post]
  | .finish call result => [.respond call (responseOf result)]
  | .search .. | .discard .. => []

/-- Something happens to the desk. -/
def onDesk (s : Service) (e : DeskEvent) : Service × List Effect :=
  let (desk, effects) := s.desk.step e
  ({ s with desk := desk }, effects.flatMap effectOf)

/-- The response to a question about health: it names the model that stands, if
    it is a text. -/
def health (s : Service) : Response :=
  match s.standing.model with
  | .text model =>
    ⟨200, .json (.object [("status", .text "ok"), ("version", .text version),
      ("model", .text model)])⟩
  | _ => .internalError

/-- The response to a request for the history. -/
def history (s : Service) : Response × Service :=
  match s.desk.rules.history with
  | none => (⟨200, .json (.array [])⟩, s)
  | some h =>
    let (entries, shelf) := h.entries s.desk.shelf
    let s := { s with desk := { s.desk with shelf := shelf } }
    match entries with
    | .ok l => (⟨200, .json (.array (l.map HistoryEntry.toJson))⟩, s)
    | .error _ => (.internalError, s)

/-- A question: its configuration is made of what the caller says, the profile
    and the saved settings, and then the desk is asked. -/
def ask (s : Service) (call : Nat) (body : ByteArray) : Service × List Effect :=
  match readAsk body with
  | .error response => (s, [.respond call response])
  | .ok a =>
    let (config, shelf) := s.standing.clientConfig a.overrides s.desk.shelf
    let s := { s with desk := { s.desk with shelf := shelf } }
    match config with
    | .error t => (s, [.respond call (.ofTrouble t)])
    | .ok c => s.onDesk (.ask call (.text a.question) c)

/-- The paths that answer, and the method of each. -/
def routes : List (String × String) :=
  [("/health", "GET"), ("/v1/ask", "POST"), ("/v1/history", "GET")]

/-- The path that a target names: without query and fragment, without names of
    one and two dots, and with encoded characters decoded. -/
def pathOf? (target : String) : Option String :=
  match Address.read target with
  | .error _ => none
  | .ok a =>
    let path := if a.isFull then a.path
      else Address.withoutDots (a.target.takeWhile (· != '?'))
    some (Text.percentDecode path)

/-- The path without the slashes at its end, or with one if it has none. -/
def otherSlash (path : String) : String :=
  let bare := dropTrailingSlashes path
  if bare == path then path ++ "/" else bare

/-- A request for a path with a method in capitals. -/
def route (s : Service) (call : Nat) (path method : String) (body : ByteArray) :
    Service × List Effect :=
  match routes.lookup path with
  | none =>
    if path != "/" && (routes.lookup (otherSlash path)).isSome then
      (s, [.respond call ⟨307, .plain ""⟩])
    else (s, [.respond call (.detail 404 "Not Found")])
  | some expected =>
    if method != expected then (s, [.respond call (.detail 405 "Method Not Allowed")])
    else if path == "/health" then (s, [.respond call s.health])
    else if path == "/v1/history" then
      let (response, s) := s.history
      (s, [.respond call response])
    else s.ask call body

/-- A request over HTTP. -/
def receive (s : Service) (call : Nat) (r : Request) : Service × List Effect :=
  let method := Text.upper r.method
  let (s, effects) := s.route call ((pathOf? r.target).getD "") method r.body
  (s, if method == "HEAD" then effects.map Effect.headOnly else effects)

end Service

end SpanQuest.Http
