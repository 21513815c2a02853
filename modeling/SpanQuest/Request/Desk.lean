/-
  The desk: where questions become filters, one at a time.

  A desk is a machine over events: a caller asks, the backend answers, the
  deadline passes, the caller withdraws, the search service is done.  Each
  event takes the desk to its next state and has effects on others: a post to
  the backend, a request to the search service, the end of a call.

      idle → validating → awaiting the model → extracting → compiling → done

  A call waits at two places, for the model and for the search service
  (`Pending`); everything between them is one step.  While a call waits, every
  other one is told so and changes nothing.  A call whose deadline has passed
  or whose caller has withdrawn is abandoned: its token is tripped, and what
  the backend answers later is discarded.

  * `Desk.step` is one event, `Desk.run` a list of them;
  * `step_ask_of_pending`: a second call is turned away and leaves the desk as
    it was.
-/
import SpanQuest.Backend.Gateway
import SpanQuest.Prompt.Registry
import SpanQuest.Query.Reply
import SpanQuest.Request.Outcome
import SpanQuest.Request.Resolution
import SpanQuest.Storage.History

namespace SpanQuest

open Backend

/-- How a desk is set up. -/
structure DeskRules where
  /-- How long a caller waits for the model. -/
  deadline : Deadline
  lookback : Lookback
  /-- How many traces the search is asked for; any value. -/
  limit : Json
  /-- Where the questions that were answered are kept, if anywhere. -/
  history : Option History
  /-- The requests go to a search service. -/
  searches : Bool
  deriving Inhabited

/-- What a call waits for. -/
inductive Pending where
  | model (question : String) (identity : ModelIdentity) (adapter : Adapter)
  | search (question : String) (resolution : Resolution)
  deriving Inhabited

/-- An exchange that nobody waits for any more. -/
structure Abandoned where
  call : Nat
  adapter : Adapter
  token : Token
  deriving Inhabited

/-- A desk: how it is set up, what it keeps, and the call that waits. -/
structure Desk where
  rules : DeskRules
  prompts : Prompt.Registry
  shelf : Shelf
  outcome : Outcome := {}
  pending : Option (Nat × Pending) := none
  abandoned : List Abandoned := []
  deriving Inhabited

/-- What happens to a desk.  Calls have numbers, and `now` is the time at which
    the desk goes on. -/
inductive DeskEvent where
  | ask (call : Nat) (question : Json) (config : ClientConfig)
  | answer (call : Nat) (answer : Answer) (now : Moment)
  | expire (call : Nat)
  | withdraw (call : Nat)
  | searched (call : Nat) (said : Except Trouble Unit) (now : Moment)
  deriving Inhabited

/-- What a desk does to others. -/
inductive DeskEffect where
  | send (call : Nat) (post : Post)
  | search (call : Nat) (request : SearchRequest)
  | finish (call : Nat) (result : Except Trouble Resolution)
  /-- What an abandoned exchange came to, which nobody hears of. -/
  | discard (call : Nat) (result : Except Trouble Json)

namespace Desk

/-- A desk that nobody has asked yet; its lookback has to be one. -/
def opened (deadline : Deadline) (lookback limit : Json) (history : Option History)
    (searches : Bool) (prompts : Prompt.Registry) (shelf : Shelf) : Except Trouble Desk :=
  (Lookback.ofJson lookback).map fun l =>
    { rules := ⟨deadline, l, limit, history, searches⟩, prompts := prompts, shelf := shelf }

/-- A call waits. -/
def busy (d : Desk) : Bool :=
  d.pending.isSome

/-- What a request reports of what it did not foresee. -/
def unexpected : String := "Unexpected backend failure"

/-- What a request reports of a search service that failed. -/
def searchFailed : String := "Trace search failed"

/-- Why the token of a call is tripped that its caller withdrew. -/
def withdrawnReason : Json := .text "caller cancelled"

/-- Why the token of a call is tripped whose deadline passed. -/
def expiredReason (seconds : Double) : Json :=
  .text s!"timed out after {seconds.brief}s"

/-! ## The ends of a call -/

/-- The call ends with a trouble: any but a withdrawal is a failure, and the
    outcome tells it. -/
def refuse (d : Desk) (call : Nat) (t : Trouble) : Desk × List DeskEffect :=
  match t.within unexpected with
  | .failure f =>
    ({ d with outcome := d.outcome.fail f, pending := none }, [.finish call (.error (.failure f))])
  | other => ({ d with pending := none }, [.finish call (.error other)])

/-- Puts a question into the history, if there is one. -/
def remember (d : Desk) (question : String) (now : Moment) : Except Trouble Unit × Desk :=
  match d.rules.history with
  | none => (.ok (), d)
  | some h =>
    let (kept, shelf) := h.append (.text question) .null now d.shelf
    (kept.map fun _ => (), { d with shelf := shelf })

/-- The call ends well, once its question is in the history. -/
def conclude (d : Desk) (call : Nat) (question : String) (t : Resolution) (now : Moment) :
    Desk × List DeskEffect :=
  match d.remember question now with
  | (.error trouble, d) => d.refuse call trouble
  | (.ok (), d) =>
    ({ d with
        outcome := { d.outcome with filters := some t.filters, stage := .done }
        pending := none },
      [.finish call (.ok t)])

/-! ## The steps of a call -/

/-- The text that a question is; a value that does not count as present is the
    empty text. -/
def questionText : Json → Except Rejection String
  | .text s => .ok s
  | v => if v.isTruthy then .error ⟨"QueryOutcome", [⟨.wantsText, ["question"]⟩]⟩ else .ok ""

/-- The desk at a stage of its call. -/
def atStage (d : Desk) (stage : RequestStage) : Desk :=
  { d with outcome := { d.outcome with stage := stage } }

/-- What goes to the backend for a question: the model, its adapter and the
    post; and the prompts after their use. -/
def prepare (d : Desk) (question : String) (config : ClientConfig) :
    Except Trouble (ModelIdentity × String) × Desk :=
  if Text.allBlank question then (.error (.failure .blankQuestion), d)
  else
    match Gateway.validate config with
    | .error f => (.error (.failure f), d)
    | .ok m =>
      let (prompt, prompts) := d.prompts.questionPrompt question
      (prompt.map fun p => (m, p), { d with prompts := prompts })

/-- A call for which nobody can wait: its post goes out all the same, if it can. -/
def refuseWaiting (d : Desk) (call : Nat) (f : Fault) (post : Except Fault Post) :
    Desk × List DeskEffect :=
  let (d, effects) := d.refuse call (.fault f)
  (d, (post.toOption.map (DeskEffect.send call)).toList ++ effects)

/-- A caller asks, and no call waits. -/
def accept (d : Desk) (call : Nat) (question : Json) (config : ClientConfig) :
    Desk × List DeskEffect :=
  match questionText question with
  | .error r => (d, [.finish call (.error (.rejected r))])
  | .ok question =>
    let d := { d with outcome := { stage := .validating, question := question } }
    match d.prepare question config with
    | (.error t, d) => d.refuse call t
    | (.ok (m, prompt), d) =>
      let d := d.atStage .awaitingModel
      match Gateway.adapterFor config m with
      | .error f => d.refuse call (.fault f)
      | .ok adapter =>
        match d.rules.deadline.fault?, adapter.post (.text prompt) with
        | some f, post => d.refuseWaiting call f post
        | none, .error f => d.refuse call (.fault f)
        | none, .ok post =>
          ({ d with pending := some (call, .model question m adapter) }, [.send call post])

/-- The model has replied: the query in its reply, the filters of the query,
    and the request for the search. -/
def resolve (d : Desk) (call : Nat) (question : String) (completion : Completion) (now : Moment) :
    Desk × List DeskEffect :=
  let d := d.atStage .extracting
  match Reply.queryOf completion.text question with
  | .error t => d.refuse call t
  | .ok query =>
    let d := { d with outcome := { d.outcome with query := some query, stage := .compiling } }
    let filters := Filters.ofQuery query
    match SearchRequest.build filters now d.rules.lookback d.rules.limit with
    | .error f => d.refuse call (.fault f)
    | .ok request =>
      let t : Resolution := ⟨query, filters, completion, request⟩
      if d.rules.searches then
        ({ d with pending := some (call, .search question t) }, [.search call request])
      else d.conclude call question t now

/-- The backend answers the call that waits for it. -/
def resume (d : Desk) (call : Nat) (question : String) (m : ModelIdentity) (adapter : Adapter)
    (answer : Answer) (now : Moment) : Desk × List DeskEffect :=
  match Gateway.completionFrom adapter m answer with
  | .error t => d.refuse call t
  | .ok completion => d.resolve call question completion now

/-- The exchange of a call is abandoned, for a reason. -/
def abandon (d : Desk) (call : Nat) (adapter : Adapter) (reason : Json) : Desk :=
  { d with abandoned := ⟨call, adapter, Token.fresh.trip reason⟩ :: d.abandoned }

/-- The backend answers a call that does not wait for it: nothing comes of it. -/
def answerLate (d : Desk) (call : Nat) (answer : Answer) : Desk × List DeskEffect :=
  match d.abandoned.find? fun a => a.call == call with
  | none => (d, [])
  | some a =>
    ({ d with abandoned := d.abandoned.filter fun b => b.call != call },
      [.discard call (a.adapter.receive a.token answer)])

/-! ## Events -/

/-- One event. -/
def step (d : Desk) : DeskEvent → Desk × List DeskEffect
  | .ask call question config =>
    if d.busy then (d, [.finish call (.error (.failure .inProgress))])
    else d.accept call question config
  | .answer call answer now =>
    match d.pending with
    | some (waiting, .model question m adapter) =>
      if waiting == call then d.resume call question m adapter answer now
      else d.answerLate call answer
    | _ => d.answerLate call answer
  | .expire call =>
    match d.pending, d.rules.deadline.seconds? with
    | some (waiting, .model _ _ adapter), some seconds =>
      if waiting == call then
        (d.abandon call adapter (expiredReason seconds)).refuse call (.failure (.timeout seconds))
      else (d, [])
    | _, _ => (d, [])
  | .withdraw call =>
    match d.pending with
    | some (waiting, .model _ _ adapter) =>
      if waiting == call then
        (d.abandon call adapter withdrawnReason).refuse call (.withdrawn "")
      else (d, [])
    | some (waiting, .search _ _) =>
      if waiting == call then d.refuse call (.withdrawn "") else (d, [])
    | none => (d, [])
  | .searched call said now =>
    match d.pending with
    | some (waiting, .search question t) =>
      if waiting == call then
        match said with
        | .error trouble => d.refuse call (trouble.within searchFailed)
        | .ok () => d.conclude call question t now
      else (d, [])
    | _ => (d, [])

/-- A list of events, and all their effects. -/
def run (d : Desk) : List DeskEvent → Desk × List DeskEffect
  | [] => (d, [])
  | e :: rest =>
    let (d, first) := d.step e
    let (d, others) := d.run rest
    (d, first ++ others)

/-! ## Laws -/

/-- While a call waits, another is turned away and the desk stays as it is. -/
theorem step_ask_of_pending {d : Desk} (h : d.busy = true) (call : Nat) (question : Json)
    (config : ClientConfig) :
    d.step (.ask call question config) = (d, [.finish call (.error (.failure .inProgress))]) := by
  simp [step, h]

/-- A call that has ended waits no longer. -/
theorem refuse_pending (d : Desk) (call : Nat) (t : Trouble) :
    (d.refuse call t).1.pending = none := by
  unfold refuse
  split <;> rfl

end Desk

end SpanQuest
