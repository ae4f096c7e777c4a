import Monocycle.Value.Json
import Monocycle.Web.StateView

/-!
# The web interface

Requests to a simulator over the web, and their answers. Each request changes the simulator as
the operation it names does; a request that is refused changes nothing.

Data comes with a request as JSON. Where there is none, or none that can be read, the request
counts as having empty data; data that is given but is no map is something the interface cannot
deal with, and fails.

## Main definitions

* `Request`, `Response`: with the data a body holds (`Request.payloadOf`).
* `Route`: the paths that exist and the method each is asked with.
* `Simulator.answer`: the answer to a request, and the simulator afterwards.
-/

namespace Monocycle

/-! ### Requests and responses -/

/-- **Request** for an operation. -/
structure Request where
  method : String
  /-- The path, perhaps with a query behind it. -/
  path : String
  /-- The data of the request, if it comes with any that can be read. -/
  payload? : Option Value

/-- Whether a media type stands for JSON: `application/json`, or an application type whose name
ends in `+json`. Parameters and letter case do not matter. -/
def isJsonType (contentType : Text) : Bool :=
  let name := Text.lower (Text.strip (contentType.takeWhile (· != ';')))
  name == "application/json".toList ||
    ("application/".toList.isPrefixOf name && "+json".toList.isSuffixOf name)

/-- The data in a body, if its type is JSON and it can be read. A byte order mark in front of the
text is not part of it. -/
def Request.payloadOf (contentType body : Text) : Option Value :=
  if isJsonType contentType then
    match body with
    | '\ufeff' :: rest => Json.read? rest
    | _ => Json.read? body
  else none

/-- **Response** to a request: a status and perhaps a value. -/
structure Response where
  status : Nat
  body? : Option Value

/-- The origins whose pages may read a response: all of them. -/
def Response.allowedOrigin : String := "*"

namespace Response

/-- The response to a request that was carried out. -/
def ok (entries : Entries) : Response := ⟨200, some (.map entries)⟩

/-- The response to a request that makes no sense, with the reason. -/
def badRequest (entries : Entries) : Response := ⟨400, some (.map entries)⟩

/-- The response to a request for a path that does not exist. -/
def notFound : Response := ⟨404, none⟩

/-- The response to a request with a method that its path does not take. -/
def methodNotAllowed : Response := ⟨405, none⟩

/-- The response to a request that the interface cannot deal with. -/
def failure : Response := ⟨500, none⟩

/-- The response to a question about a path rather than for it. -/
def empty : Response := ⟨200, none⟩

end Response

/-! ### Routes -/

/-- **Route**: an operation that can be requested. -/
inductive Route where
  | load | step | run | reset | state
  deriving DecidableEq, Repr

namespace Route

/-- The paths of the operations. -/
def paths : List (String × Route) :=
  [("/load", load), ("/step", step), ("/run", run), ("/reset", reset), ("/state", state)]

/-- The operation at a path; a query behind the path does not matter. -/
def ofPath? (path : String) : Option Route :=
  (paths.find? fun entry =>
    entry.1.toList == path.toList.takeWhile fun c => c != '?' && c != '#').map (·.2)

/-- The method an operation is requested with. -/
def method : Route → String
  | load | step | run | reset => "POST"
  | state => "GET"

end Route

/-! ### Data of requests -/

/-- The data of a request as a map. What is missing or does not count as given is empty; `none`
is data that is given but is no map. -/
def Request.entries? (payload? : Option Value) : Option Entries :=
  match payload? with
  | none => some []
  | some (.map entries) => some entries
  | some v => if v.isTruthy then none else some []

/-- Why a value gives no step limit. -/
inductive LimitError where
  /-- The value does not stand for an integer. -/
  | notAnInteger
  /-- The value is an infinite number. -/
  | infinite
  deriving DecidableEq, Repr

/-- **Step limit** a value stands for: an integer, the integer part of another number, or a text
that is a decimal integer. -/
def limitOf (v : Value) : Except LimitError Int :=
  match v with
  | .real (.infinite _) => .error .infinite
  | .real r =>
    match r.truncate? with
    | some n => .ok n
    | none => .error .notAnInteger
  | .text s =>
    match Text.integer? s.toList with
    | some n => .ok n
    | none => .error .notAnInteger
  | v =>
    match v.int? with
    | some n => .ok n
    | none => .error .notAnInteger

/-! ### Answers -/

namespace Simulator

/-- The response that tells the state, with more entries in front. -/
def stateResponse (s : Simulator) (more : Entries) : Response :=
  match s.stateEntries with
  | .ok entries => .ok (more ++ entries)
  | .error _ => .failure

/-- The answer to a request to load a program. -/
def answerLoad (s : Simulator) (payload? : Option Value) : Simulator × Response :=
  match Request.entries? payload? with
  | none => (s, .failure)
  | some entries =>
    match entries.get? "program" with
    | some (.text source) =>
      let turn := s.load source.toList
      match turn.answer with
      | .error _ => (turn.simulator, .failure)
      | .ok (.rejected e) =>
        (turn.simulator, .badRequest [("error", .text e.message),
          ("line", .ofOption (fun site => .int (site.line : Int)) e.site?),
          ("mnemonic", .ofOption .ofText (e.site?.bind (·.mnemonic?)))])
      | .ok (.loaded count) =>
        (turn.simulator, turn.simulator.stateResponse [("instructionCount", .int count)])
    | _ => (s, .badRequest [("error", .text "missing 'program'")])

/-- The answer to a request for one step. -/
def answerStep (s : Simulator) : Simulator × Response :=
  let turn := s.step
  match turn.answer with
  | .error _ => (turn.simulator, .failure)
  | .ok outcome =>
    (turn.simulator, turn.simulator.stateResponse [("outcome", outcome.toValue)])

/-- The answer to a request for a run. The run has no pause, and without a limit of its own it
has the one of the settings. -/
def answerRun (s : Simulator) (payload? : Option Value) : Simulator × Response :=
  match Request.entries? payload? with
  | none => (s, .failure)
  | some entries =>
    let limit := (entries.get? "max_steps").getD (Settings.valueOf s.settings.run "max_steps")
    match limitOf limit with
    | .error .infinite => (s, .failure)
    | .error .notAnInteger =>
      (s, .badRequest [("error", .text "'max_steps' must be an integer")])
    | .ok n =>
      let turn := s.run ⟨some n, none, some 0⟩
      match turn.answer with
      | .error _ => (turn.simulator, .failure)
      | .ok result =>
        (turn.simulator, turn.simulator.stateResponse
          [("steps", .int result.steps), ("outcome", .ofOption (·.toValue) result.last?)])

/-- The answer to a request to start the program over. -/
def answerReset (s : Simulator) : Simulator × Response :=
  let turn := s.reset
  (turn.simulator, turn.simulator.stateResponse [])

/-- The answer to a request for an operation with the method it takes. -/
def answerRoute (s : Simulator) (route : Route) (payload? : Option Value) : Simulator × Response :=
  match route with
  | .load => s.answerLoad payload?
  | .step => s.answerStep
  | .run => s.answerRun payload?
  | .reset => s.answerReset
  | .state => (s, s.stateResponse [])

/-- **Answer** to a request, and the simulator afterwards. Every path can be asked for the
methods it takes, and one that takes `GET` also for its answer without the body. -/
def answer (s : Simulator) (r : Request) : Simulator × Response :=
  match Route.ofPath? r.path with
  | none => (s, .notFound)
  | some route =>
    let method := String.ofList (r.method.toList.map Char.toUpper)
    if method = route.method then s.answerRoute route r.payload?
    else if method = "OPTIONS" then (s, .empty)
    else if method = "HEAD" && route.method = "GET" then
      (s, ⟨(s.answerRoute route none).2.status, none⟩)
    else (s, .methodNotAllowed)

/-- The answers to some requests in order. -/
def answers (s : Simulator) : List Request → Simulator × List Response
  | [] => (s, [])
  | r :: rest =>
    let (s, response) := s.answer r
    let (s, later) := s.answers rest
    (s, response :: later)

end Simulator

end Monocycle
