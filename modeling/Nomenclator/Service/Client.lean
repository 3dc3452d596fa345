import Nomenclator.Json.Reader
import Nomenclator.Number.Decimal
import Nomenclator.Files.Path
import Nomenclator.Service.Query

/-!
# The client

Calls go to a server, one at a time. What comes back is a reply, and every reply has one outcome:
the body of a response that was accepted, or a failure.
-/

namespace Nomenclator.Service

/-! ## Calls and replies -/

inductive Method where
  | get
  | post
deriving DecidableEq, Repr

/-- A call with the time allowed for connecting and for reading. Only `post` carries a query. -/
structure Call where
  method : Method
  url : Text
  connectTimeout : Value
  readTimeout : Value
  query : Option Query
deriving Repr

structure Response where
  status : Int
  reason : Option Text
  body : Text
deriving DecidableEq, Repr

inductive Reply where
  | response (response : Response)
  | fault (fault : TransportFault)
  /-- The operating system broke the connection. -/
  | system (message : Text)
  /-- The user did not want to wait. -/
  | interrupted
deriving DecidableEq, Repr

/-- The outcome of a step that may have called the server. -/
structure Exchange (α : Type) where
  result : Except Halt α
  calls : List Call
  log : Log

/-! ## Addresses -/

def generateEndpoint : Text := "/api/generate"

def tagsEndpoint : Text := "/api/tags"

/-- The address of an endpoint. Blanks around the base and slashes at its end do not count, and
without them something has to be left. -/
def url (settings : Settings) (endpoint : Text) : Except Halt Text :=
  match settings.baseUrl with
  | .text t =>
    match Text.dropEndWhile (· == Path.slash) t.strip with
    | [] => .error (.failed (.service .noBaseUrl))
    | base => .ok (base ++ endpoint)
  | _ => .error (.escaped .missingMember)

/-! ## Outcomes -/

/-- Statuses from 400 to 599 are errors. -/
def Response.isAccepted (response : Response) : Bool :=
  response.status < 400 || 600 ≤ response.status

/-- The time that was allowed, for a message. -/
def secondsText : Value → Except Escape Text
  | .real x => .ok x.general
  | .integer n =>
    match Binary64.ofInt? n with
    | some x => .ok x.general
    | none => .error .overflow
  | .boolean b => .ok (if b then "1" else "0")
  | _ => .error .wrongType

/-- What a server says about an error, in its body or else in its status line. -/
def errorDetail (response : Response) : Except Escape Text :=
  let reason :=
    match response.reason with
    | some reason => if reason.isEmpty then Text.ofString "unknown error" else reason
    | none => "unknown error"
  match Json.decode response.body with
  | .error .tooDeep => .error .nestingTooDeep
  | .error _ => .ok reason
  | .ok (.table entries) =>
    match Entries.get? "error" entries with
    | some detail => .ok (if detail.isTrue then detail.shown else reason)
    | none => .ok reason
  | .ok _ => .ok reason

/-- The outcome of a reply to a call at `url`. -/
def receive (settings : Settings) (url : Text) : Reply → Except Halt Response
  | .response response =>
    if response.isAccepted then .ok response
    else
      match errorDetail response with
      | .ok detail => .error (.failed (.service (.status url response.status detail)))
      | .error escape => .error (.escaped escape)
  | .fault fault =>
    if fault.kind.isTimeout then
      match secondsText settings.timeout with
      | .ok after => .error (.failed (.service (.timedOut url after fault)))
      | .error escape => .error (.escaped escape)
    else if fault.kind.isConnection then .error (.failed (.service (.unreachable url fault)))
    else .error (.failed (.service (.rejected url fault)))
  | .system message => .error (.escaped (.system message))
  | .interrupted => .error (.escaped .interrupted)

/-! ## Asking for an analysis -/

def queryLog (query : Query) (url : Text) : Log :=
  [⟨.info, .service, Text.concat ["Querying model ", query.model.shown, " at ", url]⟩,
    ⟨.debug, .service,
      Text.concat
        ["Prompt length: ", Text.ofNat query.prompt.length, " chars, options: ",
          (Value.table query.options).written]⟩]

def bodyPreviewLength : Nat := 500

/-- The time that a call took is rounded to hundredths of a second; a reply that is at hand takes
none. -/
def responseLog (response : Response) : Log :=
  [⟨.debug, .service,
      Text.concat ["HTTP response status: ", Text.ofInt response.status, " after 0.00s"]⟩,
    ⟨.debug, .service,
      Text.concat ["Raw response preview: ", response.body.take bodyPreviewLength]⟩]

/-- Sends a query and takes the body of the response. -/
def generate (settings : Settings) (query : Query) (reply : Reply) : Exchange Text :=
  match url settings generateEndpoint with
  | .error halt => ⟨.error halt, [], []⟩
  | .ok url =>
    let call : Call := ⟨.post, url, settings.connectTimeout, settings.timeout, some query⟩
    match receive settings url reply with
    | .error halt => ⟨.error halt, [call], queryLog query url⟩
    | .ok response => ⟨.ok response.body, [call], queryLog query url ++ responseLog response⟩

/-! ## Asking for the models -/

/-- The names of the models that a server lists; what has no name is left out. -/
def modelNames : Value → Except Escape (List Value)
  | .table entries =>
    match (Entries.get? "models" entries).getD (.list []) with
    | .list models =>
      .ok (models.filterMap fun
        | .table model => Entries.get? "name" model
        | _ => none)
    | .text _ | .table _ => .ok []
    | _ => .error .wrongType
  | _ => .ok []

/-- The model names in the body of a response. -/
def modelsIn (url body : Text) : Except Halt (List Value) :=
  match Json.decode body with
  | .error stop => .error (stop.halt body fun cause => .service (.unreadableModels url cause))
  | .ok value => (modelNames value).mapError .escaped

def listModels (settings : Settings) (reply : Reply) : Exchange (List Value) :=
  match url settings tagsEndpoint with
  | .error halt => ⟨.error halt, [], []⟩
  | .ok url =>
    let call : Call := ⟨.get, url, settings.connectTimeout, settings.timeout, none⟩
    match receive settings url reply with
    | .error halt => ⟨.error halt, [call], []⟩
    | .ok response => ⟨modelsIn url response.body, [call], []⟩

end Nomenclator.Service
