import Nomenclator.Failure.Escape
import Nomenclator.Log
import Nomenclator.Value.Basic

/-!
# Settings

How the service is reached and asked. Settings never change; a change makes new ones, checked like
the first.
-/

namespace Nomenclator

/-! ## Integers that can be spelled out -/

namespace Value

/-- An integer is spelled out up to so many digits. -/
def spelledDigits : Nat := 4300

mutual

/-- Has every integer in a value few enough digits to be spelled out? -/
def isSpelled : Value → Bool
  | .integer n => (Text.ofNat n.natAbs).length ≤ spelledDigits
  | .list items => areSpelled items
  | .table entries => areSpelledIn entries
  | _ => true

def areSpelled : List Value → Bool
  | [] => true
  | item :: rest => isSpelled item && areSpelled rest

def areSpelledIn : List (Text × Value) → Bool
  | [] => true
  | (_, value) :: rest => isSpelled value && areSpelledIn rest

end

def notSpelledMessage : Text :=
  Text.concat
    ["Exceeds the limit (", Text.ofNat spelledDigits,
      " digits) for integer string conversion; use sys.set_int_max_str_digits() to increase ",
      "the limit"]

end Value

/-! ## Settings -/

/-- The fields hold whatever a settings file gave; a model has to be named, and the timeouts are
numbers that are not known to be zero or below. -/
structure Settings where
  baseUrl : Value
  model : Value
  timeout : Value
  connectTimeout : Value
  temperature : Value
  model_named : model.isTrue = true
  timeout_ok : timeout.atMostZero? = some false
  connectTimeout_ok : connectTimeout.atMostZero? = some false

namespace Settings

def defaultBaseUrl : Text := "http://127.0.0.1:11434"

def defaultModel : Text := "aidapal"

def defaultTimeout : Binary64 := Binary64.ofNat 300

def defaultConnectTimeout : Binary64 := Binary64.ofNat 10

def noModelMessage : Text := "model is required - set OLLAMA_MODEL or pass --model"

/-- What is said of a timeout that is zero or below. -/
def notPositiveMessage (field : Text) (value : Value) : Text :=
  if value.isSpelled then Text.concat [field, " must be positive, got ", value.shown]
  else Value.notSpelledMessage

/-- A timeout that is a number and not known to be zero or below. -/
def checkTimeout (field : Text) (value : Value) :
    Except Escape (PLift (value.atMostZero? = some false)) :=
  if h : value.atMostZero? = some false then .ok ⟨h⟩
  else if value.atMostZero?.isSome then .error (.badValue (notPositiveMessage field value))
  else .error .wrongType

def make (baseUrl model timeout connectTimeout temperature : Value) : Except Escape Settings :=
  if h : model.isTrue = true then
    match checkTimeout "timeout" timeout, checkTimeout "connect_timeout" connectTimeout with
    | .ok ⟨ht⟩, .ok ⟨hc⟩ =>
      .ok ⟨baseUrl, model, timeout, connectTimeout, temperature, h, ht, hc⟩
    | .error e, _ => .error e
    | _, .error e => .error e
  else .error (.badValue noModelMessage)

/-- The settings of a run that sets nothing. -/
def default : Settings where
  baseUrl := .text defaultBaseUrl
  model := .text defaultModel
  timeout := .real defaultTimeout
  connectTimeout := .real defaultConnectTimeout
  temperature := .null
  model_named := by decide
  timeout_ok := by decide
  connectTimeout_ok := by decide

def withBaseUrl (s : Settings) (baseUrl : Value) : Except Escape Settings :=
  make baseUrl s.model s.timeout s.connectTimeout s.temperature

def withModel (s : Settings) (model : Value) : Except Escape Settings :=
  make s.baseUrl model s.timeout s.connectTimeout s.temperature

def withTimeout (s : Settings) (timeout : Value) : Except Escape Settings :=
  make s.baseUrl s.model timeout s.connectTimeout s.temperature

/-- The fields by name, in their order. -/
def fields (s : Settings) : Entries Value :=
  [("base_url", s.baseUrl), ("model", s.model), ("timeout", s.timeout),
    ("connect_timeout", s.connectTimeout), ("temperature", s.temperature)]

def canBeTold (s : Settings) : Bool := s.fields.all fun field => field.2.isSpelled

/-- The record of settings as they were resolved. -/
def record (s : Settings) : Record :=
  let shown := s.fields.map fun (name, value) => Text.concat [name, "=", value.written]
  ⟨.debug, .settings,
    Text.concat
      ["Resolved configuration: OneiromancerConfig(", Text.join ", " shown, ")"]⟩

end Settings

end Nomenclator
