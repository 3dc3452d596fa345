import Nomenclator.Number.Reading
import Nomenclator.Settings.Basic
import Nomenclator.Settings.Environment
import Nomenclator.Settings.Project

/-!
# Where settings come from

An option counts more than a variable of the environment, a variable more than the project file, and
the project file more than the defaults. An empty option or variable counts as none.
-/

namespace Nomenclator.Settings

/-- What the user asked for on the command line. -/
structure Options where
  baseUrl : Option Text
  model : Option Text
  timeout : Option Value

/-- The value as a real number. -/
def toReal : Value → Except Escape Binary64
  | .boolean b => .ok (if b then .one else .zero false)
  | .integer n =>
    match Binary64.ofInt? n with
    | some x => .ok x
    | none => .error .overflow
  | .real x => .ok x
  | .text t =>
    match readReal? t with
    | some x => .ok x
    | none =>
      .error (.badValue (Text.concat ["could not convert string to float: ", t.quoted]))
  | _ => .error .wrongType

/-- A temperature that is no number counts as none, if it can be told. -/
def temperatureOf : Value → Except Escape Value × Log
  | .null => (.ok .null, [])
  | value =>
    match toReal value with
    | .ok x => (.ok (.real x), [])
    | .error .overflow => (.error .overflow, [])
    | .error _ =>
      if value.isSpelled then
        (.ok .null,
          [⟨.warning, .settings,
            Text.concat ["Ignoring non-numeric temperature ", value.written]⟩])
      else (.error (.badValue Value.notSpelledMessage), [])

/-- The first of an option and a variable of the environment that is not empty. -/
def firstNonEmpty (option envValue : Option Text) : Option Text :=
  (option.filter fun t => !t.isEmpty) <|> (envValue.filter fun t => !t.isEmpty)

/-- A name or address: option, variable of the environment, project file, default. -/
def choose (option envValue : Option Text) (project : Option Value) (default : Text) : Value :=
  match firstNonEmpty option envValue with
  | some t => .text t
  | none => project.getD (.text default)

/-- Puts settings together once the environment is complete and the project file is read. -/
def combine (options : Options) (environment : Environment) (project : Entries Value) :
    Except Escape Settings × Log :=
  let baseUrl :=
    choose options.baseUrl (environment.get? Environment.baseUrlVariable)
      (project.get? "base_url") defaultBaseUrl
  let model :=
    choose options.model (environment.get? Environment.modelVariable) (project.get? "model")
      defaultModel
  let timeout := options.timeout <|> project.get? "timeout"
  match toReal (timeout.getD (.real defaultTimeout)) with
  | .error e => (.error e, [])
  | .ok timeout =>
    match toReal ((project.get? "connect_timeout").getD (.real defaultConnectTimeout)) with
    | .error e => (.error e, [])
    | .ok connectTimeout =>
      match temperatureOf ((project.get? "temperature").getD .null) with
      | (.error e, log) => (.error e, log)
      | (.ok temperature, log) =>
        match make baseUrl model (.real timeout) (.real connectTimeout) temperature with
        | .error e => (.error e, log)
        | .ok settings =>
          if settings.canBeTold then (.ok settings, log ++ [settings.record])
          else (.error (.badValue Value.notSpelledMessage), log)

/-- What a resolution leaves: its result, the completed environment and what there is to log. -/
structure Resolution where
  result : Except Escape Settings
  environment : Environment
  log : Log

/-- Resolves the settings of a project below `root`. -/
def resolve (options : Options) (environment : Environment) (tree : FileTree) (base : Location)
    (root home : Path) : Resolution :=
  match environment.load tree base (Environment.filePaths [root] home) with
  | (.error e, environment, log) => ⟨.error e, environment, log⟩
  | (.ok (), environment, log) =>
    match Project.load tree base (root.child Project.fileName) with
    | (.error e, more) => ⟨.error e, environment, log ++ more⟩
    | (.ok project, more) =>
      let (result, last) := combine options environment project
      ⟨result, environment, log ++ more ++ last⟩

end Nomenclator.Settings
