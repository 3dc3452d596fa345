import Nomenclator.Command.Run
import Nomenclator.Service.Model

/-!
# The status command

Shows the settings, asks the server for its models, and tells whether the one in the settings is
among them.
-/

namespace Nomenclator.Command.Status

open Console

def heading : Text := "[bold cyan]Ollama Configuration Status[/bold cyan]\n"

def baseUrlLine (baseUrl : Text) : Text := Text.concat ["Base URL: ", Markup.escape baseUrl]

def modelLine (model : Text) : Text := Text.concat ["Model: ", Markup.escape model]

def timeoutLine (seconds : Text) : Text := Text.concat ["Timeout: ", seconds, "s"]

def modelsLine (names : List Text) : Text :=
  Text.concat
    ["Server models: ",
      if names.isEmpty then Text.ofString "none" else Markup.escape (Text.join ", " names)]

def availableLine (model : Text) : Text :=
  Text.concat ["[green]Model '", Markup.escape model, "' is available[/green]"]

def missingLine (model : Text) : Text :=
  Text.concat
    ["[red]Model '", Markup.escape model, "' is not available (try: ollama pull ",
      Markup.escape model, ")[/red]"]

def exitMissing : Nat := 1

/-- Tells whether a server that lists `names` has the model. -/
def conclude (width : Nat) (model : Text) (names : List Value) (run : Run) : Ending × Run :=
  match names.mapM Value.asText? with
  | none => (.escaped .wrongType, run)
  | some names =>
    run.sayThen (.one (printed width (modelsLine names))) fun run =>
      if isModelAvailable model names then
        run.sayThen (.one (printed width (availableLine model))) fun run => (.exit exitDone, run)
      else
        run.sayThen (.one (printed width (missingLine model))) fun run => (.exit exitMissing, run)

/-- Asks the server for its models. -/
def ask (settings : Settings) (width : Nat) (model : Text) (run : Run) : Ending × Run :=
  let reply := run.replies.headD (Service.backend settings).silence
  let exchange := Service.listModels settings reply
  let run := run.tookReply exchange.calls exchange.log
  match exchange.result with
  | .ok names => conclude width model names run
  | .error (.failed failure) =>
    run.sayThen (Report.ofFailure width failure) fun run => (.exit failure.exitCode, run)
  | .error (.escaped .interrupted) => (.brokenOff, run)
  | .error (.escaped escape) => (.escaped escape, run)

/-- Settings from a project file may hold an address or a name that is no text; it cannot be
shown. -/
def perform (settings : Settings) (width : Nat) (run : Run) : Ending × Run :=
  run.sayThen (.one (printed width heading)) fun run =>
    match settings.baseUrl with
    | .text baseUrl =>
      run.sayThen (.one (printed width (baseUrlLine baseUrl))) fun run =>
        match settings.model with
        | .text model =>
          run.sayThen (.one (printed width (modelLine model))) fun run =>
            match Service.secondsText settings.timeout with
            | .ok seconds =>
              run.sayThen (.one (printed width (timeoutLine seconds))) (ask settings width model)
            | .error escape => (.escaped escape, run)
        | _ => (.escaped .wrongType, run)
    | _ => (.escaped .wrongType, run)

end Nomenclator.Command.Status
