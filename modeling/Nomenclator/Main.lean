import Nomenclator.Command.Program
import Nomenclator.Service.Wire
import Std.Async

/-!
# The executable

Brings in what a run may look at, sends its calls, and carries out what it leaves behind. A run is a
function of the replies it gets, so it is started over with one more reply for every call that it
makes, and nothing of it shows before the last one is in.
-/

open Std.Async (Async Selectable Selector)

namespace Nomenclator.Executable

/-! ## Files -/

def stringOf (t : Text) : String := String.ofList (t.map fun r => Char.ofNat r.code)

def systemPath (location : Location) :=
  System.mkFilePath (if location.isEmpty then ["/"] else "" :: location.map stringOf)

/-- Does a run look at a file of this name when it finds it in a directory? -/
def isWanted (name : Text) : Bool := Listing.defaultExtensions.any name.endsWith

/-- The content of a file. What the system does not give out is locked. -/
def contentAt (location : Location) : IO Content := do
  try
    return .bytes (← IO.FS.readBinFile (systemPath location)).toList
  catch
    | .permissionDenied .. => return .locked .denied
    | _ => return .locked .damaged

/-- Loads everything below a directory that a run may look at. -/
partial def loadBelow (tree : FileTree) (directory : Location) : IO FileTree := do
  let mut tree := tree
  for entry in ← (systemPath directory).readDir do
    let name := Text.ofString entry.fileName
    let location := directory ++ [name]
    match (← entry.path.symlinkMetadata).type with
    | .dir => tree ← loadBelow (tree.plant location .directory) location
    | .file =>
      if isWanted name then
        tree := tree.plant location (.file (← contentAt location))
    | .symlink =>
      -- a link to a directory is not followed, so no loop of links is walked
      if isWanted name && !(← entry.path.isDir) && (← entry.path.pathExists) then
        tree := tree.plant location (.file (← contentAt location))
    | .other => pure ()
  return tree

/-- Loads what a walk along `names` from a directory comes across. -/
partial def loadAlong (tree : FileTree) (directory : Location) : List Text → IO FileTree
  | [] => loadBelow tree directory
  | name :: rest => do
    if name == Text.ofString ".." then loadAlong tree directory.dropLast rest
    else
      let location := directory ++ [name]
      let path := systemPath location
      if !(← path.pathExists) then return tree
      match (← path.symlinkMetadata).type with
      | .dir => loadAlong (tree.plant location .directory) location rest
      | .file => return tree.plant location (.file (← contentAt location))
      | .symlink =>
        let target := Text.ofString (← IO.FS.realPath path).toString
        loadAlong (tree.plant location (.link target)) [] (Path.namesIn target ++ rest)
      | .other => return tree

/-- Loads a path and the result file beside it; what cannot be read counts as missing. -/
def load (tree : FileTree) (base : Location) (path : Path) : IO FileTree := do
  let start := if path.root = .relative then base else []
  let mut tree := tree
  for names in path.names :: ((outputPath? path).map Path.names).toList do
    try tree ← loadAlong tree start names
    catch _ => pure ()
  return tree

/-- Writes the files that a run has changed. -/
def save (before after : FileTree) : IO Unit := do
  for (location, bytes) in before.changes after do
    IO.FS.writeBinFile (systemPath location) (ByteArray.mk bytes.toArray)

/-! ## The environment -/

/-- The names that a text mentions; a variable that no environment file mentions does not matter. -/
def namesIn (t : Text) : List Text :=
  let marked := t.map fun r => if isIdentifier [r] || r.isAsciiDigit then r else ⟨0x20⟩
  (Text.piecesAt ⟨0x20⟩ marked).filter fun name => !name.isEmpty

def environmentFor (tree : FileTree) (base : Location) (root home : Path) : IO Environment := do
  let texts := (Environment.filePaths [root] home).map fun path =>
    (tree.read base path).toOption.elim [] Utf8.decodeReplacing
  let fixed : List Text :=
    [Environment.baseUrlVariable, Environment.modelVariable, Environment.disablingVariable]
  let mut environment : Environment := []
  for name in fixed ++ texts.flatMap namesIn do
    if let some value ← IO.getEnv (stringOf name) then
      environment := environment.put name (Text.ofString value)
  return environment

/-! ## Calls -/

def day : Int := 86400000

/-- A time of so many seconds in milliseconds, a day at most. -/
def milliseconds : Value → Int
  | .real (.finite false m e) =>
    let (num, den) := scaleByTwo (m * 1000) 1 (-e)
    min day (num / den)
  | _ => day

/-- Runs a step within a time. -/
def within {α : Type} (time : Value) (step : Async (Option α)) : Async (Option α) :=
  Async.race step do
    let selector ← Selector.sleep (Std.Time.Millisecond.Offset.ofInt (milliseconds time))
    Selectable.one #[.case selector fun _ => pure none]

/-- Reads until the other side closes the connection. -/
partial def receiveAll (socket : Std.Async.TCP.Socket.Client) (bytes : ByteArray) :
    Async ByteArray := do
  match ← socket.recv? 65536 with
  | none => return bytes
  | some more => receiveAll socket (bytes ++ more)

def socketAddress (address : Std.Net.IPAddr) (number : UInt16) : Std.Net.SocketAddress :=
  match address with
  | .v4 address => .v4 ⟨address, number⟩
  | .v6 address => .v6 ⟨address, number⟩

def fault (kind : TransportKind) (message : String) : Service.Reply :=
  .fault ⟨kind, Text.ofString message⟩

/-- Sends a call and waits for the reply. -/
def exchange (call : Service.Call) (address : Service.Address) : Async Service.Reply := do
  let hosts ← Std.Async.DNS.getAddrInfo (stringOf address.host) ""
  let some host := hosts[0]? | return fault .connection "Name or service not known"
  let socket ← Std.Async.TCP.Socket.Client.mk
  let connected ← within call.connectTimeout do
    socket.connect (socketAddress host address.number.toUInt16)
    return some ()
  if connected.isNone then return fault .connectTimeout "connect timed out"
  socket.send (stringOf (call.wireText address)).toUTF8
  match ← within call.readTimeout (some <$> receiveAll socket .empty) with
  | none => return fault .readTimeout "Read timed out."
  | some bytes =>
    match Service.Response.ofWire? bytes.toList with
    | some response => return .response response
    | none => return fault .connection "Remote end closed connection without response"

def send (call : Service.Call) : IO Service.Reply := do
  match Service.Address.ofUrl? call.url with
  | none => return fault (.other (Text.ofString "InvalidURL")) "No connection adapters were found"
  | some address =>
    try (exchange call address).block
    catch error => return fault .connection (toString error)

/-! ## Runs -/

/-- Runs the program, one more reply at a time. -/
partial def runWith (surroundings : Command.Surroundings) (words : List Text) :
    IO Command.Outcome := do
  let outcome := Command.run surroundings words
  save surroundings.tree outcome.tree
  match outcome.calls.drop surroundings.replies.length with
  | [] => return outcome
  | call :: _ =>
    runWith { surroundings with replies := surroundings.replies ++ [← send call] } words

def standardWidth : Nat := 80

def surroundingsFor (words : List Text) : IO Command.Surroundings := do
  let root := Path.ofText (Text.ofString (← IO.currentDir).toString)
  let home := Path.ofText (Text.ofString ((← IO.getEnv "HOME").getD "/"))
  let columns := (← IO.getEnv "COLUMNS").bind String.toNat?
  let mut tree := FileTree.empty.plant root.names .directory
  for path in root.child Project.fileName :: Environment.filePaths [root] home ++
      words.map Path.ofText do
    tree ← load tree root.names path
  return {
    tree, root, home
    base := root.names
    environment := ← environmentFor tree root.names root home
    width := columns.getD standardWidth
    replies := [] }

end Nomenclator.Executable

open Nomenclator in
def main (args : List String) : IO UInt32 := do
  let words := args.map Text.ofString
  let outcome ← Executable.runWith (← Executable.surroundingsFor words) words
  IO.print (Executable.stringOf outcome.output)
  IO.eprint (Executable.stringOf outcome.errors)
  match outcome.ending with
  | .ok code => return code.toUInt32
  | .error escape =>
    IO.eprintln (Executable.stringOf escape.message)
    return 1
