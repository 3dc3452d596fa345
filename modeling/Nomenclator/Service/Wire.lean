import Nomenclator.Service.Client

/-!
# Calls on the wire

A call as the bytes of an HTTP request, and the bytes of a response as data. A connection serves one
call, so a response ends where the connection does.
-/

namespace Nomenclator.Service

/-! ## Addresses -/

/-- Where a call goes. The number tells which of the services of a host is meant. -/
structure Address where
  host : Text
  number : Nat
  target : Text
deriving DecidableEq, Repr

namespace Address

def scheme : Text := "http://"

def standardNumber : Nat := 80

def numberLimit : Nat := 65536

def readNumber? (t : Text) : Option Nat :=
  if !t.isEmpty && t.all Rune.isAsciiDigit && Text.digitsValue t < numberLimit then
    some (Text.digitsValue t)
  else none

/-- Reads an address; the number may be left out. -/
def ofUrl? (url : Text) : Option Address :=
  if url.startsWith scheme then
    let rest := url.drop scheme.length
    let server := rest.takeWhile (· != Path.slash)
    let target := rest.drop server.length
    match Text.cutAt? ⟨0x3A⟩ server with
    | none => some ⟨server, standardNumber, target⟩
    | some (host, number) => (readNumber? number).map fun number => ⟨host, number, target⟩
  else none

end Address

/-! ## Requests -/

def lineEnd : Text := "\r\n"

def Method.name : Method → Text
  | .get => "GET"
  | .post => "POST"

/-- A call as it is sent. A query goes along as JSON, in characters of ASCII alone. -/
def Call.wireText (call : Call) (address : Address) : Text :=
  let headers : List Text :=
    [Text.concat [call.method.name, " ", address.target, " HTTP/1.0"],
      Text.concat ["Host: ", address.host, ":", Text.ofNat address.number], "Connection: close"]
  match call.query with
  | none => Text.concat [Text.join lineEnd headers, lineEnd, lineEnd]
  | some query =>
    let body := Json.print .line (.table query.payload)
    let more : List Text :=
      ["Content-Type: application/json",
        Text.concat ["Content-Length: ", Text.ofNat body.length]]
    Text.concat [Text.join lineEnd (headers ++ more), lineEnd, lineEnd, body]

/-! ## Responses -/

/-- The text behind the empty line that ends the headers. -/
def behindHeaders? : Text → Option Text
  | ⟨0x0D⟩ :: ⟨0x0A⟩ :: ⟨0x0D⟩ :: ⟨0x0A⟩ :: rest => some rest
  | _ :: rest => behindHeaders? rest
  | [] => none

/-- The code and the reason in a status line such as `HTTP/1.1 200 OK`. -/
def statusOf? (line : Text) : Option (Nat × Text) :=
  (Text.cutAt? ⟨0x20⟩ line).bind fun (_, rest) =>
    let code := rest.takeWhile Rune.isAsciiDigit
    if code.isEmpty then none
    else some (Text.digitsValue code, (rest.drop code.length).drop 1)

/-- Reads a whole response. -/
def Response.ofWire? (bytes : Utf8.Bytes) : Option Response :=
  let text := Utf8.decodeReplacing bytes
  let line := text.takeWhile fun r => r.code != 0x0D && r.code != 0x0A
  match statusOf? line, behindHeaders? text with
  | some (code, reason), some body => some ⟨code, some reason, body⟩
  | _, _ => none

end Nomenclator.Service
