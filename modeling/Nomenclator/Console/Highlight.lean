import Nomenclator.Console.Strip
import Nomenclator.Pattern

/-!
# Highlights

In running text a console sets apart what looks like a value: numbers, words in quotes, paths,
addresses. Without colors nothing of it can be seen, but what is set apart is a stretch of its own.
-/

namespace Nomenclator.Console.Highlight

open Pattern

/-- A form of what is set apart, in parts; some parts are only there to recognize it by. -/
abbrev Form := List (Pattern × Bool)

def apart (pattern : Pattern) : Pattern × Bool := (pattern, true)

def around (pattern : Pattern) : Pattern × Bool := (pattern, false)

/-! ## Characters -/

def isInLine (r : Rune) : Bool := !r.isLineFeed

def isBracket (r : Rune) : Bool :=
  r == '[' || r == ']' || r == '(' || r == ')' || r.code == 0x7B || r.code == 0x7D

def isTagName (r : Rune) : Bool :=
  r.isWord || r == '-' || r == '.' || r == ':' || r == '|'

def isPathName (r : Rune) : Bool :=
  r.isWord || r == '-' || r == '.' || r == '+'

def isUrl (r : Rune) : Bool :=
  r.isAsciiLetter || r.isAsciiDigit || (Text.ofString "-$_+!`(),.?/;:&=%#~@").contains r

def sign : Pattern := one fun r => r == '-' || r == '+'

def digit : Pattern := one Rune.isAsciiDigit

def digits : Pattern := oneOrMore Rune.isAsciiDigit

def hexDigits (low more : Nat) : Pattern := times low more (one Rune.isHexDigit)

def quote : Pattern := text "\""

def apostrophe : Pattern := one Rune.isApostrophe

def wordBorder : Pattern := here Position.bordersWord

/-! ## Forms -/

/-- Everything between the first angle bracket and the last. -/
def tag : Form := [
  apart (text "<"), apart (zeroOrMore isTagName), apart (zeroOrMore fun _ => true),
  apart (text ">")]

def assignment : Form := [
  apart (times 1 49 (one Rune.isWord)), around (text "="),
  apart (optional (sequence [optional quote, oneOrMore Rune.isWord, optional quote]))]

def bracket : Form := [apart (one isBracket)]

/-- An address of the Internet protocol in numbers. -/
def numericAddress : Form :=
  let number := times 1 2 digit
  [apart (sequence [number, text ".", number, text ".", number, text ".", number])]

def longNumericAddress : Form := [
  apart (sequence
    [times 1 6 (sequence [hexDigits 1 3, text ":", optional (text ":")]), hexDigits 1 3])]

/-- Groups of hexadecimal digits: `long` groups of two of them with the same sign between each two,
or `short` groups of four with points. -/
def deviceAddress (long short : Nat) : Form :=
  let groups (n : Nat) (group : Pattern) (mark : Text) : Pattern :=
    sequence [times (n - 1) 0 (andThen group (text mark)), group]
  [apart (choice
    [groups long (hexDigits 1 1) "-", groups long (hexDigits 1 1) ":",
      groups short (hexDigits 4 0) "."])]

def uniqueId : Form := [
  apart (sequence
    [hexDigits 8 0, text "-", hexDigits 4 0, text "-", hexDigits 4 0, text "-", hexDigits 4 0,
      text "-", hexDigits 12 0])]

def call : Form := [
  apart (fewest fun r => r.isWord || r == '.'), around (text "(")]

def constant (name : Text) : Form := [around wordBorder, apart (text name), around wordBorder]

def dots : Form := [apart (text "...")]

/-- Digits with a point and an exponent, of which `most` says how far it goes. -/
def plainNumber (most : (Rune → Bool) → Pattern) : Pattern :=
  sequence
    [digits, optional (text "."), zeroOrMore Rune.isAsciiDigit,
      optional (sequence [text "e", optional sign, one Rune.isDecimal, most Rune.isDecimal])]

def notAfterWord : Pattern := here (Position.isNotAfter Rune.isWord)

def complexNumber : Form := [
  apart (sequence
    [notAfterWord, optional (text "-"), plainNumber fewest,
      optional (andThen sign (plainNumber zeroOrMore)), text "j"])]

def number : Form := [
  apart (orElse
    (sequence [notAfterWord, optional (text "-"), plainNumber fewest, wordBorder])
    (andThen (text "0x") (zeroOrMore Rune.isHexDigit)))]

def path : Form := [
  apart (sequence
    [here fun p => !p.bordersWord,
      many (andThen (text "/") (oneOrMore isPathName)), text "/"]),
  apart (zeroOrMore isPathName)]

/-- Text in quotes, which end where no backslash stands before them. -/
def quoted : Form :=
  let between (mark : Pattern) : Pattern :=
    sequence
      [optional (text "b"), mark, fewest isInLine, here (Position.isNotAfter Rune.isBackslash),
        mark]
  [around (here (Position.isNotAfter fun r => r.isWord || r.isBackslash)),
    apart (choice
      [between (sequence [apostrophe, apostrophe, apostrophe]), between apostrophe,
        between (text "\"\"\""), between quote])]

def url : Form := [
  apart (sequence
    [choice [text "file", text "https", text "http", text "ws", text "wss"], text "://",
      zeroOrMore isUrl])]

/-- Forms of which the first that fits counts. -/
def values : List Form := [
  numericAddress, longNumericAddress, deviceAddress 8 4, deviceAddress 6 3, uniqueId, call,
  constant "True", constant "False", constant "None", dots, complexNumber, number, path, quoted,
  url]

/-- Each of these is looked for in all of a text. -/
def searches : List (List Form) := [[tag], [assignment], [bracket], values]

/-! ## Search -/

/-- The first form that fits at a position, with the ends of its parts. -/
def fitting? (forms : List Form) (p : Position) : Option (Form × List Position) :=
  forms.findSome? fun form => (ends? (form.map (·.1)) p).map fun ends => (form, ends)

/-- From where to where the parts that are set apart go. -/
def partSpans (p : Position) : Form → List Position → List Span
  | (_, isApart) :: form, q :: ends =>
    (if isApart && p.offset < q.offset then [⟨p.offset, q.offset⟩] else []) ++ partSpans q form ends
  | _, _ => []

/-- What a search finds from a position on; every step takes a character. -/
def spansFrom (forms : List Form) (fuel : Nat) (p : Position) : List Span :=
  match fuel, p.step? with
  | 0, _ => []
  | _, none => []
  | fuel + 1, some next =>
    match fitting? forms p with
    | some (form, ends) =>
      partSpans p form ends ++ spansFrom forms fuel (ends.getLast?.getD next)
    | none => spansFrom forms fuel next

/-- What is set apart in a text. -/
def spans (t : Text) : List Span :=
  searches.flatMap fun forms => spansFrom forms t.length (Position.start t)

end Nomenclator.Console.Highlight
