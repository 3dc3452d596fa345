import Nomenclator.Pattern

/-!
# Rules of code

C code is read token by token. What may come next depends on what the reader is in the middle of;
each such state has rules, and the first that fits the text at hand counts. Code need not be whole
or make sense: where no rule fits, the next character is a token.
-/

namespace Nomenclator.Code

open Pattern

/-- What the reader is in the middle of. -/
inductive State where
  /-- Between declarations. -/
  | top
  | statement
  /-- Between the braces of a function. -/
  | body
  /-- Where only blanks and comments are expected. -/
  | gap
  /-- Behind the word `struct` or `union`. -/
  | structName
  /-- Behind the word `case`. -/
  | caseLabel
  | string
  /-- A line for the preprocessor. -/
  | directive
  /-- What a directive leaves out. -/
  | leftOut
deriving DecidableEq, Repr

/-- What becomes of the text that fits a part of a rule. -/
inductive Reading where
  | token
  /-- It is read as code of its own. -/
  | within (state : State)
deriving DecidableEq, Repr

/-- Where the reader goes from a state. -/
inductive Move where
  | stay
  | enter (state : State)
  /-- Into the same state once more. -/
  | nest
  | leave
deriving DecidableEq, Repr

structure Rule where
  parts : List (Pattern × Reading)
  move : Move

/-- A rule for one token. -/
def Rule.ofToken (pattern : Pattern) (move : Move) : Rule := ⟨[(pattern, .token)], move⟩

/-! ## Characters -/

def isInLine (r : Rune) : Bool := !r.isLineFeed

def isOpeningBrace (r : Rune) : Bool := r.code == 0x7B

def isClosingBrace (r : Rune) : Bool := r.code == 0x7D

def isSign (r : Rune) : Bool := r == '+' || r == '-'

def lineFeed : Pattern := one Rune.isLineFeed

def backslash : Pattern := one Rune.isBackslash

def apostrophe : Pattern := one Rune.isApostrophe

def quote : Pattern := text "\""

/-- A line that goes on behind a backslash. -/
def continuation : Pattern := andThen backslash lineFeed

def atLineStart : Pattern := here Position.startsLine

def someBlanks : Pattern := oneOrMore Rune.isBlank

def anyBlanks : Pattern := zeroOrMore Rune.isBlank

/-! ## Words -/

/-- One of these words and not the start of a longer one. -/
def word (words : List Text) : Pattern :=
  andThen (here fun p => words.contains (p.after.takeWhile Rune.isWord)) (zeroOrMore Rune.isWord)

def hexDigits (n : Nat) : Pattern := times n 0 (one Rune.isHexDigit)

/-- A character of a name, or an escape for one. -/
def nameCharacter : Pattern :=
  choice
    [one fun r => r.isWord || r == '$',
      andThen (text "\\u") (hexDigits 4),
      andThen (text "\\U") (hexDigits 8)]

def nameOf (character : Pattern) : Pattern :=
  sequence [here (Position.isNotBefore Rune.isDecimal), character, many character]

def name : Pattern := nameOf nameCharacter

/-- A name that may say where it belongs. -/
def qualifiedName : Pattern := nameOf (orElse nameCharacter (text "::"))

def keywords : List Text := List.map Text.ofString [
  "_Alignas", "_Alignof", "_Noreturn", "_Generic", "_Thread_local", "_Static_assert", "_Imaginary",
  "noreturn", "imaginary", "complex", "asm", "auto", "break", "const", "continue", "default", "do",
  "else", "enum", "extern", "for", "goto", "if", "register", "restricted", "return", "sizeof",
  "struct", "static", "switch", "typedef", "volatile", "while", "union", "thread_local", "alignas",
  "alignof", "static_assert", "_Pragma", "inline", "_inline", "__inline", "naked", "restrict",
  "thread", "__m128i", "__m128d", "__m128", "__m64", "__asm", "__based", "__except", "__stdcall",
  "__cdecl", "__fastcall", "__declspec", "__finally", "__try", "__leave", "__w64", "__unaligned",
  "__raise", "__noop", "__identifier", "__forceinline", "__assume"]

def typeNames : List Text := List.map Text.ofString [
  "_Bool", "_Complex", "_Atomic", "__int8", "__int16", "__int32", "__int64", "__wchar_t", "bool",
  "int", "long", "float", "short", "double", "char", "unsigned", "signed", "void", "_BitInt",
  "__int128"]

/-- The words before a colon that are no labels. -/
def noLabels : List Text := ["public", "private", "protected", "default"]

/-! ## Comments -/

/-- A comment to the end of its line, or of a later one if lines go on behind backslashes. -/
def lineComment : Pattern :=
  sequence
    [text "//", steps fun p => p.isBefore isInLine || p.isAfter Rune.isBackslash, lineFeed]

def opensComment : Pattern := sequence [text "/", optional continuation, text "*"]

def closesComment : Pattern := sequence [text "*", optional continuation, text "/"]

/-- Does no comment end here? -/
def isInComment (p : Position) : Bool := (closesComment.run p some).isNone

def blockComment : Pattern := sequence [opensComment, steps isInComment, closesComment]

def anyComments : Pattern :=
  andThen anyBlanks (many (andThen (orElse lineComment blockComment) anyBlanks))

/-- Blanks with at most one comment, on one line, among them. -/
def indentation : Pattern :=
  andThen anyBlanks
    (optional (sequence [text "/*", fewest isInLine, text "*/", anyBlanks]))

/-! ## Numbers -/

/-- Digits, with apostrophes between them. -/
def digits (test : Rune → Bool) : Pattern :=
  andThen (one test) (many (andThen (optional apostrophe) (one test)))

def decimal : Pattern := digits Rune.isDecimal

def hexadecimal : Pattern := digits Rune.isHexDigit

def minus : Pattern := optional (text "-")

def floatSuffix : Pattern := one fun r => r == 'f' || r == 'F' || r == 'l' || r == 'L'

def integerSuffix : Pattern :=
  let unsigned := one fun r => r == 'u' || r == 'U'
  let long := one fun r => r == 'l' || r == 'L'
  optional
    (orElse (andThen unsigned (times 0 2 long)) (andThen (times 1 1 long) (optional unsigned)))

/-- Digits with a point, or without one. -/
def withPoint (part : Pattern) : Pattern :=
  choice [sequence [part, text ".", part], andThen (text ".") part, part]

def exponent (mark : Rune → Bool) (part : Pattern) : Pattern :=
  sequence [one mark, optional (one isSign), part]

def hexPrefix : Pattern := andThen (text "0") (one fun r => r == 'x' || r == 'X')

def numbers : List Pattern := [
  sequence
    [hexPrefix, withPoint hexadecimal, exponent (fun r => r == 'p' || r == 'P') hexadecimal,
      optional (one fun r => r == 'l' || r == 'L')],
  sequence
    [minus, withPoint decimal, exponent (fun r => r == 'e' || r == 'E') decimal,
      optional floatSuffix],
  orElse
    (sequence
      [minus,
        orElse (sequence [decimal, text ".", optional decimal]) (andThen (text ".") decimal),
        optional floatSuffix])
    (andThen decimal floatSuffix),
  sequence [minus, hexPrefix, hexadecimal, integerSuffix],
  sequence
    [minus, text "0", one fun r => r == 'b' || r == 'B', digits fun r => r == '0' || r == '1',
      integerSuffix],
  let octal := one fun r => r.within 0x30 0x37
  sequence
    [minus, text "0", optional apostrophe, octal, many (andThen (optional apostrophe) octal),
      integerSuffix],
  sequence [minus, decimal, integerSuffix]]

/-! ## Blanks, comments, directives, labels -/

/-- Lines that are left out start behind this. -/
def leavesOut : Pattern := sequence [text "#if", someBlanks, text "0"]

def labelRule : Rule where
  parts :=
    [(andThen atLineStart (zeroOrMore fun r => r == ' ' || r.code == 0x09), .token),
      (andThen (here fun p => !noLabels.contains (p.after.takeWhile Rune.isWord)) name, .token),
      (anyBlanks, .token),
      (andThen (text ":") (here (Position.isNotBefore fun r => r == ':')), .token)]
  move := .stay

def gapRules : List Rule := [
  .ofToken (andThen atLineStart leavesOut) (.enter .leftOut),
  .ofToken (andThen atLineStart (text "#")) (.enter .directive),
  ⟨[(andThen atLineStart indentation, .within .top), (leavesOut, .token)], .enter .leftOut⟩,
  ⟨[(andThen atLineStart indentation, .within .top), (text "#", .token)], .enter .directive⟩,
  labelRule,
  .ofToken lineFeed .stay,
  .ofToken (oneOrMore fun r => r.isBlank && isInLine r) .stay,
  .ofToken continuation .stay,
  .ofToken lineComment .stay,
  .ofToken blockComment .stay,
  .ofToken (andThen opensComment (zeroOrMore fun _ => true)) .stay]

/-! ## Statements -/

def keywordRules : List Rule := [
  ⟨[(orElse (text "struct") (text "union"), .token), (someBlanks, .token)], .enter .structName⟩,
  .ofToken (word ["case"]) (.enter .caseLabel),
  .ofToken (word keywords) .stay]

def typeRules : List Rule := [.ofToken (word typeNames) .stay]

/-- What may stand before a quote or an apostrophe. -/
def quotePrefix : Pattern :=
  optional (orElse (one fun r => r == 'L' || r == 'u' || r == 'U') (text "u8"))

/-- The character in a character literal. -/
def literalCharacter : Pattern :=
  choice
    [andThen backslash (one isInLine),
      andThen backslash (times 1 2 (one fun r => r.within 0x30 0x37)),
      sequence [text "\\x", times 1 1 (one Rune.isHexDigit)],
      one fun r => !(r.isBackslash || r.isApostrophe || r.isLineFeed)]

def isOperator (r : Rune) : Bool := (Text.ofString "~!%^&*+=|?:<>/-").contains r

def isPunctuation (r : Rune) : Bool := (Text.ofString "()[],.").contains r

def statementRules : List Rule :=
  keywordRules ++ typeRules ++
  [⟨[(quotePrefix, .token), (quote, .token)], .enter .string⟩,
    ⟨[(quotePrefix, .token), (apostrophe, .token), (literalCharacter, .token),
      (apostrophe, .token)], .stay⟩] ++
  (numbers.map fun number => .ofToken number .stay) ++
  [.ofToken (one isOperator) .stay, .ofToken (one isPunctuation) .stay, .ofToken name .stay]

/-! ## Functions -/

def isReturnEnd (r : Rune) : Bool := r.isBlank || r == '&' || r == '*'

def isQuoteOrEnd (r : Rune) : Bool := r == ';' || r == '"' || r.isApostrophe

/-- From the type of a function to what stands behind its parameters. -/
def functionParts (isTail : Rune → Bool) (last : Pattern) : List (Pattern × Reading) := [
  (andThen qualifiedName (oneOrMore isReturnEnd), .within .top),
  (anyComments, .within .gap),
  (qualifiedName, .token),
  (anyComments, .within .gap),
  (sequence [text "(", fewest fun r => !(isQuoteOrEnd r || r == ')'), text ")"], .within .top),
  (anyComments, .within .gap),
  (zeroOrMore isTail, .within .top),
  (last, .token)]

def functionRules : List Rule := [
  ⟨functionParts (fun r => !(isQuoteOrEnd r || r == '/' || isOpeningBrace r)) (one isOpeningBrace),
    .enter .body⟩,
  ⟨functionParts (fun r => !(isQuoteOrEnd r || r == '/')) (text ";"), .stay⟩]

/-! ## Strings and directives -/

def stringRules : List Rule := [
  .ofToken quote .leave,
  .ofToken
    (andThen backslash
      (choice
        [one fun r => r.isBackslash || r.isApostrophe || (Text.ofString "abfnrtv\"").contains r,
          andThen (text "x") (times 2 2 (one Rune.isHexDigit)),
          andThen (text "u") (hexDigits 4),
          andThen (text "U") (hexDigits 8),
          times 1 2 (one fun r => r.within 0x30 0x37)]))
    .stay,
  .ofToken (oneOrMore fun r => !(r.isBackslash || r == '"' || r.isLineFeed)) .stay,
  .ofToken continuation .stay,
  .ofToken backslash .stay]

def includeRule (file : Pattern) : Rule where
  parts :=
    [(indentation, .within .top), (text "include", .token), (indentation, .within .top),
      (file, .token), (zeroOrMore isInLine, .token)]
  move := .stay

def directiveRules : List Rule := [
  includeRule (sequence [quote, oneOrMore fun r => r != '"', quote]),
  includeRule (sequence [text "<", oneOrMore fun r => r != '>', text ">"]),
  .ofToken (oneOrMore fun r => r != '/' && isInLine r) .stay,
  .ofToken (sequence [text "/*", fewest fun _ => true, text "*/"]) .stay,
  .ofToken (sequence [text "//", fewest isInLine, lineFeed]) .leave,
  .ofToken (text "/") .stay,
  .ofToken (andThen (here (Position.isAfter Rune.isBackslash)) lineFeed) .stay,
  .ofToken lineFeed .leave]

/-- A whole directive that starts with `#` and these characters, and goes on to the end of a line
that no backslash continues. -/
def wholeDirective (t : Text) : Pattern :=
  sequence
    [atLineStart, anyBlanks, text t, fewest isInLine, here (Position.isNotAfter Rune.isBackslash),
      lineFeed]

def leftOutRules : List Rule := [
  .ofToken (wholeDirective "#if") .nest,
  .ofToken
    (sequence
      [atLineStart, anyBlanks, text "#el", orElse (text "se") (text "if"), zeroOrMore isInLine,
        lineFeed])
    .leave,
  .ofToken (wholeDirective "#endif") .leave,
  .ofToken (andThen (fewest isInLine) lineFeed) .stay]

/-! ## States -/

def topRules : List Rule :=
  gapRules ++ keywordRules ++ functionRules ++ typeRules ++ [⟨[], .enter .statement⟩]

def inStatementRules : List Rule :=
  gapRules ++ statementRules ++
  [.ofToken (one isClosingBrace) .stay, .ofToken (one fun r => isOpeningBrace r || r == ';') .leave]

def bodyRules : List Rule :=
  gapRules ++ statementRules ++
  [.ofToken (text ";") .stay, .ofToken (one isOpeningBrace) .nest,
    .ofToken (one isClosingBrace) .leave]

def structNameRules : List Rule := [
  .ofToken name .leave,
  .ofToken (andThen anyBlanks (here (Position.isBefore fun r => r == '>'))) .leave,
  ⟨[], .leave⟩]

def caseLabelRules : List Rule :=
  .ofToken
      (sequence
        [here (Position.isNotAfter fun r => r == ':'), text ":",
          here (Position.isNotBefore fun r => r == ':')])
      .leave ::
    .ofToken name .stay :: gapRules ++ statementRules

def State.rules : State → List Rule
  | top => topRules
  | statement => inStatementRules
  | body => bodyRules
  | gap => gapRules
  | structName => structNameRules
  | caseLabel => caseLabelRules
  | string => stringRules
  | directive => directiveRules
  | leftOut => leftOutRules

end Nomenclator.Code
