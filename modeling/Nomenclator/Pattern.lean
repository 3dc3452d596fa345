import Nomenclator.Text.Blank
import Nomenclator.Text.Digit
import Nomenclator.Text.Word

/-!
# Patterns

A pattern says how a part of a text may look. It has its ends in an order of preference, and the
first one counts with which all that follows it goes well.
-/

namespace Nomenclator

/-- A position in a text: how many characters are before it, which ones, the last first, and the
text after it. -/
structure Position where
  offset : Nat
  before : Text
  after : Text
deriving DecidableEq, Repr

namespace Position

def start (t : Text) : Position := ⟨0, [], t⟩

/-- The position after the next character. -/
def step? (p : Position) : Option Position :=
  match p.after with
  | [] => none
  | r :: rest => some ⟨p.offset + 1, r :: p.before, rest⟩

/-- The text from one position to a later one. -/
def textTo (p q : Position) : Text := p.after.take (q.offset - p.offset)

/-! ## What stands beside a position -/

def isBefore (test : Rune → Bool) (p : Position) : Bool := p.after.head?.any test

def isAfter (test : Rune → Bool) (p : Position) : Bool := p.before.head?.any test

def isNotBefore (test : Rune → Bool) (p : Position) : Bool := !p.isBefore test

def isNotAfter (test : Rune → Bool) (p : Position) : Bool := !p.isAfter test

def startsLine (p : Position) : Bool := p.before.head?.all fun r => r.code == 0x0A

/-- Does a word start or end here? -/
def bordersWord (p : Position) : Bool := p.isBefore Rune.isWord != p.isAfter Rune.isWord

end Position

/-- How a part of a text may look. -/
inductive Pattern where
  | nothing
  /-- No character, at a position that passes. -/
  | here (test : Position → Bool)
  /-- The character after a position that passes. -/
  | step (test : Position → Bool)
  /-- As many such characters as possible. -/
  | steps (test : Position → Bool)
  /-- As few such characters as possible. -/
  | fewSteps (test : Position → Bool)
  | andThen (first second : Pattern)
  /-- The first, or else the second. -/
  | orElse (first second : Pattern)
  /-- As often as possible. -/
  | many (pattern : Pattern)

namespace Pattern

/-! ## Matching -/

/-- The positions that steps through the text after `p` lead to, the last first; `reached` are those
before. -/
def walk (test : Position → Bool) (reached : List Position) (p : Position) : Text → List Position
  | [] => p :: reached
  | r :: rest =>
    if test p then walk test (p :: reached) ⟨p.offset + 1, r :: p.before, rest⟩ rest
    else p :: reached

/-- Repeats `once` as often as possible before it goes on; every time takes a character of
`left`. -/
def repeatWith {α : Type} (once : Position → (Position → Option α) → Option α)
    (goOn : Position → Option α) : Text → Position → Option α
  | [], p => goOn p
  | _ :: left, p =>
    (once p fun q => if p.offset < q.offset then repeatWith once goOn left q else none) <|> goOn p

/-- Goes on with the ends of a pattern one after the other until it goes well. -/
def run {α : Type} : Pattern → Position → (Position → Option α) → Option α
  | nothing, p, goOn => goOn p
  | here test, p, goOn => if test p then goOn p else none
  | step test, p, goOn => if test p then p.step?.bind goOn else none
  | steps test, p, goOn => (walk test [] p p.after).findSome? goOn
  | fewSteps test, p, goOn => (walk test [] p p.after).reverse.findSome? goOn
  | andThen first second, p, goOn => first.run p fun q => second.run q goOn
  | orElse first second, p, goOn => first.run p goOn <|> second.run p goOn
  | many pattern, p, goOn => repeatWith (fun p goOn => pattern.run p goOn) goOn p.after p

/-- The ends of patterns that follow one another. -/
def ends? : List Pattern → Position → Option (List Position)
  | [], _ => some []
  | pattern :: rest, p => pattern.run p fun q => (ends? rest q).map (q :: ·)

/-! ## Common patterns -/

def one (test : Rune → Bool) : Pattern := step (Position.isBefore test)

def zeroOrMore (test : Rune → Bool) : Pattern := steps (Position.isBefore test)

def fewest (test : Rune → Bool) : Pattern := fewSteps (Position.isBefore test)

def oneOrMore (test : Rune → Bool) : Pattern := andThen (one test) (zeroOrMore test)

def sequence (patterns : List Pattern) : Pattern := patterns.foldr andThen nothing

def optional (pattern : Pattern) : Pattern := orElse pattern nothing

/-- At least `low` and at most `low + more` times, as often as possible. -/
def times (low more : Nat) (pattern : Pattern) : Pattern :=
  sequence (List.replicate low pattern ++
    [(List.replicate more pattern).foldr (fun p rest => optional (andThen p rest)) nothing])

/-- Exactly this text. -/
def text (t : Text) : Pattern := sequence (t.map fun r => one (· == r))

/-- The first of the patterns that goes well. -/
def choice : List Pattern → Pattern
  | [] => here fun _ => false
  | [pattern] => pattern
  | pattern :: rest => orElse pattern (choice rest)

end Pattern

end Nomenclator
