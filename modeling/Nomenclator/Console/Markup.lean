import Nomenclator.Console.Picture
import Nomenclator.Console.Strip

/-!
# Markup

Text for the console may hold tags in brackets that ask for colors. Without colors the tags vanish,
and what is left is the text between them. Backslashes before a tag make it text; `escape` writes
text so that it holds no tags.
-/

namespace Nomenclator.Console.Markup

def backslash : Rune := ⟨0x5C⟩

def opening : Rune := ⟨0x5B⟩

def closing : Rune := ⟨0x5D⟩

/-- The characters with which the content of a tag may start. -/
def startsTag (r : Rune) : Bool := r.isAsciiLower || r == '#' || r == '/' || r == '@'

/-- The length of the tag at the start of a text, brackets included. -/
def tagLength? : Text → Option Nat
  | bracket :: first :: rest =>
    let content := rest.takeWhile fun r => !(r == opening || r == closing)
    match rest.drop content.length with
    | r :: _ =>
      if bracket = opening && startsTag first && r == closing then some (content.length + 3)
      else none
    | [] => none
  | _ => none

/-- The backslashes and the tag at the start of a text. -/
def escapedTag? (s : Text) : Option (Text × Text) :=
  let slashes := s.takeWhile (· == backslash)
  let rest := s.drop slashes.length
  (tagLength? rest).map fun n => (slashes, rest.take n)

/-! ## Escaping -/

/-- A single backslash at the end would take hold of what follows. -/
def closeEnd (t : Text) : Text :=
  if [backslash].isSuffixOf t && !([backslash, backslash].isSuffixOf t) then t ++ [backslash]
  else t

def escapeTags (s : Text) : Text :=
  match s with
  | [] => []
  | r :: rest =>
    match escapedTag? (r :: rest) with
    | some (slashes, tag) =>
      slashes ++ slashes ++ backslash :: tag ++
        escapeTags (rest.drop (slashes.length + tag.length - 1))
    | none => r :: escapeTags rest
termination_by s.length
decreasing_by all_goals simp only [List.length_drop, List.length_cons]; omega

/-- Text written so that it is shown as it is. -/
def escape (t : Text) : Text := closeEnd (escapeTags t)

/-! ## Rendering -/

/-- A backslash before a bracket that opens no tag is dropped too. -/
def dropLoneSlashes : Text → Text
  | ⟨0x5C⟩ :: ⟨0x5B⟩ :: rest => opening :: dropLoneSlashes rest
  | r :: rest => r :: dropLoneSlashes rest
  | [] => []

def renderPlain (t : Text) : Text := Picture.replaceNames (dropLoneSlashes t)

/-- Markup is text and tags in turn. -/
inductive Part where
  | shown (t : Text)
  | tag (t : Text)
deriving DecidableEq, Repr

/-- A tag with backslashes before it: half of them stand for themselves, and an odd one makes the
tag text. -/
def tagParts (slashes tag : Text) : List Part :=
  [.shown (renderPlain (slashes.take (slashes.length / 2))),
    if slashes.length % 2 = 1 then .shown (renderPlain tag) else .tag tag]

/-- The parts of a text; `plain` is the text since the last tag. -/
def partsFrom (plain s : Text) : List Part :=
  match s with
  | [] => [.shown (renderPlain plain)]
  | r :: rest =>
    match escapedTag? (r :: rest) with
    | some (slashes, tag) =>
      .shown (renderPlain plain) :: tagParts slashes tag ++
        partsFrom [] (rest.drop (slashes.length + tag.length - 1))
    | none => partsFrom (plain ++ [r]) rest
termination_by s.length
decreasing_by all_goals simp only [List.length_drop, List.length_cons]; omega

/-- The parts of markup. Text without brackets keeps its backslashes. -/
def parts (t : Text) : List Part :=
  if t.contains opening then partsFrom [] t else [.shown (Picture.replaceNames t)]

def Part.text : Part → Text
  | shown t => t
  | tag _ => []

/-- What is shown of parts without colors. -/
def shownText (parts : List Part) : Text := parts.flatMap Part.text

/-- What the tags of parts give a style, from `offset` on; `opened` are the starts of the tags that
are open, the last first. A closing tag closes the last, and the end closes all. -/
def spansFrom (offset : Nat) (opened : List Nat) : List Part → List Span
  | [] => opened.map fun start => ⟨start, offset⟩
  | .shown t :: rest => spansFrom (offset + t.length) opened rest
  | .tag t :: rest =>
    if t.startsWith "[/" then
      (opened.take 1).map (fun start => Span.mk start offset) ++
        spansFrom offset (opened.drop 1) rest
    else spansFrom offset (offset :: opened) rest

def spans (parts : List Part) : List Span := spansFrom 0 [] parts

end Nomenclator.Console.Markup
