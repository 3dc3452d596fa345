import Nomenclator.Comment.Fill

/-!
# Comment blocks

The comment above a function: its name, then its description in lines of limited width. Text from a
model cannot close the comment early.
-/

namespace Nomenclator.Comment

def defaultWidth : Int := 76

/-- A comment terminator with a blank in it, which terminates nothing. -/
def defuse (t : Text) : Text := t.replaceAll "*/" "* /"

inductive WidthError where
  | notPositive (width : Int)
deriving DecidableEq, Repr

def WidthError.message : WidthError → Text
  | notPositive width =>
    Text.concat ["invalid width ", Text.ofInt width, " (must be > 0)"]

/-- The comment block, with an empty line after it. -/
def block (name description : Text) (width : Int) : Text :=
  Text.concat
    ["/*\n * ", defuse name, "()\n *\n", Fill.paragraph width " * " (defuse description),
      "\n */\n\n"]

def block? (name description : Text) (width : Int) : Except WidthError Text :=
  if width ≤ 0 then .error (.notPositive width) else .ok (block name description width)

/-- The comment block of the usual width. -/
def standard (name description : Text) : Text := block name description defaultWidth

end Nomenclator.Comment
