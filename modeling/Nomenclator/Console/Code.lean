import Nomenclator.Code.Token
import Nomenclator.Console.Print
import Nomenclator.Text.Tabs
import Nomenclator.Text.Utf8

/-!
# Code

Code is shown as it is, with tabs expanded, in lines that fill the whole width. Each of its tokens
is a stretch of its own.
-/

namespace Nomenclator.Console

def codeTabStep : Nat := 4

/-- The mark that some files start with is not shown. -/
def dropByteOrderMark : Text → Text
  | ⟨0xFEFF⟩ :: rest => rest
  | t => t

/-- Code as its tokens are read. -/
def readableCode (code : Text) : Text :=
  (dropByteOrderMark (code.expandTabs codeTabStep)).unifyLineEnds

/-- The places after each of these texts, which follow one another. -/
def endsOf (offset : Nat) : List Text → List Nat
  | [] => []
  | t :: rest => (offset + t.length) :: endsOf (offset + t.length) rest

/-- The seams in code, as far as its measure depends on them. -/
def codeSeams (readable : Text) : List Nat :=
  if measuresEvenly readable then [] else endsOf 0 ((Code.tokens readable).map dropControls)

/-- The lines of code. A line feed at its end starts a last line without text; code that does not
end in one gets one, which starts none. -/
def codeLines (code : Text) : List Strip :=
  let isEnded := [⟨0x0A⟩].isSuffixOf code
  let readable := readableCode (if isEnded then code else code ++ [⟨0x0A⟩])
  let lines := Strip.ofParts 1 0 (codeSeams readable) (dropControls readable).lines
  if isEnded then lines else lines.dropLast

/-- The lines in which a line of code is set, each padded to the width. -/
def setCodeLine (width : Nat) (line : Strip) : Except CutError (List (List Text)) := do
  let lines ← setLine .left .fold width line
  lines.mapM fun line => fitStretches width line.stretches

/-- Code on a console. -/
def drawCode (width : Nat) (code : Text) : Except CutError (List Text) := do
  let lines ← (codeLines code).mapM (setCodeLine width)
  lines.flatten.mapM fun stretches => (cropStretches width stretches).map List.flatten

end Nomenclator.Console
