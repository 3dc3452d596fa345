import Nomenclator.Console.Highlight
import Nomenclator.Console.Line
import Nomenclator.Console.Markup

/-!
# Printing

What a console of a given width shows of a text, line by line.
-/

namespace Nomenclator.Console

/-- Some controls would move the cursor and are dropped: bell, backspace, vertical tab, form feed
and carriage return. -/
def movesCursor (r : Rune) : Bool :=
  r.code == 7 || r.code == 8 || r.within 11 13

def dropControls (t : Text) : Text := t.filter fun r => !movesCursor r

/-- Lines with a line feed between each two. -/
def joinLines (lines : List Text) : Text := Text.join [⟨0x0A⟩] lines

/-- Lines with a line feed after each. -/
def endLines (lines : List Text) : Text := lines.flatMap fun line => line ++ [⟨0x0A⟩]

/-- The lines of running text on a console. `styled` are the parts of it that have a style already;
what looks like a value gets one. -/
def setRunning (width : Nat) (t : Text) (styled : List Span) : Except CutError (List Text) := do
  let seams := if measuresEvenly t then [] else seamsOf t (Highlight.spans t ++ styled)
  let lines ← setText .natural .fold width t seams
  lines.mapM fun line => (cropStretches width line.stretches).map List.flatten

/-- Text as it is shown, without a line feed at its end. Names of pictures count also where markup
does not. -/
def literal (width : Nat) (t : Text) : Except CutError Text :=
  (setRunning width (dropControls (Picture.replaceNames t)) []).map joinLines

def dropPartControls : Markup.Part → Markup.Part
  | .shown t => .shown (dropControls t)
  | .tag t => .tag t

/-- Markup as it is shown. -/
def printed (width : Nat) (markup : Text) : Except CutError Text :=
  let parts := (Markup.parts markup).map dropPartControls
  (setRunning width (Markup.shownText parts) (Markup.spans parts)).map fun lines =>
    joinLines lines ++ [⟨0x0A⟩]

/-! ## One after the other -/

/-- What a console has shown, and what stopped it if something did. -/
structure Showing where
  text : Text
  stop : Option CutError
deriving DecidableEq, Repr

/-- Shows one thing after the other, up to the first that cannot be shown. -/
def Showing.ofList : List (Except CutError Text) → Showing
  | [] => ⟨[], none⟩
  | .ok t :: rest => { ofList rest with text := t ++ (ofList rest).text }
  | .error e :: _ => ⟨[], some e⟩

def Showing.one (shown : Except CutError Text) : Showing := .ofList [shown]

end Nomenclator.Console
