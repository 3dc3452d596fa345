import Nomenclator.Text.Basic

/-!
# Tabs

A tab moves to the next multiple of the tab width. Columns count characters from the last line
break.
-/

namespace Nomenclator.Text

def expandTabsFrom (width column : Nat) : Text → Text
  | [] => []
  | r :: rest =>
    if r.code = 0x09 then
      let step := width - column % width
      blanks step ++ expandTabsFrom width (column + step) rest
    else if r.code = 0x0A ∨ r.code = 0x0D then r :: expandTabsFrom width 0 rest
    else r :: expandTabsFrom width (column + 1) rest

def expandTabs (width : Nat) (t : Text) : Text := expandTabsFrom width 0 t

end Nomenclator.Text
