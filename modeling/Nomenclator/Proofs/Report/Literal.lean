import Nomenclator.Proofs.Comment.Lines
import Nomenclator.Proofs.Console.Literal
import Nomenclator.Report.Analysis

/-!
# Comments in reports

A report begins with the comment on the function. What a model has put into it is no markup, and
where it fits it is shown as it is, whatever brackets and backslashes there are. Colons are another
matter: between two of them there may be the name of a picture.
-/

namespace Nomenclator

/-- The control characters, of ASCII and of the block after it. -/
def Rune.isControl (r : Rune) : Bool := r.code < 0x20 || r.within 0x7F 0x9F

open Console

namespace Comment

theorem isSteady_block {name description : Text} (hname : ∀ r ∈ name, r.isControl = false)
    (hdescription : ∀ r ∈ description, r.isControl = false) (width : Int) :
    IsSteady (block name description width) := by
  have hsteady (r : Rune) (hr : r.isControl = false) :
      movesCursor r = false ∧ r.code ≠ 0x09 := by
    simp only [Rune.isControl, Rune.within, movesCursor, Bool.or_eq_false_iff,
      decide_eq_false_iff_not, beq_eq_false_iff_ne, Bool.and_eq_false_iff] at hr ⊢
    omega
  exact forall_mem_block (p := fun r => movesCursor r = false ∧ r.code ≠ 0x09) (by decide)
    (by decide) (fun r hr => hsteady r (hname r hr)) fun r hr _ => hsteady r (hdescription r hr)

theorem getLast?_block (name description : Text) (width : Int) :
    (block name description width).getLast? = some ⟨0x0A⟩ := by
  have hclose : (Text.ofString "\n */\n\n").getLast? = some ⟨0x0A⟩ := by decide
  simp only [block, Text.concat, List.flatten_cons, List.flatten_nil, List.append_nil,
    List.getLast?_append, hclose, Option.some_or]

end Comment

namespace Report

/-- The report on a function without control characters in its name and description, whose comment
fits the console, begins with the comment just if nothing in it stands in the way. -/
theorem comment_prefix_iff (width : Nat) (showCode : Bool) (a : Analysis)
    (hname : ∀ r ∈ a.suggestion.name, r.isControl = false)
    (hdescription : ∀ r ∈ a.suggestion.description, r.isControl = false)
    (hfits : ∀ line ∈ (Comment.standard a.suggestion.name a.suggestion.description).lines,
      cells line ≤ width) :
    Comment.standard a.suggestion.name a.suggestion.description <+:
        (ofAnalysis width showCode a).text ↔
      IsShownAsIs width (Comment.standard a.suggestion.name a.suggestion.description) := by
  apply prefix_showing_iff hfits
  · exact Comment.isSteady_block hname hdescription _
  · exact Comment.getLast?_block _ _ _

/-- The analysis of a function that is named `f` and gets no renames. -/
def described (description : Text) : Analysis :=
  .ofSuggestion 1 "int f();" ⟨description, "f", [], []⟩

def bracketed : Text := "Reads [red]key: value[/red] of C:\\[x]."

/-- Brackets, backslashes and colons that are shown as they are. -/
theorem comment_prefix_iff_brackets :
    (∀ r ∈ Text.ofString "f", r.isControl = false) ∧
      (∀ r ∈ bracketed, r.isControl = false) ∧
      (∀ line ∈ (Comment.standard "f" bracketed).lines, cells line ≤ 80) ∧
      Comment.standard "f" bracketed <+: (ofAnalysis 80 true (described bracketed)).text := by
  have hname : ∀ r ∈ Text.ofString "f", r.isControl = false := by decide
  have hdescription : ∀ r ∈ bracketed, r.isControl = false := by decide
  have hcomment : Comment.standard "f" bracketed =
      "/*\n * f()\n *\n * Reads [red]key: value[/red] of C:\\[x].\n */\n\n" := by decide +kernel
  have hfits : ∀ line ∈ (Comment.standard "f" bracketed).lines, cells line ≤ 80 := by
    rw [hcomment]
    decide
  refine ⟨hname, hdescription, hfits, ?_⟩
  apply (comment_prefix_iff 80 true (described _) hname hdescription hfits).2
  have hnames : Picture.names
      "/*\n * f()\n *\n * Reads [red]key: value[/red] of C:\\[x].\n */\n\n" = [] := by
    decide +kernel
  show IsShownAsIs 80 (Comment.standard "f" bracketed)
  rw [hcomment, isShownAsIs_iff_names (by decide) (by decide), hnames]
  simp

theorem ofName?_m : Picture.ofName? "m" ≠ none := by
  apply Picture.ofName?_ne_none
  · unfold Picture.entries
    iterate 13 apply List.mem_append_left
    exact List.mem_append_right _ List.mem_cons_self
  · decide

def timed : Text := "Formats the time as h:m:s."

/-- Minutes between hours and seconds become a picture. -/
theorem comment_not_prefix_time :
    (∀ r ∈ Text.ofString "f", r.isControl = false) ∧
      (∀ r ∈ timed, r.isControl = false) ∧
      (∀ line ∈ (Comment.standard "f" timed).lines, cells line ≤ 80) ∧
      ¬Comment.standard "f" timed <+: (ofAnalysis 80 false (described timed)).text := by
  have hcomment : Comment.standard "f" timed =
      "/*\n * f()\n *\n * Formats the time as h:m:s.\n */\n\n" := by decide +kernel
  have hnames : Picture.names
      "/*\n * f()\n *\n * Formats the time as h:m:s.\n */\n\n" = ["m"] := by decide +kernel
  refine ⟨by decide, by decide, by rw [hcomment]; decide, ?_⟩
  apply not_prefix_showing (Comment.getLast?_block _ _ _)
  refine ⟨"m", ?_, ofName?_m⟩
  show _ ∈ Picture.names (Comment.standard "f" timed)
  rw [hcomment, hnames]
  exact List.mem_singleton_self _

end Report

end Nomenclator
