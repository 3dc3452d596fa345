import Nomenclator.Command.Analyze
import Nomenclator.Proofs.Console.Plain

/-!
# Reports that can be shown

A report on an analysis of plain text is shown whatever the width of the console.
-/

namespace Nomenclator

namespace Console

/-- Text without colons, joiners and picture marks. -/
def IsPlain (t : Text) : Prop := Picture.colon ∉ t ∧ measuresEvenly t = true

instance (t : Text) : Decidable (IsPlain t) := inferInstanceAs (Decidable (_ ∧ _))

theorem isPlain_append {s t : Text} : IsPlain (s ++ t) ↔ IsPlain s ∧ IsPlain t := by
  unfold IsPlain
  rw [List.mem_append, not_or, measuresEvenly_append]
  exact and_and_and_comm

theorem isPlain_concat {pieces : List Text} :
    IsPlain (Text.concat pieces) ↔ ∀ piece ∈ pieces, IsPlain piece := by
  induction pieces with
  | nil => simp [Text.concat, IsPlain, measuresEvenly]
  | cons piece rest ih =>
    rw [List.forall_mem_cons, ← ih]
    exact isPlain_append

theorem isPlain_ofNat (n : Nat) : IsPlain (Text.ofNat n) := by
  refine ⟨fun hcolon => ?_, measuresEvenly_iff.2 fun r hr => ⟨?_, ?_⟩⟩
  · exact absurd (Text.isAsciiDigit_of_mem_ofNat hcolon) (by decide)
  · rintro rfl
    exact absurd (Text.isAsciiDigit_of_mem_ofNat hr) (by decide)
  · rintro rfl
    exact absurd (Text.isAsciiDigit_of_mem_ofNat hr) (by decide)

theorem isPlain_escape {t : Text} (h : IsPlain t) : IsPlain (Markup.escape t) := by
  refine ⟨fun hcolon => ?_, measuresEvenly_escape h.2⟩
  exact (List.mem_cons.1 (Markup.escape_subset t hcolon)).elim (by decide) h.1

theorem Showing.ofList_stop {shown : List (Except CutError Text)}
    (h : ∀ part ∈ shown, ∃ t, part = .ok t) : (Showing.ofList shown).stop = none := by
  induction shown with
  | nil => rfl
  | cons part rest ih =>
    obtain ⟨⟨t, rfl⟩, hrest⟩ := List.forall_mem_cons.1 h
    exact ih hrest

end Console

open Console

namespace Report

theorem exists_renames_eq_ok (width : Nat) {a : Analysis}
    (h : ∀ entry ∈ a.suggestion.renames,
      measuresEvenly entry.1 = true ∧ measuresEvenly entry.2 = true) :
    ∃ t, renames width a = .ok t := by
  unfold renames
  split
  · exact exists_printed_eq_ok (by decide) (by decide) width
  · have htitle : measuresEvenly "Variable renaming suggestions" = true := by decide
    have hheader : ∀ column ∈ ([⟨"Original", .left⟩, ⟨"New", .left⟩, ⟨"Hits", .right⟩] :
        List Column), measuresEvenly column.header = true := by decide
    have hrows : ∀ row ∈ (renameTable a).rows, ∀ t ∈ row, measuresEvenly t = true := by
      intro row hrow
      obtain ⟨entry, hentry, rfl⟩ := List.mem_map.1 hrow
      obtain ⟨hold, hnew⟩ := h entry hentry
      simp only [List.forall_mem_cons]
      exact ⟨hold, hnew, (isPlain_ofNat _).2, by simp⟩
    obtain ⟨lines, hlines⟩ := Table.exists_draw_eq_ok (renameTable a) htitle hheader hrows width
    exact ⟨endLines lines, by rw [hlines]; rfl⟩

theorem exists_dropped_eq_ok (width : Nat) (a : Analysis) : ∃ t, dropped width a = .ok t := by
  unfold dropped
  split
  · exact ⟨[], rfl⟩
  · obtain ⟨hcolon, heven⟩ : IsPlain (Text.concat
        ["[yellow]Ignored ", Text.ofNat a.suggestion.dropped.length,
          " malformed rename suggestion(s)[/yellow]"]) := by
      rw [isPlain_concat]
      simp only [List.forall_mem_cons]
      exact ⟨by decide, isPlain_ofNat _, by decide, by simp⟩
    exact exists_printed_eq_ok hcolon heven width

end Report

theorem Command.Job.savedLine_stop (job : Command.Job) {path : Path} (h : IsPlain path.toText) :
    (job.savedLine path).stop = none := by
  have hline : IsPlain (Text.concat ["[*] Saved improved pseudo-code in ",
      Command.Job.backquoted path.toText]) := by
    simp only [Command.Job.backquoted, isPlain_concat, List.forall_mem_cons]
    exact ⟨by decide, ⟨by decide, isPlain_escape h, by decide, by simp⟩, by simp⟩
  exact Showing.one_stop.2 (exists_printed_eq_ok hline.1 hline.2 job.width)

/-- The report on an analysis of plain text whose renames were all found. -/
theorem Command.Job.report_stop {job : Command.Job} (hcode : job.task.showCode = false)
    {a : Analysis}
    (hcomment : IsPlain (Comment.standard a.suggestion.name a.suggestion.description))
    (hrenames : ∀ entry ∈ a.suggestion.renames,
      measuresEvenly entry.1 = true ∧ measuresEvenly entry.2 = true)
    (hmatched : a.outcome.unmatched = []) (number total : Nat) :
    (job.report number total a).stop = none := by
  have hline : IsPlain (Text.concat
      ["[green][+] Successfully analyzed function ", Text.ofNat number, "/", Text.ofNat total,
        "[/green]\n"]) := by
    rw [isPlain_concat]
    simp only [List.forall_mem_cons]
    exact ⟨by decide, isPlain_ofNat _, by decide, isPlain_ofNat _, by decide, by simp⟩
  have hunmatched : Report.unmatched job.width a = .ok [] := by
    rw [Report.unmatched, hmatched]
    rfl
  refine Showing.ofList_stop (List.forall_mem_cons.2 ⟨?_, ?_⟩)
  · exact exists_printed_eq_ok hline.1 hline.2 job.width
  · simp only [Report.parts, List.forall_mem_cons]
    refine ⟨exists_literal_eq_ok hcomment.1 hcomment.2 _,
      Report.exists_renames_eq_ok _ hrenames, ⟨_, hunmatched⟩, Report.exists_dropped_eq_ok _ _,
      ⟨[], ?_⟩, ⟨_, rfl⟩, by simp⟩
    rw [Report.code, hcode]
    rfl

end Nomenclator
