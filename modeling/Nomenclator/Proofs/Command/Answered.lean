import Nomenclator.Proofs.Analysis.Sequence
import Nomenclator.Proofs.Command.Course
import Nomenclator.Proofs.Rename.Candidates
import Nomenclator.Proofs.Report.Plain

/-!
# Listings that are completed

A function is completed once it is answered with a suggestion whose report can be shown and whose
block can be encoded. There is an answer for which that holds of every function that can be encoded:
plain texts, and nothing to rename.
-/

namespace Nomenclator.Command.Job

variable {job : Job} {path : Path}

theorem outcome_of_report {total index : Nat} {block : Listing.Block} {reply : Service.Reply}
    {a : Analysis} (hattempt : (job.attempt index block reply).result = .ok a)
    (hreport : (job.report (index + 1) total a).stop = none)
    (hencodable : Utf8.isEncodable (Writer.blockText block.separator a) = true) :
    job.outcome total index block reply = .ok (Writer.blockText block.separator a) := by
  rw [outcome, hattempt]
  dsimp only
  rw [hreport]
  dsimp only
  rw [(Writer.addPieces_problem_eq_none_iff _).2 hencodable]

theorem visit_of_outcome {tree : FileTree} {replies : List Service.Reply} {text done : Text}
    {block : Listing.Block} (hstart : (job.startLine path).stop = none)
    (hread : Listing.read tree job.base path = .ok text) (hblocks : job.blocks text = [block])
    (houtcome : job.outcome 1 0 block
      (replies.headD (Service.backend job.settings).silence) = .ok done)
    (hsaved : ∀ output, outputPath? path = some output → (job.savedLine output).stop = none) :
    job.visit tree replies path = ⟨path, [⟨block, .ok done⟩], none⟩ := by
  unfold visit
  rw [hstart, hread]
  dsimp only
  rw [hblocks]
  dsimp only [List.length_singleton]
  rw [trials, houtcome]
  dsimp only [trials]
  cases houtput : outputPath? path with
  | none => rfl
  | some output => rw [Option.bind_some, hsaved output houtput]; rfl

/-! ## Answers with nothing to rename -/

/-- Names a function and describes it. -/
def plainReply : Service.Reply := .response Attempt.plainResponse

def plainAnalysis (body : Text) : Analysis := ⟨0, body, ⟨"d", "f", [], []⟩, ⟨body, 0, []⟩⟩

def plainBlock (body : Text) : Text := Writer.blockText [] (plainAnalysis body)

theorem standard_plain : Comment.standard "f" "d" = "/*\n * f()\n *\n * d\n */\n\n" := by
  decide +kernel

theorem isPlain_standard : Console.IsPlain (Comment.standard "f" "d") := by
  rw [standard_plain]
  decide

theorem attempt_plainReply (hsettings : job.settings = .default) (body : Text) :
    (job.attempt 0 ⟨[], body⟩ plainReply).result = .ok (plainAnalysis body) := by
  rw [attempt, hsettings]
  refine Attempt.analysis_eq_ok_iff.2 ⟨_, _, rfl, Attempt.ofReply_plainResponse, ?_⟩
  rw [Analysis.ofSuggestion, renameAll_nil]
  rfl

theorem outcome_plainReply (hsettings : job.settings = .default)
    (hcode : job.task.showCode = false) {body : Text} (hbody : Utf8.isEncodable body = true)
    (total : Nat) : job.outcome total 0 ⟨[], body⟩ plainReply = .ok (plainBlock body) := by
  have hreport : (job.report 1 total (plainAnalysis body)).stop = none :=
    report_stop hcode isPlain_standard (by simp [plainAnalysis]) rfl _ _
  refine outcome_of_report (attempt_plainReply hsettings body) hreport ?_
  show Utf8.isEncodable (Comment.standard "f" "d" ++ (body ++ [])) = true
  rw [standard_plain, List.append_nil, Utf8.isEncodable_append, hbody]
  decide

/-- A listing of one function that is answered so is completed. -/
theorem visit_plainReply (hsettings : job.settings = .default) (hcode : job.task.showCode = false)
    {tree : FileTree} {replies : List Service.Reply} {body : Text}
    (hread : Listing.read tree job.base path = .ok body) (hblocks : job.blocks body = [⟨[], body⟩])
    (hbody : Utf8.isEncodable body = true) (hreply : replies.head? = some plainReply)
    (hpath : Console.IsPlain path.toText)
    (houtput : ∀ output, outputPath? path = some output → Console.IsPlain output.toText) :
    job.visit tree replies path = ⟨path, [⟨⟨[], body⟩, .ok (plainBlock body)⟩], none⟩ := by
  refine visit_of_outcome (startLine_stop _ hpath.1 hpath.2) hread hblocks ?_
    fun output houtput' => savedLine_stop _ (houtput output houtput')
  rw [List.headD_eq_head?_getD, hreply]
  exact outcome_plainReply hsettings hcode hbody 1

end Nomenclator.Command.Job
