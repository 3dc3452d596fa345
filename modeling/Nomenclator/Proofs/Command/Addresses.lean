import Nomenclator.Proofs.Command.Completion
import Nomenclator.Proofs.Comment.Lines
import Nomenclator.Proofs.Suggestion.Renames

/-!
# Addresses in outputs

An output has the address lines of its listing, in the same order: each block is written below its
own, and neither a comment nor a renamed function holds one that was not there. Two things can spoil
that, a name that spans lines and a rename at the place of an address.
-/

namespace Nomenclator

/-! ## Analyses -/

/-- The name is one line, and the renames make no address line and break none. -/
structure Analysis.KeepsAddresses (a : Analysis) : Prop where
  name : ∀ r ∈ a.suggestion.name, Listing.isLineBreak r = false
  renames : Listing.KeepsAddresses a.suggestion.renames a.source

/-- The words of the model are text of code points. -/
def Analysis.HasCodePoints (a : Analysis) : Prop :=
  ∀ r ∈ a.suggestion.name ++ a.suggestion.description, Utf8.IsCodePoint r

namespace Writer

open Listing Utf8

theorem blockText_eq (separator : Text) (a : Analysis) :
    blockText separator a = (if separator.isEmpty then [] else separator ++ [⟨0x0A⟩]) ++
      Comment.standard a.suggestion.name a.suggestion.description ++ a.renamed := by
  unfold blockText blockPieces
  split <;> simp

variable {index : Nat} {block : Block} {suggestion : Suggestion}

theorem isRewritten_blockText (hnames : AreIdentifiers suggestion.renames)
    (hkeeps : (Analysis.ofSuggestion index block.body suggestion).KeepsAddresses) :
    IsRewritten block
      (blockText block.separator (Analysis.ofSuggestion index block.body suggestion)) := by
  refine ⟨Comment.standard suggestion.name suggestion.description, suggestion.renames, ?_, ?_,
    hnames, hkeeps.renames⟩
  · rw [blockText_eq]
    congr 1
    exact renameAll_text_eq_renameRuns block.body hnames
  · apply Comment.isHeading_block
    intro r hr hcode
    have hname := hkeeps.name r hr
    simp [isLineBreak, hcode] at hname

theorem isStable_blockText (hnames : AreIdentifiers suggestion.renames)
    (hkeeps : (Analysis.ofSuggestion index block.body suggestion).KeepsAddresses)
    (hcodes : (Analysis.ofSuggestion index block.body suggestion).HasCodePoints)
    (hseparator : ∀ r ∈ block.separator, IsStable r) (hbody : ∀ r ∈ block.body, IsStable r) :
    ∀ r ∈ blockText block.separator (Analysis.ofSuggestion index block.body suggestion),
      IsStable r := by
  have hname : ∀ r ∈ suggestion.name, IsStable r := by
    intro r hr
    refine ⟨hcodes r (List.mem_append_left _ hr), fun hcode => ?_⟩
    have hline := hkeeps.name r hr
    simp [isLineBreak, hcode] at hline
  have hdescription : ∀ r ∈ suggestion.description, r.within 0x09 0x0D = false → IsStable r := by
    intro r hr hwithin
    refine ⟨hcodes r (List.mem_append_right _ hr), fun hcode => ?_⟩
    simp [Rune.within, hcode] at hwithin
  have hrenamed : ∀ r ∈ renameRuns suggestion.renames block.body, IsStable r := by
    intro r hr
    rcases mem_renameRuns hnames hr with hr | hr
    · exact hbody r hr
    · exact isStable_of_isAsciiWord hr
  rw [blockText_eq, Analysis.renamed, Analysis.ofSuggestion,
    renameAll_text_eq_renameRuns block.body hnames]
  simp only [List.forall_mem_append]
  refine ⟨⟨?_, Comment.forall_mem_block (by decide) (by decide) hname hdescription⟩, hrenamed⟩
  split
  · simp
  · simp only [List.forall_mem_append, List.forall_mem_singleton]
    exact ⟨hseparator, by decide⟩

/-- Texts without carriage returns that can be encoded are read back as they were written. -/
theorem textOf_content {texts : List Text} (hstable : ∀ t ∈ texts, ∀ r ∈ t, IsStable r)
    (hencodable : ∀ t ∈ texts, Utf8.isEncodable t = true) :
    Listing.textOf (content texts) = Text.join [⟨0x0A⟩] texts := by
  have hscalar : ∀ r ∈ Text.join [⟨0x0A⟩] texts, (!r.isSurrogate) = true := by
    refine Text.forall_mem_join (by decide) fun t ht => ?_
    exact List.all_eq_true.1 (hencodable t ht)
  exact unifyLineEnds_decodeReplacing (Text.forall_mem_join (by decide) hstable)
    (List.all_eq_true.2 hscalar)

end Writer

namespace Command.Job

open FileTree (here isStraight_here)

variable {job : Job} {run after : Run} {path : Path} {text : Text}

/-- The attempts that taking a listing makes. -/
def attempts (job : Job) (run : Run) (text : Text) : List (Attempt Analysis) :=
  Attempt.each (Service.backend job.settings) job.settings 0
    ((job.blocks text).map Listing.Block.body) run.replies

theorem isEncodable_of_outcome {total index : Nat} {block : Listing.Block} {reply : Service.Reply}
    {t : Text} (h : job.outcome total index block reply = .ok t) : Utf8.isEncodable t = true := by
  unfold outcome at h
  split at h
  · simp at h
  · split at h
    · simp at h
    · split at h
      · simp at h
      · next hproblem =>
        injection h with h
        rw [← h]
        exact (Writer.addPieces_problem_eq_none_iff _).1 hproblem

theorem completed_rewritten {total index : Nat} {blocks : List Listing.Block}
    {replies : List Service.Reply}
    (hstable : ∀ block ∈ blocks, (∀ r ∈ block.separator, Utf8.IsStable r) ∧
      ∀ r ∈ block.body, Utf8.IsStable r)
    (hattempts : ∀ attempt ∈ Attempt.each (Service.backend job.settings) job.settings index
      (blocks.map Listing.Block.body) replies, ∀ a, attempt.result = .ok a →
        a.KeepsAddresses ∧ a.HasCodePoints)
    (hdone : haltIn? (job.trials total index blocks replies) = none) :
    List.Forall₂ Listing.IsRewritten blocks (completed (job.trials total index blocks replies)) ∧
      ∀ t ∈ completed (job.trials total index blocks replies),
        (∀ r ∈ t, Utf8.IsStable r) ∧ Utf8.isEncodable t = true := by
  induction blocks generalizing index replies with
  | nil => exact ⟨.nil, by simp [trials, completed]⟩
  | cons block rest ih =>
    unfold trials at hdone ⊢
    dsimp only at hdone ⊢
    cases houtcome : job.outcome total index block
        (replies.headD (Service.backend job.settings).silence) with
    | error halt =>
      rw [houtcome] at hdone
      simp [haltIn?, Trial.halt?] at hdone
    | ok t =>
      rw [houtcome] at hdone
      have hencodable := isEncodable_of_outcome houtcome
      obtain ⟨a, ha, rfl⟩ := outcome_eq_ok houtcome
      rw [List.map_cons, Attempt.each] at hattempts
      unfold attempt at ha
      rw [ha] at hattempts
      dsimp only at hattempts
      obtain ⟨hfirst, hothers⟩ := List.forall_mem_cons.1 hattempts
      obtain ⟨hkeeps, hcodes⟩ := hfirst a ha
      obtain ⟨body, suggestion, -, hreply, rfl⟩ := Attempt.analysis_eq_ok_iff.1 ha
      have hnames := Suggestion.ofReply_areIdentifiers hreply
      obtain ⟨hblock, hrest⟩ := List.forall_mem_cons.1 hstable
      obtain ⟨hrewritten, htexts⟩ := ih hrest hothers hdone
      refine ⟨.cons (Writer.isRewritten_blockText hnames hkeeps) hrewritten, ?_⟩
      refine List.forall_mem_cons.2 ⟨⟨?_, hencodable⟩, htexts⟩
      exact Writer.isStable_blockText hnames hkeeps hcodes hblock.1 hblock.2

theorem visit_of_halt_none {tree : FileTree} {replies : List Service.Reply}
    (hread : Listing.read tree job.base path = .ok text)
    (hhalt : (job.visit tree replies path).halt = none) :
    job.blocks text ≠ [] ∧
      haltIn? (job.trials (job.blocks text).length 0 (job.blocks text) replies) = none ∧
      (job.visit tree replies path).trials =
        job.trials (job.blocks text).length 0 (job.blocks text) replies := by
  unfold visit at hhalt ⊢
  cases hstart : (job.startLine path).stop with
  | some error =>
    rw [hstart] at hhalt
    simp at hhalt
  | none =>
    rw [hstart, hread] at hhalt
    rw [hread]
    dsimp only at hhalt ⊢
    cases hblocks : job.blocks text with
    | nil =>
      rw [hblocks] at hhalt
      simp at hhalt
    | cons block rest =>
      rw [hblocks] at hhalt
      exact ⟨by simp, (Option.or_eq_none_iff.1 hhalt).1, rfl⟩

theorem completed_of_analyzeListing (hwrite : job.task.write = true)
    (hread : Listing.read run.tree job.base path = .ok text)
    (h : job.analyzeListing run path = (.ok (), after)) :
    job.blocks text ≠ [] ∧
      haltIn? (job.trials (job.blocks text).length 0 (job.blocks text) run.replies) = none ∧
      ∃ output, outputPath? path = some output ∧
        after.tree.read job.base output = .ok (Writer.content
          (completed (job.trials (job.blocks text).length 0 (job.blocks text) run.replies))) := by
  obtain ⟨output, location, opened, houtput, hopen⟩ :=
    opens_of_analyzeListing hwrite (congrArg Prod.fst h)
  have htakes := takes_analyzeListing hwrite houtput hopen
  rw [h] at htakes
  have hhalt := htakes.halt_none
  obtain ⟨hfound, hdone, htrials⟩ := visit_of_halt_none hread hhalt
  refine ⟨hfound, hdone, output, houtput, ?_⟩
  have hleaves := htakes.output (by simp [hhalt])
  rw [Visit.leaves, if_neg (completed_visit_ne_nil hhalt), htrials] at hleaves
  obtain ⟨location', hsaves⟩ := saves_of_analyzeListing hwrite h
  exact FileTree.read_opened hsaves.sameInner hopen hleaves

theorem separators_of_rewritten {texts : List Text} (hreturn : ∀ r ∈ text, r.code ≠ 0x0D)
    (hfound : job.blocks text ≠ [])
    (h : List.Forall₂ Listing.IsRewritten (job.blocks text) texts) :
    Listing.separators (Text.join [⟨0x0A⟩] texts) = Listing.separators text := by
  by_cases hsplit : job.task.split = true ∧ (Listing.cut true text).2 ≠ []
  · rw [blocks, if_pos hsplit.1] at h
    exact Listing.separators_rewritten_blocks hreturn hsplit.2 h
  · -- the listing is one block
    have hblocks : job.blocks text = if Text.isBlank text then [] else [⟨[], text⟩] := by
      unfold blocks
      split
      · next hyes => exact Listing.blocks_of_nil (by simpa [hyes] using hsplit)
      · rfl
    rw [hblocks] at hfound h
    split at hfound
    · exact absurd rfl hfound
    · next hsome =>
      rw [if_neg hsome] at h
      obtain ⟨t, rest, ht, hrest, rfl⟩ := List.forall₂_cons_left_iff.1 h
      obtain rfl := List.forall₂_nil_left_iff.1 hrest
      exact Listing.separators_rewritten_whole hreturn (by simpa using hsome) ht

theorem isStable_of_read {tree : FileTree} {base : Location}
    (h : Listing.read tree base path = .ok text) : ∀ r ∈ text, Utf8.IsStable r := by
  unfold Listing.read at h
  split at h
  · injection h with h
    exact h ▸ Utf8.isStable_of_mem_read _
  · simp at h

theorem isStable_of_mem_blocks (htext : ∀ r ∈ text, Utf8.IsStable r) :
    ∀ block ∈ job.blocks text, (∀ r ∈ block.separator, Utf8.IsStable r) ∧
      ∀ r ∈ block.body, Utf8.IsStable r := by
  unfold blocks
  split
  · exact Listing.forall_mem_blocks (by decide) htext
  · split
    · simp
    · simpa using htext

/-- An output has the separators of its listing, in the same order. -/
theorem analyzeListing_separators (job : Job) (run after : Run) (path : Path) (text : Text)
    (hwrite : job.task.write = true)
    (hread : Listing.read run.tree job.base path = .ok text)
    (hattempts : ∀ attempt ∈ job.attempts run text, ∀ a, attempt.result = .ok a →
      a.KeepsAddresses ∧ a.HasCodePoints)
    (h : job.analyzeListing run path = (.ok (), after)) :
    ∃ output written, outputPath? path = some output ∧
      Listing.read after.tree job.base output = .ok written ∧
      Listing.separators written = Listing.separators text := by
  obtain ⟨hfound, hdone, output, houtput, hwritten⟩ := completed_of_analyzeListing hwrite hread h
  have hstable := isStable_of_read hread
  obtain ⟨hrewritten, htexts⟩ :=
    completed_rewritten (isStable_of_mem_blocks hstable) hattempts hdone
  refine ⟨output, _, houtput, ?_, separators_of_rewritten (fun r hr => (hstable r hr).2) hfound
    hrewritten⟩
  rw [Listing.read, hwritten]
  dsimp only
  rw [Writer.textOf_content (fun t ht => (htexts t ht).1) fun t ht => (htexts t ht).2]

/-! ## Runs over one listing -/

def addressRun (text body : Text) : Run :=
  ⟨⟨[(["a.c"], .file (.bytes (Utf8.bytesOf text)))]⟩, [.response ⟨200, some "OK", body⟩], [], [],
    []⟩

def addressJob : Job :=
  ⟨⟨⟨none, none, none⟩, [here "a.c"], true, true, false, false⟩, .default, [], 80⟩

/-- The listing has one function, for which the reply has an accepted suggestion, and `written` is
the block of that. All of it can be shown and encoded. -/
structure Concludes (text body : Text) (block : Listing.Block) (suggestion : Suggestion)
    (written : Text) : Prop where
  blocks : Listing.blocks text = [block]
  reply : (Suggestion.ofReply body).1 = .ok suggestion
  done : Writer.blockText block.separator (Analysis.ofSuggestion 0 block.body suggestion) = written
  plain : Console.IsPlain (Comment.standard suggestion.name suggestion.description)
  renames : ∀ entry ∈ suggestion.renames,
    Console.measuresEvenly entry.1 = true ∧ Console.measuresEvenly entry.2 = true
  matched : (renameAll block.body suggestion.renames).unmatched = []
  stable : ∀ t ∈ [text, written], (∀ r ∈ t, Utf8.IsStable r) ∧ Utf8.isEncodable t = true

namespace Concludes

variable {body written : Text} {block : Listing.Block} {suggestion : Suggestion}

theorem read (h : Concludes text body block suggestion written) :
    Listing.read (addressRun text body).tree addressJob.base (here "a.c") = .ok text := by
  obtain ⟨hstable, hencodable⟩ := h.stable text List.mem_cons_self
  exact Listing.read_of_isStable ((isStraight_here (by decide) _).read rfl) hstable hencodable

theorem attempt (h : Concludes text body block suggestion written) :
    (addressJob.attempt 0 block (.response ⟨200, some "OK", body⟩)).result =
      .ok (Analysis.ofSuggestion 0 block.body suggestion) :=
  Attempt.analysis_eq_ok_iff.2 ⟨body, suggestion, rfl, h.reply, rfl⟩

theorem attempts (h : Concludes text body block suggestion written) :
    addressJob.attempts (addressRun text body) text =
      [addressJob.attempt 0 block (.response ⟨200, some "OK", body⟩)] := by
  have hblocks : addressJob.blocks text = [block] := h.blocks
  have hattempt := h.attempt
  unfold Job.attempt at hattempt ⊢
  rw [Job.attempts, hblocks, List.map_cons, List.map_nil, addressRun, Attempt.each]
  dsimp only [List.headD_cons]
  rw [hattempt]
  rfl

theorem outcome (h : Concludes text body block suggestion written) :
    addressJob.outcome 1 0 block (.response ⟨200, some "OK", body⟩) = .ok written := by
  rw [← h.done]
  refine outcome_of_report h.attempt (report_stop rfl h.plain h.renames h.matched _ _) ?_
  rw [h.done]
  exact (h.stable _ (List.mem_cons_of_mem _ List.mem_cons_self)).2

theorem visit (h : Concludes text body block suggestion written) :
    addressJob.visit (addressRun text body).tree (addressRun text body).replies (here "a.c") =
      ⟨here "a.c", [⟨block, .ok written⟩], none⟩ := by
  have hplain : Console.IsPlain (here "a.c").toText ∧ Console.IsPlain (here "a.out.c").toText := by
    decide
  refine visit_of_outcome (startLine_stop _ hplain.1.1 hplain.1.2) h.read h.blocks h.outcome ?_
  intro output houtput
  obtain rfl : here "a.out.c" = output := Option.some.inj houtput
  exact savedLine_stop _ hplain.2

theorem analyzeListing (h : Concludes text body block suggestion written) :
    ∃ after, addressJob.analyzeListing (addressRun text body) (here "a.c") = (.ok (), after) ∧
      Listing.read after.tree addressJob.base (here "a.out.c") = .ok written := by
  have houtput : outputPath? (here "a.c") = some (here "a.out.c") := by decide
  have hopen : (addressRun text body).tree.openForWriting [] (here "a.out.c") false = .ok _ :=
    (isStraight_here (by decide) _).open_free rfl false
  have htakes := takes_analyzeListing (show addressJob.task.write = true from rfl) houtput hopen
  rw [h.visit] at htakes
  refine ⟨_, Prod.ext htakes.result rfl, ?_⟩
  have hread := (isStraight_here (by decide) _).read (htakes.output (by simp))
  obtain ⟨hstable, hencodable⟩ := h.stable _ (List.mem_cons_of_mem _ List.mem_cons_self)
  exact Listing.read_of_isStable hread hstable hencodable

end Concludes

/-- The listing is completed. Its separators are `before`, and those of its output are `after`. -/
def Turns (text body : Text) (before after : List Text) : Prop :=
  Listing.read (addressRun text body).tree addressJob.base (here "a.c") = .ok text ∧
    Listing.separators text = before ∧
    ∃ run written, addressJob.analyzeListing (addressRun text body) (here "a.c") = (.ok (), run) ∧
      outputPath? (here "a.c") = some (here "a.out.c") ∧
      Listing.read run.tree addressJob.base (here "a.out.c") = .ok written ∧
      Listing.separators written = after

theorem Concludes.turns {body written : Text} {block : Listing.Block} {suggestion : Suggestion}
    (h : Concludes text body block suggestion written) :
    Turns text body (Listing.separators text) (Listing.separators written) := by
  obtain ⟨run, hdone, hread⟩ := h.analyzeListing
  exact ⟨h.read, rfl, run, written, hdone, by decide, hread, rfl⟩

def renamingBody (new : Text) : Text :=
  "\x7b\"response\": \"\x7b\\\"name\\\": \\\"f\\\", \\\"description\\\": \\\"d\\\", " ++
    "\\\"variables\\\": \x7b\\\"v\\\": \\\"" ++ new ++ "\\\"\x7d\x7d\"\x7d"

/-- The body of a reply whose name spans lines. -/
def spanningBody : Text :=
  "\x7b\"response\": \"\x7b\\\"name\\\": \\\"f\\\\n//---(1)\\\\ng\\\", " ++
    "\\\"description\\\": \\\"d\\\"\x7d\"\x7d"

theorem concludes_renaming : Concludes "//---(1)\nv" (renamingBody "w") ⟨"//---(1)", "v\n"⟩
    ⟨"d", "f", [("v", "w")], []⟩ "//---(1)\n/*\n * f()\n *\n * d\n */\n\nw\n" where
  blocks := by cbv
  reply := by cbv
  done := by decide +kernel
  plain := isPlain_standard
  renames := by decide
  matched := by cbv
  stable := by decide

/-- A function below its address, with a new name for a variable. -/
theorem analyzeListing_separators_renamed :
    addressJob.task.write = true ∧
      Listing.read (addressRun "//---(1)\nv" (renamingBody "w")).tree addressJob.base (here "a.c") =
        .ok "//---(1)\nv" ∧
      (∀ attempt ∈ addressJob.attempts (addressRun "//---(1)\nv" (renamingBody "w")) "//---(1)\nv",
        ∀ a, attempt.result = .ok a → a.KeepsAddresses ∧ a.HasCodePoints) ∧
      ∃ after, addressJob.analyzeListing (addressRun "//---(1)\nv" (renamingBody "w"))
          (here "a.c") = (.ok (), after) ∧
        ∃ output written, outputPath? (here "a.c") = some output ∧
          Listing.read after.tree addressJob.base output = .ok written ∧
          Listing.separators written = Listing.separators "//---(1)\nv" := by
  obtain ⟨after, hdone, -⟩ := concludes_renaming.analyzeListing
  have hread := concludes_renaming.read
  have hattempts : ∀ attempt ∈ addressJob.attempts
      (addressRun "//---(1)\nv" (renamingBody "w")) "//---(1)\nv",
      ∀ a, attempt.result = .ok a → a.KeepsAddresses ∧ a.HasCodePoints := by
    intro attempt hattempt a ha
    rw [concludes_renaming.attempts] at hattempt
    obtain rfl := List.mem_singleton.1 hattempt
    rw [concludes_renaming.attempt] at ha
    obtain rfl := Except.ok.inj ha
    have hhex : ∀ entry ∈ ([("v", "w")] : Entries Text),
        ¬Listing.IsHexNumber entry.1 ∧ ¬Listing.IsHexNumber entry.2 := by decide
    have hcodes : ∀ r ∈ ("f" : Text) ++ "d", Utf8.IsCodePoint r := by decide
    exact ⟨⟨by decide, Listing.keepsAddresses_of_not_hex hhex _⟩, hcodes⟩
  exact ⟨rfl, hread, hattempts, after, hdone,
    analyzeListing_separators _ _ _ _ _ rfl hread hattempts hdone⟩

theorem concludes_address : Concludes "//---(v)\nx" (renamingBody "a") ⟨[], "//---(v)\nx"⟩
    ⟨"d", "f", [("v", "a")], []⟩ "/*\n * f()\n *\n * d\n */\n\n//---(a)\nx" where
  blocks := by cbv
  reply := by cbv
  done := by decide +kernel
  plain := isPlain_standard
  renames := by decide
  matched := by cbv
  stable := by decide

theorem standard_spanning : Comment.standard "f\n//---(1)\ng" "d" =
    "/*\n * f\n//---(1)\ng()\n *\n * d\n */\n\n" := by decide +kernel

theorem concludes_spanning : Concludes "x" spanningBody ⟨[], "x"⟩
    ⟨"d", "f\n//---(1)\ng", [], []⟩ "/*\n * f\n//---(1)\ng()\n *\n * d\n */\n\nx" where
  blocks := by cbv
  reply := by cbv
  done := by decide +kernel
  plain := by
    show Console.IsPlain (Comment.standard "f\n//---(1)\ng" "d")
    rw [standard_spanning]
    decide
  renames := by decide
  matched := by cbv
  stable := by decide

/-- A separator that a rename has made, and one from a name that spans lines. -/
theorem analyzeListing_invents_separators :
    Turns "//---(v)\nx" (renamingBody "a") [[]] ["//---(a)"] ∧
      Turns "x" spanningBody [[]] ["//---(1)"] := by
  have haddress : Listing.separators "//---(v)\nx" = [[]] ∧
      Listing.separators "/*\n * f()\n *\n * d\n */\n\n//---(a)\nx" = ["//---(a)"] := by
    constructor <;> cbv
  have hspanning : Listing.separators "x" = [[]] ∧
      Listing.separators "/*\n * f\n//---(1)\ng()\n *\n * d\n */\n\nx" = ["//---(1)"] := by
    constructor <;> cbv
  have hturns := concludes_address.turns
  have hturns' := concludes_spanning.turns
  rw [haddress.1, haddress.2] at hturns
  rw [hspanning.1, hspanning.2] at hturns'
  exact ⟨hturns, hturns'⟩

end Command.Job

end Nomenclator
