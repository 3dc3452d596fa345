import Nomenclator.Proofs.Command.ExitCodes
import Nomenclator.Proofs.Output.Writer

/-!
# The course of an analysis

What becomes of the listings of a run, told without files: which functions are tried, which of them
are completed, and what ends the run. A run with writers follows this course, and its files hold the
blocks of the functions that were completed.
-/

namespace Nomenclator

/-! ## Lists of which only the last can stop -/

theorem forall_mem_dropLast_cons {α : Type} {p : α → Prop} {x : α} {xs : List α} (hx : p x)
    (hxs : ∀ y ∈ xs.dropLast, p y) : ∀ y ∈ (x :: xs).dropLast, p y := by
  cases xs with
  | nil => simp
  | cons next rest =>
    rw [List.dropLast_cons_cons]
    exact List.forall_mem_cons.2 ⟨hx, hxs⟩

theorem findSome?_of_dropLast {α β : Type} {f : α → Option β} {xs : List α}
    (hfirst : ∀ y ∈ xs.dropLast, f y = none) {x : α} {b : β} (hx : x ∈ xs) (hb : f x = some b) :
    xs.findSome? f = some b := by
  rcases List.eq_nil_or_concat xs with rfl | ⟨init, last, rfl⟩
  · simp at hx
  · rw [List.concat_eq_append] at hfirst hx ⊢
    rw [List.dropLast_concat] at hfirst
    rw [List.findSome?_append, List.findSome?_eq_none_iff.2 hfirst]
    rcases List.mem_append.1 hx with hx | hx
    · rw [hfirst x hx] at hb
      simp at hb
    · obtain rfl := List.mem_singleton.1 hx
      simp [hb]

/-! ## Functions and listings that were tried -/

/-- A block that cannot be encoded. The writer has opened its file by then. -/
def Halt.IsUnencodable (halt : Halt) : Prop := ∃ problem, halt = .escaped (.unencodable problem)

namespace Command

/-- A function that was tried: the text of its block or, if it was not completed, the reason. -/
structure Trial where
  block : Listing.Block
  outcome : Except Halt Text

def Trial.halt? (trial : Trial) : Option Halt :=
  match trial.outcome with
  | .ok _ => none
  | .error halt => some halt

/-- The blocks of the functions that were completed. -/
def completed (trials : List Trial) : List Text := trials.filterMap (·.outcome.toOption)

/-- What kept the last of the functions from being completed. -/
def haltIn? (trials : List Trial) : Option Halt := trials.findSome? Trial.halt?

/-- A listing that was begun. `halt` is what ended the run there, if it did not go on. -/
structure Visit where
  path : Path
  trials : List Trial
  halt : Option Halt

/-- What a listing makes of its output, where `before` was when it was begun. -/
def Visit.leaves (visit : Visit) (before : Option Node) : Option Node :=
  if completed visit.trials = [] then before
  else some (.file (.bytes (Writer.content (completed visit.trials))))

namespace Job

/-! ## Functions -/

def attempt (job : Job) (index : Nat) (block : Listing.Block) (reply : Service.Reply) :
    Attempt Analysis :=
  Attempt.analysis (Service.backend job.settings) job.settings index block.body reply

/-- A function is completed when it has been analyzed and shown and its block can be encoded. -/
def outcome (job : Job) (total index : Nat) (block : Listing.Block) (reply : Service.Reply) :
    Except Halt Text :=
  match (job.attempt index block reply).result with
  | .error halt => .error halt
  | .ok a =>
    match (job.report (index + 1) total a).stop with
    | some error => .error (.escaped (.unshowable error))
    | none =>
      match (Writer.addPieces [] (Writer.blockPieces block.separator a)).2 with
      | some problem => .error (.escaped (.unencodable problem))
      | none => .ok (Writer.blockText block.separator a)

/-- The functions of a listing up to the first that is not completed, each with the next reply. -/
def trials (job : Job) (total index : Nat) : List Listing.Block → List Service.Reply → List Trial
  | [], _ => []
  | block :: rest, replies =>
    let reply := replies.headD (Service.backend job.settings).silence
    match job.outcome total index block reply with
    | .error halt => [⟨block, .error halt⟩]
    | .ok text => ⟨block, .ok text⟩ :: job.trials total (index + 1) rest replies.tail

/-- The call for a function, at the address of the service. -/
def call (job : Job) (url : Text) (block : Listing.Block) : Service.Call :=
  ⟨.post, url, job.settings.connectTimeout, job.settings.timeout,
    some (Query.ofSnippet job.settings block.body)⟩

/-- There is no call if the settings have no address. -/
def callsFor (job : Job) (block : Listing.Block) : List Service.Call :=
  match Service.url job.settings Service.generateEndpoint with
  | .error _ => []
  | .ok url => [job.call url block]

/-! ## Listings -/

/-- A listing, with its text as `tree` has it. It is left when all its functions are completed and
the user has been told. -/
def visit (job : Job) (tree : FileTree) (replies : List Service.Reply) (path : Path) : Visit :=
  match (job.startLine path).stop with
  | some error => ⟨path, [], some (.escaped (.unshowable error))⟩
  | none =>
    match Listing.read tree job.base path with
    | .error halt => ⟨path, [], some halt⟩
    | .ok text =>
      match job.blocks text with
      | [] => ⟨path, [], some (.failed (.input (.empty path.toText)))⟩
      | blocks =>
        let trials := job.trials blocks.length 0 blocks replies
        let unsaid := (outputPath? path).bind fun output => (job.savedLine output).stop
        ⟨path, trials, (haltIn? trials).or (unsaid.map (.escaped ∘ .unshowable))⟩

/-- The listings up to the first at which the run ends. -/
def visits (job : Job) (tree : FileTree) : List Path → List Service.Reply → List Visit
  | [], _ => []
  | path :: rest, replies =>
    let visit := job.visit tree replies path
    match visit.halt with
    | some _ => [visit]
    | none => visit :: job.visits tree rest (replies.drop visit.trials.length)

variable {job : Job} {tree : FileTree}

/-! ## Order -/

theorem map_block_trials (total index : Nat) (blocks : List Listing.Block)
    (replies : List Service.Reply) :
    (job.trials total index blocks replies).map Trial.block <+: blocks := by
  induction blocks generalizing index replies with
  | nil => exact List.nil_prefix
  | cons block rest ih =>
    unfold trials
    dsimp only
    split
    · exact List.cons_prefix_cons.2 ⟨rfl, List.nil_prefix⟩
    · exact List.cons_prefix_cons.2 ⟨rfl, ih _ _⟩

theorem halt?_of_mem_dropLast_trials (total index : Nat) (blocks : List Listing.Block)
    (replies : List Service.Reply) :
    ∀ trial ∈ (job.trials total index blocks replies).dropLast, trial.halt? = none := by
  induction blocks generalizing index replies with
  | nil => simp [trials]
  | cons block rest ih =>
    unfold trials
    dsimp only
    split
    · simp
    · exact forall_mem_dropLast_cons rfl (ih _ _)

theorem map_block_of_haltIn?_none {total index : Nat} {blocks : List Listing.Block}
    {replies : List Service.Reply} (h : haltIn? (job.trials total index blocks replies) = none) :
    (job.trials total index blocks replies).map Trial.block = blocks := by
  induction blocks generalizing index replies with
  | nil => rfl
  | cons block rest ih =>
    unfold trials at h ⊢
    dsimp only at h ⊢
    split at h
    · simp [haltIn?, Trial.halt?] at h
    · exact congrArg (block :: ·) (ih h)

/-- The functions of a listing are tried in order, up to the first that is not completed. The run
goes on only when all are. -/
structure TriesInOrder (job : Job) (tree : FileTree) (visit : Visit) (text : Text) : Prop where
  read : Listing.read tree job.base visit.path = .ok text
  found : job.blocks text ≠ []
  order : visit.trials.map Trial.block <+: job.blocks text
  first : ∀ trial ∈ visit.trials.dropLast, trial.halt? = none
  stops : ∀ trial ∈ visit.trials, ∀ halt ∈ trial.halt?, visit.halt = some halt
  all : visit.halt = none →
    visit.trials.map Trial.block = job.blocks text ∧ ∀ trial ∈ visit.trials, trial.halt? = none

/-- Why no function of a listing was tried: its name cannot be shown, it cannot be read, or there is
none in it. That ends the run. -/
inductive IsUntried (job : Job) (tree : FileTree) (visit : Visit) : Prop
  | unshown {error : Console.CutError} (h : (job.startLine visit.path).stop = some error)
      (hhalt : visit.halt = some (.escaped (.unshowable error)))
  | unread {error : FileError} (h : tree.read job.base visit.path = .error error)
      (hhalt : visit.halt = some (.failed (.input (.unreadable visit.path.toText error))))
  | empty {text : Text} (h : Listing.read tree job.base visit.path = .ok text)
      (hnone : job.blocks text = [])
      (hhalt : visit.halt = some (.failed (.input (.empty visit.path.toText))))

theorem IsUntried.halt_ne_none {visit : Visit} (h : job.IsUntried tree visit) :
    visit.halt ≠ none := by
  cases h with
  | unshown _ hhalt | unread _ hhalt | empty _ _ hhalt => simp [hhalt]

theorem visit_path (replies : List Service.Reply) (path : Path) :
    (job.visit tree replies path).path = path := by
  unfold visit
  split
  · rfl
  · split
    · rfl
    · split <;> rfl

theorem visit_tries (replies : List Service.Reply) (path : Path) :
    (job.visit tree replies path).trials = [] ∧
        job.IsUntried tree (job.visit tree replies path) ∨
      ∃ text, job.TriesInOrder tree (job.visit tree replies path) text := by
  unfold visit
  split
  · next error hstart => exact .inl ⟨rfl, .unshown hstart rfl⟩
  · split
    · next halt hread =>
      unfold Listing.read at hread
      split at hread
      · simp at hread
      · next error herror =>
        injection hread with hread
        subst hread
        exact .inl ⟨rfl, .unread herror rfl⟩
    · next text hread =>
      split
      · next hnone => exact .inl ⟨rfl, .empty hread hnone rfl⟩
      · next hfound =>
        refine .inr ⟨text, hread, hfound, map_block_trials _ _ _ _,
          halt?_of_mem_dropLast_trials _ _ _ _, fun trial htrial halt hhalt => ?_, fun hhalt => ?_⟩
        · dsimp only at htrial ⊢
          rw [haltIn?,
            findSome?_of_dropLast (halt?_of_mem_dropLast_trials _ _ _ _) htrial hhalt]
          rfl
        have hnone := (Option.or_eq_none_iff.1 hhalt).1
        exact ⟨map_block_of_haltIn?_none hnone, List.findSome?_eq_none_iff.1 hnone⟩

theorem map_path_visits (paths : List Path) (replies : List Service.Reply) :
    (job.visits tree paths replies).map Visit.path <+: paths := by
  induction paths generalizing replies with
  | nil => exact List.nil_prefix
  | cons path rest ih =>
    unfold visits
    dsimp only
    split
    · exact List.cons_prefix_cons.2 ⟨visit_path _ _, List.nil_prefix⟩
    · exact List.cons_prefix_cons.2 ⟨visit_path _ _, ih _⟩

theorem halt_of_mem_dropLast_visits (paths : List Path) (replies : List Service.Reply) :
    ∀ visit ∈ (job.visits tree paths replies).dropLast, visit.halt = none := by
  induction paths generalizing replies with
  | nil => simp [visits]
  | cons path rest ih =>
    unfold visits
    dsimp only
    split
    · simp
    · next hhalt => exact forall_mem_dropLast_cons hhalt (ih _)

theorem map_path_of_halt_none {paths : List Path} {replies : List Service.Reply}
    (h : ∀ visit ∈ job.visits tree paths replies, visit.halt = none) :
    (job.visits tree paths replies).map Visit.path = paths := by
  induction paths generalizing replies with
  | nil => rfl
  | cons path rest ih =>
    unfold visits at h ⊢
    dsimp only at h ⊢
    split at h
    · next hhalt => simp [hhalt] at h
    · obtain ⟨-, hrest⟩ := List.forall_mem_cons.1 h
      rw [List.map_cons, visit_path, ih hrest]

theorem forall_mem_visits {p : Visit → Prop} (h : ∀ replies path, p (job.visit tree replies path))
    (paths : List Path) (replies : List Service.Reply) :
    ∀ visit ∈ job.visits tree paths replies, p visit := by
  induction paths generalizing replies with
  | nil => simp [visits]
  | cons path rest ih =>
    unfold visits
    dsimp only
    split
    · exact List.forall_mem_cons.2 ⟨h _ _, by simp⟩
    · exact List.forall_mem_cons.2 ⟨h _ _, ih _⟩

/-! ## Failures -/

theorem outcome_isTold {total index : Nat} {block : Listing.Block} {reply : Service.Reply}
    {halt : Halt} (h : job.outcome total index block reply = .error halt) :
    halt.isTold = false := by
  unfold outcome at h
  split at h
  · next hattempt =>
    injection h with h
    exact h ▸ Attempt.analysis_isTold hattempt
  · split at h
    · injection h with h
      exact h ▸ rfl
    · split at h
      · injection h with h
        exact h ▸ rfl
      · simp at h

theorem trials_isTold {total index : Nat} {blocks : List Listing.Block}
    {replies : List Service.Reply} {halt : Halt}
    (h : haltIn? (job.trials total index blocks replies) = some halt) : halt.isTold = false := by
  induction blocks generalizing index replies with
  | nil => simp [trials, haltIn?] at h
  | cons block rest ih =>
    unfold trials at h
    dsimp only at h
    split at h
    · next houtcome =>
      simp only [haltIn?, Trial.halt?, List.findSome?_cons, Option.some.injEq] at h
      exact h ▸ outcome_isTold houtcome
    · exact ih h

theorem visit_isTold {replies : List Service.Reply} {path : Path} {halt : Halt}
    (h : (job.visit tree replies path).halt = some halt) : halt.isTold = false := by
  unfold visit at h
  split at h
  · injection h with h
    exact h ▸ rfl
  · split at h
    · next hread =>
      unfold Listing.read at hread
      split at hread
      · simp at hread
      · injection hread with hread
        injection h with h
        exact h ▸ hread ▸ rfl
    · split at h
      · injection h with h
        exact h ▸ rfl
      · rcases Option.or_eq_some_iff.1 h with h | ⟨-, h⟩
        · exact trials_isTold h
        · obtain ⟨error, -, rfl⟩ := Option.map_eq_some_iff.1 h
          rfl

theorem visits_isTold (paths : List Path) (replies : List Service.Reply) :
    ∀ visit ∈ job.visits tree paths replies, ∀ halt ∈ visit.halt, halt.isTold = false :=
  forall_mem_visits (fun _ _ _ hhalt => visit_isTold hhalt) paths replies

end Job

end Command

end Nomenclator
