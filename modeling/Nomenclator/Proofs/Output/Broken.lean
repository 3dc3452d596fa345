import Mathlib.Data.List.Permutation
import Nomenclator.Service.Envelope
import Nomenclator.Proofs.Output.Writer

/-!
# Writes that fail

A write that cannot open its file leaves no trace. A write that breaks off at a piece that cannot be
encoded has opened its file before, and what goes before that piece is in the file once the writer
is closed.
-/

namespace Nomenclator

namespace FileTree

variable {tree : FileTree} {location : Location}

/-- Bytes that are put into a file change nothing if they stand there already. -/
theorem spliced_eq_iff {old bytes : Utf8.Bytes} {offset : Nat} (h : bytes ≠ []) :
    old.take offset ++ List.replicate (offset - old.length) 0 ++ bytes ++
        old.drop (offset + bytes.length) = old ↔ bytes <+: old.drop offset := by
  have hpos : 0 < bytes.length := List.length_pos_iff.2 h
  constructor
  · intro heq
    have hlength := congrArg List.length heq
    simp only [List.length_append, List.length_take, List.length_replicate,
      List.length_drop] at hlength
    have hgap : offset - old.length = 0 := by omega
    rw [hgap, List.replicate_zero, List.append_nil, List.append_assoc] at heq
    exact ⟨_, List.append_cancel_left (heq.trans (List.take_append_drop offset old).symm)⟩
  · rintro ⟨rest, hrest⟩
    have hlength := congrArg List.length hrest
    simp only [List.length_append, List.length_drop] at hlength
    have hgap : offset - old.length = 0 := by omega
    have hbehind : old.drop (offset + bytes.length) = rest := by
      rw [← List.drop_drop, ← hrest, List.drop_left]
    rw [hgap, List.replicate_zero, List.append_nil, List.append_assoc, hbehind, hrest,
      List.take_append_drop]

theorem writeAt_of_file {old bytes : Utf8.Bytes}
    (hold : tree.node? location = some (.file (.bytes old))) (h : bytes ≠ []) (offset : Nat) :
    tree.writeAt location offset bytes =
      tree.put location (.file (.bytes (old.take offset ++ List.replicate (offset - old.length) 0 ++
        bytes ++ old.drop (offset + bytes.length)))) := by
  obtain ⟨b, rest, rfl⟩ := List.exists_cons_of_ne_nil h
  unfold writeAt
  rw [hold]

theorem writeAt_of_no_file (h : ∀ old, tree.node? location ≠ some (.file (.bytes old)))
    (offset : Nat) (bytes : Utf8.Bytes) : tree.writeAt location offset bytes = tree := by
  unfold writeAt
  split
  · rfl
  · next old hold _ => exact absurd hold (h old)
  · rfl

theorem node?_writeAt_eq_iff {bytes : Utf8.Bytes} (h : bytes ≠ []) (offset : Nat) :
    (∀ l, (tree.writeAt location offset bytes).node? l = tree.node? l) ↔
      ∀ old, tree.node? location = some (.file (.bytes old)) → bytes <+: old.drop offset := by
  by_cases hfile : ∃ old, tree.node? location = some (.file (.bytes old))
  · obtain ⟨old, hold⟩ := hfile
    have hwritten := writeAt_of_file hold h offset
    constructor
    · intro hsame old' hold'
      obtain rfl : old = old' := by simpa [hold] using hold'
      have hnode := hsame location
      rw [hwritten, node?_put (ne_root_of_file hold), if_pos rfl, hold] at hnode
      simpa [← spliced_eq_iff h] using hnode
    · intro hthere l
      rw [hwritten, (spliced_eq_iff h).2 (hthere old hold), node?_put (ne_root_of_file hold)]
      split
      · next heq => rw [heq, hold]
      · rfl
  · rw [writeAt_of_no_file (not_exists.1 hfile)]
    exact iff_of_true (fun _ => rfl) fun old hold => absurd ⟨old, hold⟩ hfile

theorem node?_opened {p : Path} {base : Location} {overwrite : Bool} {opened : FileTree}
    (hopen : tree.openForWriting base p overwrite = .ok (location, opened)) (l : Location) :
    opened.node? l = if l = location then some (.file (.bytes [])) else tree.node? l := by
  obtain ⟨rfl, hbefore, -⟩ := openForWriting_eq_ok hopen
  refine node?_put ?_ tree _ l
  rintro rfl
  rw [node?_root] at hbefore
  simp at hbefore

end FileTree

namespace Writer

open FileTree Utf8

variable {w : Writer} {tree : FileTree} {base : Location} {a : Analysis} {separator : Text}

/-! ## Pieces -/

/-- What goes out of a block before the first of its pieces that cannot be encoded. -/
def leftover (separator : Text) (a : Analysis) : Bytes :=
  bytesOf ((blockPieces separator a).takeWhile isEncodable).flatten

theorem addPieces_pending (pending : Bytes) (pieces : List Text) :
    (addPieces pending pieces).1 = pending ++ bytesOf (pieces.takeWhile isEncodable).flatten := by
  induction pieces generalizing pending with
  | nil => simp [addPieces, bytesOf]
  | cons piece rest ih =>
    rw [addPieces]
    by_cases h : isEncodable piece = true
    · rw [encode_of_isEncodable h, List.takeWhile_cons_of_pos h, List.flatten_cons, bytesOf_append,
        ← List.append_assoc]
      exact ih _
    · rw [List.takeWhile_cons_of_neg h, encode, if_neg h]
      simp [bytesOf]

/-! ## How a write ends -/

/-- Where a block goes: the open handle, what comes before the block, the files. -/
inductive Begins (w : Writer) (tree : FileTree) (base : Location) :
    Handle → Text → FileTree → Prop
  | opening {location : Location} {opened : FileTree} (hclosed : w.handle = none)
      (hopen : tree.openForWriting base w.path w.overwrite = .ok (location, opened)) :
    Begins w tree base ⟨location, 0, []⟩ [] opened
  | going {handle : Handle} (hhandle : w.handle = some handle) :
    Begins w tree base handle [⟨0x0A⟩] tree

/-- A write is refused when its file cannot be opened. Otherwise it is done when the whole block can
be encoded, and breaks off when it cannot. -/
inductive Outcome (w : Writer) (tree : FileTree) (base : Location) (a : Analysis)
    (separator : Text) : Step → Prop
  | refused {error : FileError} (hclosed : w.handle = none)
      (hopen : tree.openForWriting base w.path w.overwrite = .error error) :
    Outcome w tree base a separator ⟨.error (.failed (openFailure w.path error)), w, tree⟩
  | done {handle : Handle} {lead : Text} {started : FileTree} {bytes : Bytes}
      (hbegins : w.Begins tree base handle lead started)
      (hencodable : isEncodable (blockText separator a) = true)
      (hbytes : bytes = handle.pending ++ bytesOf (lead ++ blockText separator a)) :
    Outcome w tree base a separator
      ⟨.ok (), { w with
          handle := some ⟨handle.location, handle.offset + bytes.length, []⟩
          written := w.written + 1 },
        started.writeAt handle.location handle.offset bytes⟩
  | broken {handle : Handle} {lead : Text} {started : FileTree} {problem : EncodeProblem}
      (hbegins : w.Begins tree base handle lead started)
      (hproblem : isEncodable (blockText separator a) = false) :
    Outcome w tree base a separator
      ⟨.error (.escaped (.unencodable problem)),
        { w with handle := some { handle with
          pending := handle.pending ++ bytesOf lead ++ leftover separator a } }, started⟩

theorem outcome_of_ready {handle : Handle} {before : List Text} {lead : Text} {started : FileTree}
    (hready : w.ready tree base = .ok (handle, before, started))
    (hbegins : w.Begins tree base handle lead started) (hlead : before.flatten = lead)
    (hbefore : ∀ piece ∈ before, isEncodable piece = true) :
    Outcome w tree base a separator (w.write tree base a separator) := by
  have hflatten : isEncodable before.flatten = true := by
    simpa [isEncodable] using hbefore
  have hpending : (addPieces handle.pending (before ++ blockPieces separator a)).1 =
      handle.pending ++ bytesOf lead ++ leftover separator a := by
    rw [addPieces_pending, List.takeWhile_append_of_pos hbefore, List.flatten_append,
      bytesOf_append, hlead, ← List.append_assoc]
    rfl
  unfold write
  rw [hready]
  by_cases hencodable : isEncodable (blockText separator a) = true
  · have hall : isEncodable (before ++ blockPieces separator a).flatten = true := by
      rw [List.flatten_append, isEncodable_append, hflatten]
      exact hencodable
    simp only [addPieces_of_isEncodable hall, Handle.flush]
    exact .done hbegins hencodable (by rw [List.flatten_append, hlead]; rfl)
  · cases hpieces : addPieces handle.pending (before ++ blockPieces separator a) with
    | mk pending problem? =>
      have hproblem : problem? = (addPieces [] (blockPieces separator a)).2 := by
        rw [← addPieces_problem_append hflatten, ← addPieces_problem handle.pending, hpieces]
      cases problem? with
      | none => exact absurd ((addPieces_problem_eq_none_iff _).1 hproblem.symm) hencodable
      | some problem =>
        rw [hpieces] at hpending
        obtain rfl : pending = _ := hpending
        simp only [hpieces]
        exact .broken hbegins (by simpa using hencodable)

theorem write_outcome (w : Writer) (tree : FileTree) (base : Location) (a : Analysis)
    (separator : Text) : Outcome w tree base a separator (w.write tree base a separator) := by
  cases hhandle : w.handle with
  | some handle =>
    have hready : w.ready tree base = .ok (handle, [[⟨0x0A⟩]], tree) := by rw [ready, hhandle]
    exact outcome_of_ready hready (.going hhandle) rfl (by decide)
  | none =>
    cases hopen : tree.openForWriting base w.path w.overwrite with
    | ok opened =>
      have hready : w.ready tree base = .ok (⟨opened.1, 0, []⟩, [], opened.2) := by
        rw [ready, hhandle, hopen]
      exact outcome_of_ready hready (.opening hhandle hopen) rfl (by simp)
    | error error =>
      have hready : w.ready tree base = .error (openFailure w.path error) := by
        rw [ready, hhandle, hopen]
      unfold write
      rw [hready]
      exact .refused hhandle hopen

/-! ## Traces -/

/-- A step that has changed nothing for good: once the writer is closed, the count and all files are
as they were. Nor has it cut anything off a file in the meantime. -/
structure Step.LeavesNothing (step : Step) (w : Writer) (tree : FileTree) : Prop where
  written : (step.writer.close step.tree).1.written = w.written
  files : ∀ l, (step.writer.close step.tree).2.1.node? l = tree.node? l
  uncut : ∀ l bytes, tree.node? l = some (.file (.bytes bytes)) →
    ∃ more, step.tree.node? l = some (.file (.bytes (bytes ++ more)))

def AllOrNothing (w : Writer) (tree : FileTree) (base : Location) (a : Analysis)
    (separator : Text) : Prop :=
  (w.write tree base a separator).result ≠ .ok () →
    (w.write tree base a separator).LeavesNothing w tree

/-- The block can be encoded, so that nothing but the opening of the file can fail. Or the file, if
it can be opened at all, is there and empty, and there is nothing left over. A writer that is open
always leaves a line feed; then the file has to be gone, or somebody else has put the same bytes at
the writer's place. -/
def LeavesNoTrace (w : Writer) (tree : FileTree) (base : Location) (a : Analysis)
    (separator : Text) : Prop :=
  isEncodable (blockText separator a) = true ∨
    match w.handle with
    | none => ∀ location opened,
      tree.openForWriting base w.path w.overwrite = .ok (location, opened) →
        tree.node? location = some (.file (.bytes [])) ∧ leftover separator a = []
    | some handle => ∀ bytes, tree.node? handle.location = some (.file (.bytes bytes)) →
      handle.pending ++ bytesOf [⟨0x0A⟩] ++ leftover separator a <+: bytes.drop handle.offset

theorem close_of_handle {handle : Handle} (hhandle : w.handle = some handle) :
    (w.close tree).2.1 = tree.writeAt handle.location handle.offset handle.pending := by
  rw [close, hhandle]
  rfl

theorem close_of_closed (hclosed : w.handle = none) : (w.close tree).2.1 = tree := by
  rw [close, hclosed]

theorem uncut_of_same {started : FileTree} (h : ∀ l, started.node? l = tree.node? l) (l : Location)
    (bytes : Bytes) (hbytes : tree.node? l = some (.file (.bytes bytes))) :
    ∃ more, started.node? l = some (.file (.bytes (bytes ++ more))) :=
  ⟨[], by rw [h, hbytes, List.append_nil]⟩

theorem leavesNothing_refused (hclosed : w.handle = none) (result : Except Halt Unit) :
    (⟨result, w, tree⟩ : Step).LeavesNothing w tree where
  written := close_written w tree
  files := fun l => by rw [close_of_closed hclosed]
  uncut := uncut_of_same fun _ => rfl

theorem leavesNothing_going_iff {handle : Handle} (hpending : handle.pending ≠ [])
    (result : Except Halt Unit) :
    (⟨result, { w with handle := some handle }, tree⟩ : Step).LeavesNothing w tree ↔
      ∀ bytes, tree.node? handle.location = some (.file (.bytes bytes)) →
        handle.pending <+: bytes.drop handle.offset := by
  rw [← node?_writeAt_eq_iff hpending,
    ← close_of_handle (w := { w with handle := some handle }) rfl]
  exact ⟨fun h => h.files, fun h => ⟨close_written _ _, h, uncut_of_same fun _ => rfl⟩⟩

theorem leavesNothing_opening_iff {location : Location} {opened : FileTree}
    (hopen : tree.openForWriting base w.path w.overwrite = .ok (location, opened))
    (bytes : Bytes) (result : Except Halt Unit) :
    (⟨result, { w with handle := some ⟨location, 0, bytes⟩ }, opened⟩ : Step).LeavesNothing w tree ↔
      tree.node? location = some (.file (.bytes [])) ∧ bytes = [] := by
  have hopened := node?_opened hopen
  have hempty : opened.node? location = some (.file (.bytes [])) := by rw [hopened, if_pos rfl]
  have hwritten : (opened.writeAt location 0 bytes).node? location = some (.file (.bytes bytes)) :=
    node?_writeAt_end hempty bytes
  constructor
  · rintro ⟨-, hfiles, huncut⟩
    have hbefore : tree.node? location = some (.file (.bytes bytes)) := hfiles location ▸ hwritten
    obtain ⟨more, hmore⟩ := huncut location bytes hbefore
    have hnil : bytes = [] ∧ more = [] := by simpa [hempty] using hmore
    exact ⟨hnil.1 ▸ hbefore, hnil.1⟩
  · rintro ⟨hbefore, rfl⟩
    have hsame : ∀ l, opened.node? l = tree.node? l := by
      intro l
      rw [hopened]
      split
      · next heq => rw [heq, hbefore]
      · rfl
    refine ⟨close_written _ _, fun l => ?_, uncut_of_same hsame⟩
    by_cases hl : l = location
    · rw [hl, hbefore]
      exact hwritten
    · rw [← hsame]
      exact node?_writeAt_of_ne hl _ _ _

theorem allOrNothing_of_encodable (hencodable : isEncodable (blockText separator a) = true) :
    w.AllOrNothing tree base a separator := by
  have houtcome := write_outcome w tree base a separator
  unfold AllOrNothing
  generalize w.write tree base a separator = step at houtcome ⊢
  intro hfailed
  cases houtcome with
  | refused hclosed _ => exact leavesNothing_refused hclosed _
  | done _ _ _ => exact absurd rfl hfailed
  | broken _ hproblem => simp [hencodable] at hproblem

theorem allOrNothing_refused {error : FileError} (hclosed : w.handle = none)
    (hopen : tree.openForWriting base w.path w.overwrite = .error error) :
    w.AllOrNothing tree base a separator := by
  intro _
  rw [write, ready, hclosed, hopen]
  exact leavesNothing_refused hclosed _

theorem allOrNothing_opening_iff {location : Location} {opened : FileTree}
    (hproblem : isEncodable (blockText separator a) = false) (hclosed : w.handle = none)
    (hopen : tree.openForWriting base w.path w.overwrite = .ok (location, opened)) :
    w.AllOrNothing tree base a separator ↔
      tree.node? location = some (.file (.bytes [])) ∧ leftover separator a = [] := by
  have houtcome := write_outcome w tree base a separator
  unfold AllOrNothing
  generalize w.write tree base a separator = step at houtcome ⊢
  cases houtcome with
  | refused _ hrefused => simp [hopen] at hrefused
  | done _ hencodable _ => simp [hproblem] at hencodable
  | broken hbegins _ =>
    cases hbegins with
    | going hhandle => simp [hclosed] at hhandle
    | opening _ hopen' =>
      rw [hopen] at hopen'
      injection hopen' with hopen'
      injection hopen' with hlocation hopened
      rw [← hlocation, ← hopened, ← leavesNothing_opening_iff hopen]
      exact forall_prop_of_true (by simp)

theorem allOrNothing_going_iff {handle : Handle}
    (hproblem : isEncodable (blockText separator a) = false) (hhandle : w.handle = some handle) :
    w.AllOrNothing tree base a separator ↔
      ∀ bytes, tree.node? handle.location = some (.file (.bytes bytes)) →
        handle.pending ++ bytesOf [⟨0x0A⟩] ++ leftover separator a <+:
          bytes.drop handle.offset := by
  have houtcome := write_outcome w tree base a separator
  unfold AllOrNothing
  generalize w.write tree base a separator = step at houtcome ⊢
  cases houtcome with
  | refused hclosed _ => simp [hclosed] at hhandle
  | done _ hencodable _ => simp [hproblem] at hencodable
  | broken hbegins _ =>
    cases hbegins with
    | opening hclosed _ => simp [hclosed] at hhandle
    | going hhandle' =>
      rw [hhandle] at hhandle'
      injection hhandle' with hhandle'
      rw [← hhandle']
      refine (forall_prop_of_true (by simp)).trans (leavesNothing_going_iff ?_ _)
      simp [bytesOf, encodeRune]

/-- A write whose block can be encoded is all or nothing. Any other is so just where its file cannot
be opened, where it found the file empty and left nothing over, and where its writer was open on a
file that somebody else has changed. -/
theorem allOrNothing_iff (w : Writer) (tree : FileTree) (base : Location) (a : Analysis)
    (separator : Text) :
    w.AllOrNothing tree base a separator ↔ w.LeavesNoTrace tree base a separator := by
  unfold LeavesNoTrace
  by_cases hencodable : isEncodable (blockText separator a) = true
  · exact iff_of_true (allOrNothing_of_encodable hencodable) (.inl hencodable)
  · have hproblem : isEncodable (blockText separator a) = false := by simpa using hencodable
    rw [or_iff_right hencodable]
    cases hhandle : w.handle with
    | some handle => exact allOrNothing_going_iff hproblem hhandle
    | none =>
      cases hopen : tree.openForWriting base w.path w.overwrite with
      | error error => exact iff_of_true (allOrNothing_refused hhandle hopen) (by simp)
      | ok opened =>
        rw [allOrNothing_opening_iff hproblem hhandle hopen]
        constructor
        · rintro h _ _ ⟨⟩
          exact h
        · exact fun h => h _ _ rfl

/-! ## A lone surrogate -/

/-- An answer whose description is one lone surrogate. -/
def surrogateAnswer : Text := "\x7b\"description\": \"\\ud800\", \"name\": \"f\"\x7d"

def surrogateAnalysis : Analysis := .ofSuggestion 0 "x" ⟨[⟨0xD800⟩], "f", [], []⟩

def surrogateTarget : Path := ⟨.relative, ["a.out.c"]⟩

/-- An answer that was accepted makes a write fail, which leaves an empty file where there was none,
and none of the content where there was a file. -/
theorem write_leaves_empty_file :
    Suggestion.ofAnswer surrogateAnswer = .ok surrogateAnalysis.suggestion ∧
      ¬(new surrogateTarget false).AllOrNothing .empty [] surrogateAnalysis [] ∧
      ¬(new surrogateTarget true).AllOrNothing
        (FileTree.empty.put ["a.out.c"] (.file (.bytes [0x78]))) [] surrogateAnalysis [] := by
  have hproblem : isEncodable (blockText [] surrogateAnalysis) = false := by decide +kernel
  have htarget : ∀ tree : FileTree, tree.IsStraight [] surrogateTarget ["a.out.c"] :=
    FileTree.isStraight_here (by decide)
  have hnew : FileTree.empty.openForWriting [] surrogateTarget false =
      .ok (["a.out.c"], FileTree.empty.put ["a.out.c"] (.file (.bytes []))) :=
    (htarget _).open_free rfl false
  have hover : (FileTree.empty.put ["a.out.c"] (.file (.bytes [0x78]))).openForWriting []
      surrogateTarget true =
        .ok (["a.out.c"], FileTree.empty.put ["a.out.c"] (.file (.bytes []))) :=
    (htarget _).open_over (.inr ⟨_, rfl⟩)
  refine ⟨by cbv, ?_, ?_⟩
  · rw [allOrNothing_opening_iff hproblem rfl hnew]
    exact fun h => absurd h.1 (by decide)
  · rw [allOrNothing_opening_iff hproblem rfl hover]
    exact fun h => absurd h.1 (by decide)

end Writer

end Nomenclator
