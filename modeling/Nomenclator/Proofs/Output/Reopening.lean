import Mathlib.Data.List.Induction
import Nomenclator.Proofs.Output.Broken

/-!
# Writers that go on after they were closed

A closed writer opens its file again with its next write. One that does not overwrite finds its own
file in the way, so what it has reported as written stays there. One that overwrites begins with an
empty file, and what it has reported is lost.
-/

namespace Nomenclator

open Writer FileTree Utf8

/-- The texts stand in the file, each behind the one before. -/
def StandIn : List Text → Bytes → Prop
  | [], _ => True
  | text :: rest, bytes => ∃ before code behind,
    encode text = .ok code ∧ bytes = before ++ code ++ behind ∧ StandIn rest behind

theorem StandIn.append {texts : List Text} {bytes : Bytes} (h : StandIn texts bytes)
    (more : Bytes) : StandIn texts (bytes ++ more) := by
  induction texts generalizing bytes with
  | nil => trivial
  | cons text rest ih =>
    obtain ⟨before, code, behind, hcode, rfl, hrest⟩ := h
    exact ⟨before, code, behind ++ more, hcode, by simp, ih hrest⟩

theorem StandIn.concat {texts : List Text} {bytes : Bytes} (h : StandIn texts bytes) {text : Text}
    (hencodable : isEncodable text = true) : StandIn (texts ++ [text]) (bytes ++ bytesOf text) := by
  induction texts generalizing bytes with
  | nil => exact ⟨bytes, bytesOf text, [], encode_of_isEncodable hencodable, by simp, trivial⟩
  | cons first rest ih =>
    obtain ⟨before, code, behind, hcode, rfl, hrest⟩ := h
    exact ⟨before, code, behind ++ bytesOf text, hcode, by simp, ih hrest⟩

theorem StandIn.length_le {texts : List Text} {bytes : Bytes} (h : StandIn texts bytes) :
    (bytesOf texts.flatten).length ≤ bytes.length := by
  induction texts generalizing bytes with
  | nil => simp [bytesOf]
  | cons text rest ih =>
    obtain ⟨before, code, behind, hcode, rfl, hrest⟩ := h
    have hlength := ih hrest
    rw [List.flatten_cons, bytesOf_append, ← eq_bytesOf_of_encode hcode]
    simp only [List.length_append]
    omega

theorem StandIn.eq_nil {texts more : List Text}
    (h : StandIn (texts ++ more) (bytesOf more.flatten)) : bytesOf texts.flatten = [] := by
  have hlength := h.length_le
  rw [List.flatten_append, bytesOf_append, List.length_append] at hlength
  exact List.length_eq_zero_iff.1 (by omega)

/-! ## Sessions -/

/-- A writer at work, with the files and what it has reported as written. -/
structure Session where
  writer : Writer
  tree : FileTree
  reported : List (Text × Analysis)

namespace Session

inductive Act where
  | write (separator : Text) (a : Analysis)
  | close

def start (path : Path) (overwrite : Bool) (tree : FileTree) : Session :=
  ⟨.new path overwrite, tree, []⟩

/-- One act. A write is reported when it returns without a failure. -/
def act (base : Location) (s : Session) : Act → Session
  | .write separator a =>
    let step := s.writer.write s.tree base a separator
    let reported :=
      match step.result with
      | .ok () => s.reported ++ [(separator, a)]
      | .error _ => s.reported
    ⟨step.writer, step.tree, reported⟩
  | .close =>
    let (writer, tree, _) := s.writer.close s.tree
    { s with writer, tree }

def acts (base : Location) (s : Session) (list : List Act) : Session := list.foldl (act base) s

/-- The blocks of what was reported. -/
def blocks (s : Session) : List Text := s.reported.map fun item => blockText item.1 item.2

/-- Nothing that was reported is lost: all of its blocks are in the file, in order. -/
def KeepsReported (s : Session) (base : Location) (path : Path) : Prop :=
  s.reported ≠ [] → ∃ bytes, s.tree.read base path = .ok bytes ∧ StandIn s.blocks bytes

/-- Some write of the list finds the writer closed, with something reported before. -/
def Reopens (s : Session) (base : Location) (list : List Act) : Prop :=
  ∃ done separator a more, list = done ++ .write separator a :: more ∧
    (s.acts base done).writer.handle = none ∧ (s.acts base done).reported ≠ []

variable {s : Session} {base location : Location} {before : FileTree} {bytes : Bytes}

theorem acts_concat (s : Session) (base : Location) (list : List Act) (a : Act) :
    s.acts base (list ++ [a]) = (s.acts base list).act base a := by
  simp [acts]

/-! ## States -/

/-- A writer that has not opened its file yet. -/
structure Unopened (s : Session) (before : FileTree) : Prop where
  closed : s.writer.handle = none
  tree : s.tree = before
  reported : s.reported = []

/-- A writer that has opened its file, which now holds `bytes`. If it is open, it is at the end. -/
structure Opened (s : Session) (base : Location) (before : FileTree) (location : Location)
    (bytes : Bytes) : Prop where
  opened : before.openForWriting base s.writer.path s.writer.overwrite =
    .ok (location, before.put location (.file (.bytes [])))
  changes : ChangesOnly location before s.tree
  file : s.tree.node? location = some (.file (.bytes bytes))
  handle : ∀ handle ∈ s.writer.handle, handle.location = location ∧ handle.offset = bytes.length

/-- A writer in one of the two states. -/
def Regular (s : Session) (base : Location) (before : FileTree) : Prop :=
  s.Unopened before ∨ ∃ location bytes, s.Opened base before location bytes

/-- The blocks of what was reported stand in the file that was opened. -/
def HoldsBlocks (s : Session) (base : Location) (before : FileTree) : Prop :=
  ∀ location bytes, s.Opened base before location bytes → StandIn s.blocks bytes

theorem Opened.sameInner (h : s.Opened base before location bytes) : before.SameInner s.tree :=
  h.changes.sameInner h.opened ⟨bytes, h.file⟩

theorem Opened.read (h : s.Opened base before location bytes) :
    s.tree.read base s.writer.path = .ok bytes :=
  read_opened h.sameInner h.opened h.file

theorem Opened.keepsReported (h : s.Opened base before location bytes)
    (hstand : StandIn s.blocks bytes) : s.KeepsReported base s.writer.path :=
  fun _ => ⟨bytes, h.read, hstand⟩

theorem Opened.opensAgain (h : s.Opened base before location bytes)
    (hoverwrite : s.writer.overwrite = true) :
    s.tree.openForWriting base s.writer.path s.writer.overwrite =
      .ok (location, s.tree.put location (.file (.bytes []))) :=
  have honly : s.writer.overwrite = false → OnlyCreates (fun _ => True) s.tree before := by
    simp [hoverwrite]
  openForWriting_before h.sameInner.symm honly h.opened

theorem Opened.overwrites (h : s.Opened base before location bytes) {l : Location}
    {opened : FileTree}
    (hopen : s.tree.openForWriting base s.writer.path s.writer.overwrite = .ok (l, opened)) :
    s.writer.overwrite = true := by
  by_contra hexclusive
  rw [Bool.not_eq_true] at hexclusive
  have hopened := h.opened
  rw [hexclusive] at hopen hopened
  -- a place that is free now was free before, so both openings lead to the same place
  have hcreated : OnlyCreates (fun _ => True) before s.tree := by
    intro l'
    by_cases hl : l' = location
    · subst hl
      exact .inr ⟨(openForWriting_exclusive hopened).2.node?, trivial, bytes, h.file⟩
    · exact .inl (h.changes l' hl)
  have hfree := (openForWriting_exclusive hopen).2
  have hbefore := hcreated.isFreeAt hfree
  rw [IsFreeAt, (openForWriting_exclusive hopened).2] at hbefore
  injection hbefore with hbefore
  injection hbefore with hlocation
  have hnone := hfree.node?
  rw [← hlocation, h.file] at hnone
  simp at hnone

/-! ## Acts -/

/-- Where a write goes on: behind what an open writer has written, or at the start of a file that
was just opened. -/
inductive GoesOn (s : Session) (base : Location) (before : FileTree) (location : Location) :
    Bytes → Bytes → Prop
  | going {bytes lead : Bytes} (hhandle : s.writer.handle ≠ none)
      (h : s.Opened base before location bytes) : GoesOn s base before location bytes lead
  | opening (hclosed : s.writer.handle = none)
      (hagain : s.Unopened before ∨ s.writer.overwrite = true) : GoesOn s base before location [] []

/-- A write is refused, breaks off or is reported. -/
inductive Turn (s : Session) (base : Location) (before : FileTree) (separator : Text)
    (a : Analysis) : Session → Prop
  | refused {error : FileError} (hopen : s.tree.openForWriting base s.writer.path
      s.writer.overwrite = .error error) : Turn s base before separator a s
  | broken {s' : Session} {location : Location} {old lead : Bytes}
      (hold : s.GoesOn base before location old lead) (h : s'.Opened base before location old)
      (hreported : s'.reported = s.reported) : Turn s base before separator a s'
  | reported {s' : Session} {location : Location} {old lead : Bytes}
      (hold : s.GoesOn base before location old lead)
      (h : s'.Opened base before location (old ++ lead ++ bytesOf (blockText separator a)))
      (hencodable : isEncodable (blockText separator a) = true)
      (hreported : s'.reported = s.reported ++ [(separator, a)]) :
    Turn s base before separator a s'

theorem goesOn_of_begins (hstate : s.Regular base before) {handle : Handle} {lead : Text}
    {started : FileTree} (hbegins : s.writer.Begins s.tree base handle lead started) :
    ∃ old, s.GoesOn base before handle.location old (handle.pending ++ bytesOf lead) ∧
      (⟨{ s.writer with handle := some handle }, started, s.reported⟩ : Session).Opened base before
        handle.location old := by
  cases hbegins with
  | @opening l _ hclosed hopen =>
    have hagain : s.Unopened before ∨ s.writer.overwrite = true :=
      hstate.imp id fun ⟨_, _, h⟩ => h.overwrites hopen
    have hnode := node?_opened hopen
    have hfile : started.node? l = some (.file (.bytes [])) := by rw [hnode, if_pos rfl]
    obtain ⟨hopened, hchanges⟩ : before.openForWriting base s.writer.path s.writer.overwrite =
        .ok (l, before.put l (.file (.bytes []))) ∧ ChangesOnly l before started := by
      rcases hstate with h | ⟨location, bytes, h⟩
      · rw [h.tree] at hopen hnode
        obtain ⟨rfl, -⟩ := openForWriting_eq_ok hopen
        exact ⟨hopen, fun l' hl' => by rw [hnode, if_neg hl']⟩
      · -- opened a second time, the file is where it was the first time
        rw [h.opensAgain (h.overwrites hopen)] at hopen
        injection hopen with hopen
        injection hopen with hlocation _
        subst hlocation
        exact ⟨h.opened, h.changes.trans fun l' hl' => by rw [hnode, if_neg hl']⟩
    refine ⟨[], .opening hclosed hagain, hopened, hchanges, hfile, ?_⟩
    rintro handle' ⟨⟩
    exact ⟨rfl, rfl⟩
  | going hhandle =>
    rcases hstate with h | ⟨location, bytes, h⟩
    · simp [h.closed] at hhandle
    · obtain ⟨rfl, hoffset⟩ := h.handle handle hhandle
      refine ⟨bytes, .going (by simp [hhandle]) h, h.opened, h.changes, h.file, ?_⟩
      rintro handle' ⟨⟩
      exact ⟨rfl, hoffset⟩

theorem act_write_turn (hstate : s.Regular base before) (separator : Text) (a : Analysis) :
    s.Turn base before separator a (s.act base (.write separator a)) := by
  have houtcome := write_outcome s.writer s.tree base a separator
  unfold act
  dsimp only
  generalize s.writer.write s.tree base a separator = step at houtcome ⊢
  cases houtcome with
  | refused hclosed hopen => exact .refused hopen
  | broken hbegins _ =>
    obtain ⟨old, hold, h⟩ := goesOn_of_begins hstate hbegins
    obtain ⟨-, hoffset⟩ := h.handle _ rfl
    refine .broken hold ⟨h.opened, h.changes, h.file, ?_⟩ rfl
    rintro handle' ⟨⟩
    exact ⟨rfl, hoffset⟩
  | done hbegins hencodable hbytes =>
    obtain ⟨old, hold, h⟩ := goesOn_of_begins hstate hbegins
    obtain ⟨-, hoffset⟩ := h.handle _ rfl
    refine .reported hold ⟨h.opened, ?_, ?_, ?_⟩ hencodable rfl
    · exact h.changes.trans fun l hl => node?_writeAt_of_ne hl _ _ _
    · rw [hoffset, node?_writeAt_end h.file, hbytes, bytesOf_append]
      simp only [List.append_assoc]
    · rintro handle' ⟨⟩
      refine ⟨rfl, ?_⟩
      rw [hoffset, hbytes, bytesOf_append]
      simp only [List.length_append]
      omega

theorem Opened.unique (h : s.Opened base before location bytes) {location' : Location}
    {bytes' : Bytes} (h' : s.Opened base before location' bytes') :
    location = location' ∧ bytes = bytes' := by
  have hopened := h.opened.symm.trans h'.opened
  injection hopened with hopened
  injection hopened with hlocation _
  subst hlocation
  have hfile := h.file.symm.trans h'.file
  injection hfile with hfile
  injection hfile with hcontent
  injection hcontent with hbytes
  exact ⟨rfl, hbytes⟩

theorem act_close_of_closed (hclosed : s.writer.handle = none) (base : Location) :
    s.act base .close = s := by
  simp only [act, Writer.close, hclosed]

theorem Unopened.close (h : s.Unopened before) : (s.act base .close).Unopened before := by
  rw [act_close_of_closed h.closed]
  exact h

theorem Opened.close (h : s.Opened base before location bytes) :
    ∃ more, (s.act base .close).Opened base before location (bytes ++ more) := by
  cases hhandle : s.writer.handle with
  | none =>
    rw [act_close_of_closed hhandle]
    exact ⟨[], by simpa using h⟩
  | some handle =>
    obtain ⟨rfl, hoffset⟩ := h.handle handle hhandle
    have htree : (s.act base .close).tree =
        s.tree.writeAt handle.location handle.offset handle.pending := close_of_handle hhandle
    have hwriter : (s.act base .close).writer = { s.writer with handle := none } := by
      simp only [act, Writer.close, hhandle]
    refine ⟨handle.pending, ?_, ?_, ?_, ?_⟩
    · rw [hwriter]
      exact h.opened
    · rw [htree]
      exact h.changes.trans fun l hl => node?_writeAt_of_ne hl _ _ _
    · rw [htree, hoffset]
      exact node?_writeAt_end h.file _
    · simp [hwriter]

theorem act_regular (h : s.Regular base before) (a : Act) : (s.act base a).Regular base before := by
  cases a with
  | close =>
    rcases h with hunopened | ⟨location, bytes, hopened⟩
    · exact .inl hunopened.close
    · obtain ⟨more, hmore⟩ := hopened.close
      exact .inr ⟨location, _, hmore⟩
  | write separator a =>
    have hturn := act_write_turn h separator a
    generalize s.act base (.write separator a) = s' at hturn ⊢
    cases hturn with
    | refused _ => exact h
    | broken _ h' _ => exact .inr ⟨_, _, h'⟩
    | reported _ h' _ _ => exact .inr ⟨_, _, h'⟩

theorem act_target (s : Session) (base : Location) (a : Act) :
    (s.act base a).writer.path = s.writer.path ∧
      (s.act base a).writer.overwrite = s.writer.overwrite := by
  cases a with
  | close =>
    cases hhandle : s.writer.handle <;> simp only [act, Writer.close, hhandle, and_self]
  | write separator a =>
    have houtcome := write_outcome s.writer s.tree base a separator
    simp only [act]
    generalize s.writer.write s.tree base a separator = step at houtcome ⊢
    cases houtcome <;> exact ⟨rfl, rfl⟩

theorem act_written (h : s.writer.written = s.reported.length) (a : Act) :
    (s.act base a).writer.written = (s.act base a).reported.length := by
  cases a with
  | close => exact (close_written _ _).trans h
  | write separator a =>
    have houtcome := write_outcome s.writer s.tree base a separator
    simp only [act]
    generalize s.writer.write s.tree base a separator = step at houtcome ⊢
    cases houtcome with
    | refused _ _ => exact h
    | broken _ _ => exact h
    | done _ _ _ =>
      rw [List.length_append, ← h]
      rfl

theorem bytesOf_blocks_ne_nil (h : s.reported ≠ []) : bytesOf s.blocks.flatten ≠ [] := by
  obtain ⟨item, rest, hreported⟩ := List.exists_cons_of_ne_nil h
  refine bytesOf_ne_nil ?_
  rw [blocks, hreported, List.map_cons, List.flatten_cons]
  simp [blockText_ne_nil]

/-- A write that goes on where nothing is lost finds all blocks before it. -/
theorem GoesOn.standIn {old lead : Bytes} (h : s.GoesOn base before location old lead)
    (hholds : s.HoldsBlocks base before)
    (hkept : s.writer.handle = none → s.writer.overwrite = true → s.reported = []) :
    StandIn s.blocks old := by
  cases h with
  | going _ h => exact hholds _ _ h
  | opening hclosed hagain =>
    have hreported : s.reported = [] := hagain.elim Unopened.reported (hkept hclosed)
    rw [blocks, hreported]
    trivial

theorem HoldsBlocks.close (h : s.HoldsBlocks base before) (hstate : s.Regular base before) :
    (s.act base .close).HoldsBlocks base before := by
  intro location bytes hclosed
  rcases hstate with hunopened | ⟨location', bytes', hopened⟩
  · rw [blocks, hunopened.close.reported]
    trivial
  · obtain ⟨more, hmore⟩ := hopened.close
    obtain ⟨-, rfl⟩ := hmore.unique hclosed
    exact (h _ _ hopened).append more

theorem HoldsBlocks.write (h : s.HoldsBlocks base before) (hstate : s.Regular base before)
    (hkept : s.writer.handle = none → s.writer.overwrite = true → s.reported = [])
    (separator : Text) (a : Analysis) :
    (s.act base (.write separator a)).HoldsBlocks base before := by
  have hturn := act_write_turn hstate separator a
  generalize s.act base (.write separator a) = s' at hturn ⊢
  intro location bytes hopened
  cases hturn with
  | refused _ => exact h _ _ hopened
  | broken hold h' hsame =>
    obtain ⟨-, rfl⟩ := h'.unique hopened
    rw [blocks, hsame]
    exact hold.standIn h hkept
  | reported hold h' hencodable hone =>
    obtain ⟨-, rfl⟩ := h'.unique hopened
    rw [blocks, hone, List.map_append]
    exact ((hold.standIn h hkept).append _).concat hencodable

/-- A writer that overwrites loses everything when it opens its file again. -/
theorem Opened.loses (h : s.Opened base before location bytes) (hclosed : s.writer.handle = none)
    (hoverwrite : s.writer.overwrite = true) (hreported : s.reported ≠ []) (separator : Text)
    (a : Analysis) : ¬(s.act base (.write separator a)).KeepsReported base s.writer.path := by
  rw [← (act_target s base (.write separator a)).1]
  have hturn := act_write_turn (.inr ⟨_, _, h⟩) separator a
  generalize s.act base (.write separator a) = s' at hturn ⊢
  -- the file holds what is reported from now on and nothing else, which leaves no room for the rest
  suffices ∃ more, s'.reported = s.reported ++ more ∧ ∃ location,
      s'.Opened base before location
        (bytesOf (more.map fun item => blockText item.1 item.2).flatten) by
    obtain ⟨more, hmore, location', h'⟩ := this
    intro hkeeps
    obtain ⟨bytes', hread, hstand⟩ := hkeeps (by simp [hmore, hreported])
    obtain rfl : bytesOf _ = bytes' := by simpa using h'.read.symm.trans hread
    rw [blocks, hmore, List.map_append] at hstand
    exact bytesOf_blocks_ne_nil hreported hstand.eq_nil
  cases hturn with
  | refused hopen => simp [h.opensAgain hoverwrite] at hopen
  | broken hold h' hsame =>
    cases hold with
    | going hhandle _ => exact absurd hclosed hhandle
    | opening _ _ => exact ⟨[], by simpa using hsame, _, h'⟩
  | reported hold h' _ hone =>
    cases hold with
    | going hhandle _ => exact absurd hclosed hhandle
    | opening _ _ => exact ⟨_, hone, _, by simpa using h'⟩

/-! ## Runs -/

variable {list : List Act}

theorem acts_induction {P : Session → Prop} (hstart : P s)
    (hact : ∀ s a, P s → P (s.act base a)) (list : List Act) : P (s.acts base list) :=
  List.foldlRecOn list (act base) hstart fun s h a _ => hact s a h

theorem acts_target (s : Session) (base : Location) (list : List Act) :
    (s.acts base list).writer.path = s.writer.path ∧
      (s.acts base list).writer.overwrite = s.writer.overwrite :=
  acts_induction
    (P := fun s' => s'.writer.path = s.writer.path ∧ s'.writer.overwrite = s.writer.overwrite)
    ⟨rfl, rfl⟩
    (fun s' a h => ⟨(act_target s' base a).1.trans h.1, (act_target s' base a).2.trans h.2⟩) list

theorem acts_written (h : s.writer.written = s.reported.length) (list : List Act) :
    (s.acts base list).writer.written = (s.acts base list).reported.length :=
  acts_induction (P := fun s' => s'.writer.written = s'.reported.length) h
    (fun _ a h => act_written h a) list

theorem acts_regular (h : s.Unopened before) (base : Location) (list : List Act) :
    (s.acts base list).Regular base before :=
  acts_induction (P := fun s' => s'.Regular base before) (.inl h)
    (fun _ a h => act_regular h a) list

theorem Reopens.append {done : List Act} (h : s.Reopens base done) (more : List Act) :
    s.Reopens base (done ++ more) := by
  obtain ⟨first, separator, a, rest, rfl, hclosed, hreported⟩ := h
  exact ⟨first, separator, a, rest ++ more, by simp, hclosed, hreported⟩

/-- As long as no writer that overwrites opens its file again, all reported blocks are there. -/
theorem acts_holdsBlocks (h : s.Unopened before)
    (hkept : s.writer.overwrite = true → ¬s.Reopens base list) :
    (s.acts base list).HoldsBlocks base before := by
  -- by the last act, since it is what came before a write that tells whether it reopens the file
  induction list using List.reverseRecOn with
  | nil =>
    intro location bytes _
    rw [acts, List.foldl_nil, blocks, h.reported]
    trivial
  | append_singleton list a ih =>
    have hholds := ih fun hoverwrite hreopens => hkept hoverwrite (hreopens.append [a])
    have hstate := acts_regular h base list
    rw [acts_concat]
    cases a with
    | close => exact hholds.close hstate
    | write separator a =>
      refine hholds.write hstate (fun hclosed hoverwrite => ?_) separator a
      rw [(acts_target s base list).2] at hoverwrite
      by_contra hreported
      exact hkept hoverwrite ⟨list, separator, a, [], rfl, hclosed, hreported⟩

theorem acts_keepsReported (h : s.Unopened before)
    (hkept : s.writer.overwrite = true → ¬s.Reopens base list) :
    (s.acts base list).KeepsReported base s.writer.path := by
  rw [← (acts_target s base list).1]
  rcases acts_regular h base list with hunopened | ⟨location, bytes, hopened⟩
  · exact fun hreported => absurd hunopened.reported hreported
  · exact hopened.keepsReported (acts_holdsBlocks h hkept location bytes hopened)

theorem not_acts_keepsReported (h : s.Unopened before) (hoverwrite : s.writer.overwrite = true)
    (hreopens : s.Reopens base list) :
    ∃ done more, list = done ++ more ∧ ¬(s.acts base done).KeepsReported base s.writer.path := by
  obtain ⟨done, separator, a, more, rfl, hclosed, hreported⟩ := hreopens
  refine ⟨done ++ [.write separator a], more, by simp, ?_⟩
  obtain ⟨hpath, hsame⟩ := acts_target s base done
  rw [acts_concat, ← hpath]
  rcases acts_regular h base done with hunopened | ⟨location, bytes, hopened⟩
  · exact absurd hunopened.reported hreported
  · exact hopened.loses hclosed (hsame.trans hoverwrite) hreported separator a

/-- Through all acts the count of a writer is how many writes it has reported. Their blocks are in
the file as long as the writer does not overwrite, or does not write again once it has been closed
with something reported. -/
theorem acts_keepsReported_iff (path : Path) (overwrite : Bool) (tree : FileTree) (base : Location)
    (list : List Act) :
    (∀ done more, list = done ++ more →
      ((start path overwrite tree).acts base done).writer.written =
        ((start path overwrite tree).acts base done).reported.length) ∧
    ((∀ done more, list = done ++ more →
      ((start path overwrite tree).acts base done).KeepsReported base path) ↔
        overwrite = false ∨ ¬(start path overwrite tree).Reopens base list) := by
  have hstart : (start path overwrite tree).Unopened tree := ⟨rfl, rfl, rfl⟩
  refine ⟨fun done _ _ => acts_written rfl done, ⟨fun hkeeps => ?_, fun hkept => ?_⟩⟩
  · by_contra hlost
    obtain ⟨hoverwrite, hreopens⟩ := not_or.1 hlost
    obtain ⟨done, more, hsplit, hloses⟩ := not_acts_keepsReported hstart
      (by simpa [start, new] using hoverwrite) (not_not.1 hreopens)
    exact hloses (hkeeps done more hsplit)
  · rintro done more rfl
    refine acts_keepsReported hstart fun hoverwrite hreopens => ?_
    rcases hkept with hexclusive | hnever
    · exact absurd (hexclusive.symm.trans hoverwrite) (by simp)
    · exact hnever (hreopens.append more)

/-! ## A writer that is closed too early -/

/-- A write that opens the file leaves it with its own block alone. -/
theorem act_write_of_opens {opened : FileTree} (hclosed : s.writer.handle = none)
    (hopen : s.tree.openForWriting base s.writer.path s.writer.overwrite = .ok (location, opened))
    {separator : Text} {a : Analysis} (h : isEncodable (blockText separator a) = true) :
    ∃ tree, s.act base (.write separator a) =
        ⟨⟨s.writer.path, s.writer.overwrite, s.writer.written + 1,
            some ⟨location, (bytesOf (blockText separator a)).length, []⟩⟩,
          tree, s.reported ++ [(separator, a)]⟩ ∧
      tree.node? location = some (.file (.bytes (bytesOf (blockText separator a)))) := by
  have hready : s.writer.ready s.tree base = .ok (⟨location, 0, []⟩, [], opened) := by
    rw [ready, hclosed, hopen]
  have hbytes : addPieces [] ([] ++ blockPieces separator a) =
      (bytesOf (blockText separator a), none) := addPieces_of_isEncodable h []
  have hfile : opened.node? location = some (.file (.bytes [])) := by
    rw [node?_opened hopen, if_pos rfl]
  refine ⟨opened.writeAt location 0 (bytesOf (blockText separator a)), ?_,
    node?_writeAt_end hfile _⟩
  simp only [act, write, hready, hbytes, Handle.flush, Nat.zero_add]

theorem acts_closed_early {path : Path} (tree : FileTree) {a b : Analysis}
    (hstraight : ∀ tree : FileTree, tree.IsStraight base path location)
    (hfree : tree.node? location = none) (ha : isEncodable (blockText [] a) = true)
    (hb : isEncodable (blockText [] b) = true) :
    let s := (start path true tree).acts base [.write [] a, .close, .write [] b]
    s.writer.written = 2 ∧ s.reported = [([], a), ([], b)] ∧
      s.tree.node? location = some (.file (.bytes (bytesOf (blockText [] b)))) := by
  obtain ⟨first, hfirst, hfile⟩ := act_write_of_opens (s := start path true tree) rfl
    ((hstraight tree).open_free hfree true) ha
  -- closing leaves the first block in the file, so the second write finds it there
  have hclosed := node?_writeAt_end hfile []
  obtain ⟨last, hlast, hdone⟩ := act_write_of_opens
    (s := ⟨⟨path, true, 1, none⟩, first.writeAt location _ [], [([], a)]⟩) rfl
    ((hstraight _).open_over (.inr ⟨_, hclosed⟩)) hb
  have hended : (start path true tree).acts base [.write [] a, .close, .write [] b] = _ :=
    (congrArg (fun s => acts base s [.close, .write [] b]) hfirst).trans hlast
  rw [hended]
  exact ⟨rfl, rfl, hdone⟩

def earlyTarget : Path := ⟨.relative, ["a.out.c"]⟩

def earlyActs : List Act :=
  [.write [] ⟨0, "x", ⟨"d", "f", [], []⟩, ⟨"x", 0, []⟩⟩, .close,
    .write [] ⟨1, "y", ⟨"d", "g", [], []⟩, ⟨"y", 0, []⟩⟩]

def earlySession : Session := (start earlyTarget true .empty).acts [] earlyActs

/-- Two writes are reported, and the file has the block of the second one only. -/
theorem reopened_loses_first :
    earlySession.writer.written = 2 ∧ earlySession.reported.length = 2 ∧
      earlySession.tree.read [] earlyTarget =
        .ok (bytesOf "/*\n * g()\n *\n * d\n */\n\ny") ∧
      ¬earlySession.KeepsReported [] earlyTarget := by
  have htarget : ∀ tree : FileTree, tree.IsStraight [] earlyTarget ["a.out.c"] :=
    isStraight_here (by decide)
  obtain ⟨hwritten, hreported, hfile⟩ := acts_closed_early .empty htarget rfl
    (a := ⟨0, "x", ⟨"d", "f", [], []⟩, ⟨"x", 0, []⟩⟩)
    (b := ⟨1, "y", ⟨"d", "g", [], []⟩, ⟨"y", 0, []⟩⟩) (by decide +kernel) (by decide +kernel)
  change earlySession.reported = _ at hreported
  have hread : earlySession.tree.read [] earlyTarget =
      .ok (bytesOf "/*\n * g()\n *\n * d\n */\n\ny") :=
    ((htarget _).read hfile).trans (by decide +kernel)
  refine ⟨hwritten, congrArg List.length hreported, hread, fun hkeeps => ?_⟩
  obtain ⟨bytes, hbytes, hstand⟩ := hkeeps (by simp [hreported])
  obtain rfl := Except.ok.inj (hread.symm.trans hbytes)
  rw [blocks, hreported] at hstand
  exact absurd hstand.length_le (by decide +kernel)

end Session

end Nomenclator
