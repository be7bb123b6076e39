import Mathlib.Data.List.Forall2
import SshConfig.Event.Writer
import SshConfig.Proofs.Event.Line
import SshConfig.Proofs.Files.FileTree
import SshConfig.Proofs.Text.Pieces
import SshConfig.Proofs.Text.Utf8
/-!
# Writer — what is written is what was emitted

A writer is opened, given events and closed, by single calls and by blocks that open it first and close it last whatever
happens inside (`Writer.Step`).  What the target holds is an invariant of these calls (`Writer.Holds`): an emission that
returns adds the line of its event, and no other call changes it (`Writer.Holds.make`).  So after any steps the target
holds one line for each emission that returned, in order, and each line is read as its event
(`Writer.lines_are_emissions`).
-/
namespace SshConfig

/-- **Nothing is in the file yet**: it is absent or empty.  A path through a directory that is still missing may lead to
a file that is there, so it is read once the directory of the path has been made. -/
def FileTree.IsFresh (t : FileTree) (p : FilePath) : Prop :=
  ∀ t', t.makeParent p = .ok t' → ∀ bs, t'.read p = .ok bs → bs = []

/-- **Nothing is in the target yet.** -/
def Recorder.IsFresh (r : Recorder) : Target → Prop
  | .stream => r.stream = []
  | .file path => r.tree.IsFresh (FilePath.ofText path)

namespace Writer

/-! ## Calls and blocks -/

/-- A call of a writer. -/
inductive Call where
  /-- Opens the writer. -/
  | start
  /-- Emits an event. -/
  | emit (e : { e : Event // e.IsRecord })
  /-- Closes the writer. -/
  | stop

/-- What a call does with the recorder's writer. -/
def Call.act : Call → Recording Unit
  | start => Recording.openOwn
  | emit e => do
    match (← get).writer with
    | some w => Recording.write w e
    | none => throw .missingPart
  | stop => Recording.closeOwn

/-- A call that was made: what it ended in, and what recorded events before and after it. -/
structure Made where
  call : Call
  before : Recorder
  result : Except Fault Unit
  after : Recorder

/-- Makes a call. -/
def Call.make (c : Call) (r : Recorder) : Made :=
  ⟨c, r, (c.act.run.run r).1, (c.act.run.run r).2⟩

/-- The calls that were made one after the other, and what they ended in. -/
structure Passage where
  made : List Made
  result : Except Fault Unit
  after : Recorder

/-- One call. -/
def Passage.of (m : Made) : Passage :=
  ⟨[m], m.result, m.after⟩

/-- Goes on with `next`, unless the calls ended in a fault. -/
def Passage.andThen (p : Passage) (next : Recorder → Passage) : Passage :=
  match p.result with
  | .error _ => p
  | .ok _ => ⟨p.made ++ (next p.after).made, (next p.after).result, (next p.after).after⟩

/-- Makes one more call, whatever the calls ended in. -/
def Passage.finally (p : Passage) (c : Call) : Passage :=
  ⟨p.made ++ [c.make p.after], p.result, (c.make p.after).after⟩

/-- A step of a program that has a writer. -/
inductive Step where
  | call (c : Call)
  /-- Opens the writer, takes steps up to the first fault, and closes the writer again. -/
  | block (body : List Step)

mutual

/-- The calls of a step. -/
def Step.run : Step → Recorder → Passage
  | .call c, r => .of (c.make r)
  | .block body, r => (Passage.of (Call.start.make r)).andThen fun r => (runBody body r).finally .stop

/-- The calls of the steps up to the first fault. -/
def runBody : List Step → Recorder → Passage
  | [], r => ⟨[], .ok (), r⟩
  | s :: ss, r => (s.run r).andThen (runBody ss)

end

/-- The calls of steps one after the other; a fault ends its own step only. -/
def runAll : List Step → Recorder → List Made × Recorder
  | [], r => ([], r)
  | s :: ss, r => ((s.run r).made ++ (runAll ss (s.run r).after).1, (runAll ss (s.run r).after).2)

/-- The events whose emission returned. -/
def returned (made : List Made) : List Event :=
  made.filterMap fun m =>
    match m.call, m.result with
    | .emit e, .ok _ => some e.1
    | _, _ => none

/-! ## One call after the other -/

/-- **The calls follow one another**: each finds what the one before it left. -/
inductive Chain : Recorder → List Made → Recorder → Prop where
  | nil (r : Recorder) : Chain r [] r
  | cons (c : Call) {r r' : Recorder} {made : List Made} (h : Chain (c.make r).after made r') :
      Chain r (c.make r :: made) r'

theorem Chain.append {r r' r'' : Recorder} {made later : List Made} (h : Chain r made r') (h' : Chain r' later r'') :
    Chain r (made ++ later) r'' := by
  induction h with
  | nil r => exact h'
  | cons c h ih => exact .cons c (ih h')

theorem Passage.chain_andThen {p : Passage} {next : Recorder → Passage} {r : Recorder} (hp : Chain r p.made p.after)
    (hnext : ∀ r, Chain r (next r).made (next r).after) : Chain r (p.andThen next).made (p.andThen next).after := by
  unfold andThen
  split
  · exact hp
  · exact hp.append (hnext p.after)

theorem Passage.chain_finally {p : Passage} {r : Recorder} (hp : Chain r p.made p.after) (c : Call) :
    Chain r (p.finally c).made (p.finally c).after :=
  hp.append (.cons c (.nil _))

mutual

theorem Step.chain_run : ∀ (s : Step) (r : Recorder), Chain r (s.run r).made (s.run r).after
  | .call c, r => .cons c (.nil _)
  | .block body, r => by
    rw [Step.run]
    exact Passage.chain_andThen (.cons .start (.nil _)) fun r => Passage.chain_finally (chain_runBody body r) .stop

theorem chain_runBody : ∀ (ss : List Step) (r : Recorder), Chain r (runBody ss r).made (runBody ss r).after
  | [], r => .nil r
  | s :: ss, r => by
    rw [runBody]
    exact Passage.chain_andThen (s.chain_run r) (chain_runBody ss)

end

/-- **The calls of steps follow one another.** -/
theorem chain_runAll : ∀ (ss : List Step) (r : Recorder), Chain r (runAll ss r).1 (runAll ss r).2
  | [], r => .nil r
  | s :: ss, r => (s.chain_run r).append (chain_runAll ss _)

/-! ## What the target holds -/

/-- **The file at the path holds the text**, or nothing has been written yet. -/
def Kept (t : FileTree) (p : FilePath) (isOpen : Bool) (content : Text) : Prop :=
  t.read p = .ok (Text.encode content) ∨ isOpen = false ∧ content = [] ∧ t.IsFresh p

/-- The target holds the text. -/
def TargetKept (r : Recorder) (isOpen : Bool) (content : Text) : Target → Prop
  | .stream => isOpen = true ∧ r.stream = content
  | .file path => Kept r.tree (FilePath.ofText path) isOpen content

/-- **The writer is on the target, which holds the text.** -/
structure Holds (r : Recorder) (target : Target) (isOpen : Bool) (content : Text) : Prop where
  writer : r.writer = some ⟨target, isOpen⟩
  kept : TargetKept r isOpen content target

theorem makeParent_of_read {t : FileTree} {path : Text} {bs : List UInt8}
    (h : t.read (FilePath.ofText path) = .ok bs) : t.makeParent (FilePath.ofText path) = .ok t :=
  FileTree.makeParent_of_hasDirectory (FileTree.hasDirectory_of_read (fun _ => FilePath.ne_nil_of_mem_ofText) h)

/-- **The text of the target is the text that it holds.** -/
theorem Holds.targetText {r : Recorder} {target : Target} {isOpen : Bool} {content : Text}
    (h : Holds r target isOpen content) : Recording.targetText r target = content := by
  obtain ⟨-, hkept⟩ := h
  cases target with
  | stream => exact hkept.2
  | file path =>
    obtain hread | ⟨-, rfl, hfresh⟩ := hkept
    · simp only [Recording.targetText, hread]
      exact Text.decode_encode content
    · cases hread : r.tree.read (FilePath.ofText path) with
      | error cause => simp only [Recording.targetText, hread]
      | ok bs =>
        simp only [Recording.targetText, hread, hfresh r.tree (makeParent_of_read hread) bs hread]
        exact Text.decode_encode []

theorem Kept.of_makeParent {t t' : FileTree} {path content : Text}
    (h : Kept t (FilePath.ofText path) false content) (hmake : t.makeParent (FilePath.ofText path) = .ok t') :
    Kept t' (FilePath.ofText path) false content := by
  obtain hread | ⟨-, rfl, hfresh⟩ := h
  · rw [makeParent_of_read hread, Except.ok.injEq] at hmake
    exact .inl (hmake ▸ hread)
  · have hagain := FileTree.makeParent_of_hasDirectory (FileTree.hasDirectory_of_makeParent hmake)
    refine .inr ⟨rfl, rfl, fun t'' hmake' bs hread => ?_⟩
    rw [hagain, Except.ok.injEq] at hmake'
    exact hfresh t' hmake bs (hmake' ▸ hread)

/-! ## What a call does -/

section
variable {α β : Type} (r r' : Recorder)

theorem get_bind_run (f : Recorder → Recording β) : (get >>= f).run.run r = (f r).run.run r := rfl

theorem set_bind_run (f : PUnit → Recording β) : (set r' >>= f).run.run r = (f ⟨⟩).run.run r' := rfl

theorem throw_run (fault : Fault) : (throw fault : Recording α).run.run r = (.error fault, r) := rfl

theorem bind_run (x : Recording α) (f : α → Recording β) : (x >>= f).run.run r =
    match x.run.run r with
    | (.ok a, r') => (f a).run.run r'
    | (.error fault, r') => (.error fault, r') := by
  unfold ExceptT.run StateT.run
  simp only [bind, ExceptT.bind, ExceptT.mk, StateT.bind, ExceptT.bindCont]
  rcases x r with ⟨result, r'⟩
  cases result <;> rfl

end

/-- What making a file ready comes to. -/
theorem prepare_run (path : Text) (r : Recorder) : (Recording.prepare path).run.run r =
    match r.tree.makeParent (FilePath.ofText path) with
    | .error fault => (.error (.os fault), r)
    | .ok t =>
      match t.read (FilePath.ofText path) with
      | .ok _ => (.ok (), { r with tree := t })
      | .error .notFound =>
        match t.write (FilePath.ofText path) (FileTree.file []) with
        | .ok t' => (.ok (), { r with tree := t' })
        | .error fault => (.error (.os fault), { r with tree := t })
      | .error cause => (.error (.os ⟨cause, (FilePath.ofText path).text⟩), { r with tree := t }) := by
  unfold Recording.prepare
  rw [get_bind_run]
  cases hmake : r.tree.makeParent (FilePath.ofText path) with
  | error fault => simp only [hmake, throw_run]
  | ok t =>
    simp only [hmake, set_bind_run]
    cases hread : t.read (FilePath.ofText path) with
    | ok bs => rfl
    | error cause =>
      cases cause with
      | notFound =>
        cases t.write (FilePath.ofText path) (FileTree.file []) <;> rfl
      | _ => rfl

/-- **What opening the writer of a file comes to**: it holds what it did before, and is ready if it ends well. -/
theorem kept_prepare {path content : Text} {r : Recorder} (h : Kept r.tree (FilePath.ofText path) false content) :
    ((Recording.prepare path).run.run r).2.writer = r.writer ∧
      Kept ((Recording.prepare path).run.run r).2.tree (FilePath.ofText path)
        ((Recording.prepare path).run.run r).1.isOk content := by
  cases hmake : r.tree.makeParent (FilePath.ofText path) with
  | error fault =>
    simp only [prepare_run, hmake, true_and]
    exact h
  | ok t =>
    have ht := h.of_makeParent hmake
    cases hread : t.read (FilePath.ofText path) with
    | ok bs =>
      simp only [prepare_run, hmake, hread, true_and]
      obtain hsame | ⟨-, rfl, hfresh⟩ := ht
      · exact .inl hsame
      · rw [hfresh t (makeParent_of_read hread) bs hread] at hread
        exact .inl hread
    | error cause =>
      cases cause with
      | notFound =>
        cases hwrite : t.write (FilePath.ofText path) (FileTree.file []) with
        | error fault =>
          simp only [prepare_run, hmake, hread, hwrite, true_and]
          exact ht
        | ok t' =>
          simp only [prepare_run, hmake, hread, hwrite, true_and]
          obtain hsame | ⟨-, rfl, -⟩ := ht
          · cases hread.symm.trans hsame
          · exact .inl (FileTree.read_of_write hwrite)
      | _ =>
        simp only [prepare_run, hmake, hread, true_and]
        exact ht

theorem openWriter_open (target : Target) : Recording.openWriter ⟨target, true⟩ = pure ⟨target, true⟩ := by
  cases target <;> rfl

theorem openWriter_file (path : Text) : Recording.openWriter ⟨.file path, false⟩ =
    if path.contains (Char.ofNat 0) then throw .nullInPath
    else (Recording.prepare path >>= fun _ => pure ⟨.file path, true⟩) := by
  unfold Recording.openWriter
  split <;> simp_all

theorem openOwn_run {r : Recorder} {w : Writer} (hw : r.writer = some w) : Recording.openOwn.run.run r =
    match (Recording.openWriter w).run.run r with
    | (.ok w', r') => (.ok (), { r' with writer := some w' })
    | (.error fault, r') => (.error fault, r') := by
  unfold Recording.openOwn
  rw [get_bind_run, hw]
  simp only [bind_run]
  rcases (Recording.openWriter w).run.run r with ⟨result, r'⟩
  cases result <;> rfl

section
variable {r : Recorder} {target : Target} {isOpen : Bool} {content : Text} (h : Holds r target isOpen content)
include h

theorem Holds.with_writer : { r with writer := some ⟨target, isOpen⟩ } = r := by
  rw [← h.writer]

/-- **Opening an open writer does nothing.** -/
theorem Holds.start_open (hopen : isOpen = true) : Call.start.make r = ⟨.start, r, .ok (), r⟩ := by
  subst hopen
  have hrun : Recording.openOwn.run.run r = (.ok (), r) := by
    rw [openOwn_run h.writer, openWriter_open]
    exact congrArg (Prod.mk _) h.with_writer
  unfold Call.make
  rw [Call.act, hrun]

/-- **What opening does**: the target holds what it did before, and the writer is open exactly if it ends well. -/
theorem Holds.start : Holds (Call.start.make r).after target (Call.start.make r).result.isOk content := by
  cases isOpen with
  | true =>
    rw [h.start_open rfl]
    exact h
  | false =>
    obtain ⟨hw, hkept⟩ := h
    cases target with
    | stream => cases hkept.1
    | file path =>
      unfold Call.make
      rw [Call.act, openOwn_run hw, openWriter_file]
      by_cases hnull : path.contains (Char.ofNat 0) = true
      · rw [if_pos hnull]
        exact ⟨hw, hkept⟩
      · obtain ⟨hwriter, hprepare⟩ := kept_prepare hkept
        rw [if_neg hnull, bind_run]
        rcases hrun : (Recording.prepare path).run.run r with ⟨result, r'⟩
        rw [hrun] at hwriter hprepare
        cases result with
        | error fault => exact ⟨hwriter.trans hw, hprepare⟩
        | ok u => exact ⟨rfl, hprepare⟩

/-- **What closing does**: the target holds what it did before; the writer of a file is closed, that of a stream stays
as it is. -/
theorem Holds.stop : Holds (Call.stop.make r).after target (target == .stream) content ∧
    (target = .stream → (Call.stop.make r).after = r) := by
  obtain ⟨hw, hkept⟩ := h
  have hafter : (Call.stop.make r).after = { r with writer := some (Recording.closeWriter ⟨target, isOpen⟩) } := by
    rw [← Option.map_some, ← hw]
    rfl
  rw [hafter]
  cases target with
  | stream =>
    obtain ⟨rfl, hstream⟩ := hkept
    exact ⟨⟨rfl, rfl, hstream⟩, fun _ => Holds.with_writer ⟨hw, rfl, hstream⟩⟩
  | file path =>
    refine ⟨⟨rfl, ?_⟩, nofun⟩
    obtain hread | ⟨-, hempty, hfresh⟩ := hkept
    · exact .inl hread
    · exact .inr ⟨rfl, hempty, hfresh⟩

/-- **What is added to an open target is what it holds after that.** -/
theorem Holds.addTo (hopen : isOpen = true) (t : Text) :
    Holds (Recording.addTo r t target) target true (content ++ t) := by
  subst hopen
  obtain ⟨hw, hkept⟩ := h
  cases target with
  | stream => exact ⟨hw, rfl, by rw [← hkept.2]; rfl⟩
  | file path =>
    obtain hread | ⟨hfalse, -, -⟩ := hkept
    · obtain ⟨l, hl, hfree⟩ := FileTree.isFree_of_read hread
      have hadd : Recording.addTo r t (.file path) =
          { r with tree := r.tree.put l (FileTree.file (Text.encode content ++ Text.encode t)) } := by
        simp only [Recording.addTo, hl, hread]
      rw [hadd]
      refine ⟨hw, .inl ?_⟩
      rw [Text.encode_append]
      exact FileTree.read_put hfree hl _
    · cases hfalse

/-- **What an emission does**: it adds the line of its event, if the writer is open and the line can be written, and else
ends in a fault and does nothing. -/
theorem Holds.emit (e : { e : Event // e.IsRecord }) :
    (isOpen = true ∧ e.1.time.isWritable = true ∧ ((Call.emit e).make r).result = .ok () ∧
      Holds ((Call.emit e).make r).after target true (content ++ (e.1.toJson.render ++ ['\n']))) ∨
    ((isOpen = false ∨ e.1.time.isWritable = false) ∧ (∃ fault, ((Call.emit e).make r).result = .error fault) ∧
      ((Call.emit e).make r).after = r) := by
  have hwrite : ((Call.emit e).act.run.run r) = (Recording.write ⟨target, isOpen⟩ e.1).run.run r := by
    rw [Call.act, get_bind_run, h.writer]
  unfold Call.make
  rw [hwrite, Recording.write]
  cases hopen : isOpen with
  | false =>
    rw [if_neg (by simp)]
    exact .inr ⟨.inl rfl, ⟨_, rfl⟩, rfl⟩
  | true =>
    rw [if_pos rfl, e.2.render_eq]
    cases htime : e.1.time.isWritable with
    | false => exact .inr ⟨.inr rfl, ⟨_, rfl⟩, rfl⟩
    | true => exact .inl ⟨rfl, rfl, rfl, h.addTo hopen _⟩

end

/-- **The lines are those of the events**: none holds a line feed, and each is read as its event. -/
def Tells (ls : List Text) (es : List Event) : Prop :=
  (∀ l ∈ ls, '\n' ∉ l) ∧ List.Forall₂ (fun l e => Event.read l = .ok e) ls es

theorem Tells.append {ls ls' : List Text} {es es' : List Event} (h : Tells ls es) (h' : Tells ls' es') :
    Tells (ls ++ ls') (es ++ es') :=
  ⟨fun l hl => (List.mem_append.1 hl).elim (h.1 l) (h'.1 l), List.rel_append h.2 h'.2⟩

theorem tells_nil : Tells [] [] :=
  ⟨nofun, .nil⟩

/-- **What a call adds to the target is told by its emission, if that returned.** -/
theorem Holds.make {r : Recorder} {target : Target} {isOpen : Bool} {content : Text}
    (h : Holds r target isOpen content) (c : Call) :
    ∃ isOpen' ls, Holds (c.make r).after target isOpen' (content ++ ls.flatMap (· ++ ['\n'])) ∧
      Tells ls (returned [c.make r]) := by
  cases c with
  | start => exact ⟨_, [], by simpa using h.start, tells_nil⟩
  | stop => exact ⟨_, [], by simpa using h.stop.1, tells_nil⟩
  | emit e =>
    obtain ⟨-, htime, hresult, hafter⟩ | ⟨-, ⟨fault, hfault⟩, hafter⟩ := h.emit e
    · have hreturned : returned [(Call.emit e).make r] = [e.1] := by
        have hcall : ((Call.emit e).make r).call = .emit e := rfl
        simp [returned, hcall, hresult]
      refine ⟨true, [e.1.toJson.render], by simpa using hafter, ?_⟩
      rw [hreturned]
      exact ⟨fun l hl => List.mem_singleton.1 hl ▸ e.2.not_mem_feed htime, .cons (e.2.read_render htime) .nil⟩
    · have hreturned : returned [(Call.emit e).make r] = [] := by
        have hcall : ((Call.emit e).make r).call = .emit e := rfl
        simp [returned, hcall, hfault]
      refine ⟨isOpen, [], ?_, ?_⟩
      · rw [hafter]
        simpa using h
      · rw [hreturned]
        exact tells_nil

/-- **What calls add to the target is told by the emissions that returned**, by induction on the calls. -/
theorem Holds.chain {r r' : Recorder} {made : List Made} (hchain : Chain r made r') {target : Target} {isOpen : Bool}
    {content : Text} (h : Holds r target isOpen content) :
    ∃ isOpen' ls, Holds r' target isOpen' (content ++ ls.flatMap (· ++ ['\n'])) ∧ Tells ls (returned made) := by
  induction hchain generalizing isOpen content with
  | nil r => exact ⟨isOpen, [], by simpa using h, tells_nil⟩
  | @cons c r r' made hchain ih =>
    obtain ⟨isOpen₁, ls, hafter, htells⟩ := h.make c
    obtain ⟨isOpen₂, ls', hafter', htells'⟩ := ih hafter
    refine ⟨isOpen₂, ls ++ ls', ?_, ?_⟩
    · rw [List.flatMap_append, ← List.append_assoc]
      exact hafter'
    · have hreturned : returned (c.make r :: made) = returned [c.make r] ++ returned made :=
        List.filterMap_append (l := [c.make r])
      rw [hreturned]
      exact htells.append htells'

/-- **Every call finds the target holding some text.** -/
theorem Holds.exists_of_mem {r r' : Recorder} {made : List Made} (hchain : Chain r made r') {target : Target}
    {isOpen : Bool} {content : Text} (h : Holds r target isOpen content) :
    ∀ m ∈ made, m = m.call.make m.before ∧ ∃ isOpen content, Holds m.before target isOpen content := by
  induction hchain generalizing isOpen content with
  | nil r =>
    intro m hm
    cases hm
  | @cons c r r' made hchain ih =>
    obtain ⟨isOpen₁, ls, hafter, -⟩ := h.make c
    intro m hm
    rcases List.mem_cons.1 hm with rfl | hm
    · exact ⟨rfl, isOpen, content, h⟩
    · exact ih hafter m hm

/-! ## All calls -/

theorem isFresh_holds {r : Recorder} {target : Target} (hw : r.writer = some ⟨target, target == .stream⟩)
    (hfresh : r.IsFresh target) : Holds r target (target == .stream) [] := by
  refine ⟨hw, ?_⟩
  cases target with
  | stream => exact ⟨rfl, hfresh⟩
  | file path => exact .inr ⟨rfl, rfl, hfresh⟩

/-- **A new writer is on its target**; that of a stream is open, that of a file is not. -/
theorem eq_of_newWriter {path : Option Text} {stream : Bool} {r : Recorder} {w : Writer}
    (h : ((Recording.newWriter path stream).run.run r).1 = .ok w) : w = ⟨w.target, w.target == .stream⟩ := by
  unfold Recording.newWriter at h
  split at h
  · cases h; rfl
  · cases h; rfl
  · cases h

/-- **What a call does to the target and to the writer.** -/
structure Made.Behaves (m : Made) (target : Target) : Prop where
  /-- An emission fails exactly if its writer is one of a file and not open: its integers have no more digits than can
  be written, that of its time too. -/
  emit_error_iff : ∀ e, m.call = .emit e → e.1.time.isWritable = true → ((∃ fault, m.result = .error fault) ↔
    (∃ path, target = .file path) ∧ m.before.writer = some ⟨target, false⟩)
  /-- An emission fails if its time has more digits than can be written. -/
  emit_long : ∀ e, m.call = .emit e → e.1.time.isWritable = false → ∃ fault, m.result = .error fault
  /-- An emission that returns adds one line, which is read as its event. -/
  emit_ok : ∀ e, m.call = .emit e → m.result = .ok () → ∃ line, Event.read line = .ok e.1 ∧
    Recording.targetText m.after target = Recording.targetText m.before target ++ (line ++ ['\n'])
  /-- An emission that fails leaves everything as it was. -/
  emit_error : ∀ e, m.call = .emit e → (∃ fault, m.result = .error fault) → m.after = m.before
  /-- Opening and closing leave what the target holds. -/
  text_eq : (∀ e, m.call ≠ .emit e) →
    Recording.targetText m.after target = Recording.targetText m.before target
  /-- A writer that has been opened is open. -/
  start_writer : m.call = .start → m.result = .ok () → m.after.writer = some ⟨target, true⟩
  /-- Closing the writer of a stream does nothing. -/
  stop_stream : m.call = .stop → target = .stream → m.after = m.before
  /-- A writer of a file that has been closed is not open. -/
  stop_file : m.call = .stop → (∃ path, target = .file path) → m.after.writer = some ⟨target, false⟩

theorem Holds.exists_path {r : Recorder} {target : Target} {content : Text} (h : Holds r target false content) :
    ∃ path, target = .file path := by
  cases target with
  | stream => cases h.kept.1
  | file path => exact ⟨path, rfl⟩

theorem Holds.behaves_emit {r : Recorder} {target : Target} {isOpen : Bool} {content : Text}
    (h : Holds r target isOpen content) (e : { e : Event // e.IsRecord }) :
    ((Call.emit e).make r).Behaves target := by
  have hbefore : ((Call.emit e).make r).before = r := rfl
  have hcall : ((Call.emit e).make r).call = .emit e := rfl
  obtain ⟨rfl, htime, hresult, hafter⟩ | ⟨hwhy, ⟨fault, hfault⟩, hafter⟩ := h.emit e
  · have hreturns : ¬ ∃ fault, ((Call.emit e).make r).result = .error fault := by
      rintro ⟨fault, hfault⟩
      cases hresult.symm.trans hfault
    refine ⟨fun e' he _ => ?_, fun e' he hlong => ?_, fun e' he _ => ?_, fun _ _ hfault => absurd hfault hreturns,
      fun hnone => ?_, nofun, nofun, nofun⟩
    · refine iff_of_false hreturns ?_
      rw [hbefore, h.writer]
      simp
    · cases hcall.symm.trans he
      cases htime.symm.trans hlong
    · cases hcall.symm.trans he
      refine ⟨_, e.2.read_render htime, ?_⟩
      rw [hafter.targetText, hbefore, h.targetText]
    · exact absurd hcall (hnone e)
  · refine ⟨fun e' he htime => ?_, fun _ _ _ => ⟨fault, hfault⟩, fun e' he hok => ?_, fun _ _ _ => hafter,
      fun hnone => ?_, nofun, nofun, nofun⟩
    · cases hcall.symm.trans he
      rcases hwhy with rfl | hlong
      · exact iff_of_true ⟨fault, hfault⟩ ⟨h.exists_path, h.writer⟩
      · cases htime.symm.trans hlong
    · cases hok.symm.trans hfault
    · exact absurd hcall (hnone e)

/-- **Every call behaves**, whatever text the target holds. -/
theorem Holds.behaves {r : Recorder} {target : Target} {isOpen : Bool} {content : Text}
    (h : Holds r target isOpen content) (c : Call) : (c.make r).Behaves target := by
  cases c with
  | emit e => exact h.behaves_emit e
  | start =>
    refine ⟨nofun, nofun, nofun, nofun, fun _ => ?_, fun _ hresult => ?_, nofun, nofun⟩
    · exact h.start.targetText.trans h.targetText.symm
    · have hwriter := h.start.writer
      rw [hresult] at hwriter
      exact hwriter
  | stop =>
    refine ⟨nofun, nofun, nofun, nofun, fun _ => ?_, nofun, fun _ => h.stop.2, fun _ hfile => ?_⟩
    · exact h.stop.1.targetText.trans h.targetText.symm
    · obtain ⟨path, rfl⟩ := hfile
      exact h.stop.1.writer

/-- **A log is what was emitted.**  A new writer is given steps: calls that open it, emit events and close it, and blocks
of steps.  If there is nothing in its target at first, then the target holds one line for each emission that returned,
in their order, and each line is read as its event.  An emission of integers that can be written fails exactly if the
writer is one of a file and not open.  One that fails leaves everything as it was; opening and closing leave what the
target holds, and closing the writer of a stream does nothing. -/
theorem lines_are_emissions {path : Option Text} {stream : Bool} {r : Recorder} {w : Writer}
    (hnew : ((Recording.newWriter path stream).run.run r).1 = .ok w) (hw : r.writer = some w)
    (hfresh : r.IsFresh w.target) (steps : List Step) :
    (∃ ls, Recording.targetText (runAll steps r).2 w.target = ls.flatMap (· ++ ['\n']) ∧
      Text.lines (Recording.targetText (runAll steps r).2 w.target) = ls ∧
      List.Forall₂ (fun l e => Event.read l = .ok e) ls (returned (runAll steps r).1)) ∧
    ∀ m ∈ (runAll steps r).1, m.Behaves w.target := by
  have hchain := chain_runAll steps r
  have hstart : Holds r w.target (w.target == .stream) [] :=
    isFresh_holds (hw.trans (congrArg some (eq_of_newWriter hnew))) hfresh
  constructor
  · obtain ⟨isOpen, ls, hafter, hlines, hread⟩ := hstart.chain hchain
    have htext := hafter.targetText
    rw [List.nil_append] at htext
    refine ⟨ls, htext, ?_, hread⟩
    rw [htext, Text.lines_flatMap_end hlines]
  · intro m hm
    obtain ⟨hmake, isOpen, content, hbefore⟩ := hstart.exists_of_mem hchain m hm
    rw [hmake]
    exact hbefore.behaves m.call

/-- An event whose data hold a line feed and a character beyond the first plane. -/
def feedEvent : Event :=
  ⟨.config, .int 1, .obj [(Text.codePoints "host", .str (Text.codePoints ['\n', Char.ofNat 0x1F511]))]⟩

theorem isRecord_feedEvent : feedEvent.IsRecord := by
  refine ⟨⟨1, rfl, by decide⟩, .obj ?_ (by decide) ?_, by decide⟩
  · intro m hm
    rw [List.mem_singleton.1 hm]
    exact Text.isText_codePoints _
  · intro m hm
    rw [List.mem_singleton.1 hm]
    exact .str (Text.isText_codePoints _)

/-- A block with an emission, and an emission after it, which fails. -/
def feedSteps : List Step :=
  [.block [.call (.emit ⟨feedEvent, isRecord_feedEvent⟩)], .call (.emit ⟨feedEvent, isRecord_feedEvent⟩)]

/-- A new writer on a file of a bare tree. -/
def feedRecorder : Recorder :=
  ⟨FileTree.bare, [], none, some ⟨.file "log", false⟩⟩

/-- The block opens and closes the file, so that the second emission fails and the file has one line. -/
theorem lines_are_emissions_block :
    (runAll feedSteps feedRecorder).1.map (·.result.isOk) = [true, true, true, false] ∧
      (Text.lines (Recording.targetText (runAll feedSteps feedRecorder).2 (.file "log"))).length = 1 ∧
      ∀ m ∈ (runAll feedSteps feedRecorder).1, m.Behaves (.file "log") := by
  have hfresh : feedRecorder.IsFresh (.file "log") := by
    intro t hmake c hread
    cases hmake
    cases hread
  have hnew : ((Recording.newWriter (some "log") false).run.run feedRecorder).1 = .ok ⟨.file "log", false⟩ := rfl
  obtain ⟨⟨ls, -, hlines, hread⟩, hbehaves⟩ := lines_are_emissions hnew rfl hfresh feedSteps
  refine ⟨by decide +kernel, ?_, hbehaves⟩
  rw [hlines, hread.length_eq]
  decide +kernel

end Writer
end SshConfig
