import SshConfig.Files.Access
import SshConfig.KeyLibrary.Plain
/-!
# Session — actions that only read

Most actions look at the surroundings and at the files, make remarks, and leave nothing else behind
(`Act.IsReading`).  What such an action ends in is the same in every session with these surroundings and files, whatever
was done before (`Act.outcome`), and it is put together from what its parts end in.
-/
namespace SshConfig

/-- Surroundings for examples: the user is `root`, there are two more accounts and no variable is set. -/
def sampleEnvironment (library : KeyLibrary) : Environment :=
  ⟨[], [⟨"root", 0, "/root"⟩, ⟨"daemon", 1, "/usr/sbin"⟩, ⟨"nobody", 65534, "/nonexistent"⟩], 0, library, 1⟩

variable {ε α β : Type}

theorem exists_of_bind_ok {x : Except ε α} {f : α → Except ε β} {b : β} (h : x.bind f = .ok b) :
    ∃ a, x = .ok a ∧ f a = .ok b := by
  cases x with
  | error e => cases h
  | ok a => exact ⟨a, rfl, h⟩

theorem exists_of_isOk {x : Except ε α} (h : x.isOk = true) : ∃ a, x = .ok a := by
  cases x with
  | error e => cases h
  | ok a => exact ⟨a, rfl⟩

theorem eq_ok_of_toOption {x : Except ε α} {a : α} (h : x.toOption = some a) : x = .ok a := by
  cases x with
  | error e => cases h
  | ok b => exact congrArg Except.ok (Option.some.inj h)

theorem exists_of_map_ok {x : Except ε α} {f : α → β} {b : β} (h : x.map f = .ok b) : ∃ a, x = .ok a ∧ f a = b := by
  cases x with
  | error e => cases h
  | ok a => exact ⟨a, rfl, Except.ok.inj h⟩

theorem map_eq_ok_iff {x : Except ε α} {f : α → β} {b : β} : x.map f = .ok b ↔ ∃ a, x = .ok a ∧ f a = b := by
  constructor
  · exact exists_of_map_ok
  · rintro ⟨a, rfl, rfl⟩
    rfl

theorem eq_ok_of_mapError_ok {ε' : Type} {x : Except ε α} {f : ε → ε'} {a : α} (h : x.mapError f = .ok a) :
    x = .ok a := by
  cases x with
  | error e => cases h
  | ok b => exact congrArg Except.ok (Except.ok.inj h)

theorem mapError_eq_ok_iff {ε' : Type} {x : Except ε α} {f : ε → ε'} {a : α} : x.mapError f = .ok a ↔ x = .ok a := by
  constructor
  · exact eq_ok_of_mapError_ok
  · rintro rfl
    rfl

theorem map_eq_error_iff {x : Except ε α} {f : α → β} {e : ε} :
    x.map f = .error e ↔ x = .error e := by
  cases x <;> simp [Except.map]

theorem bind_eq_error_iff {x : Except ε α} {f : α → Except ε β} {e : ε} :
    x.bind f = .error e ↔ x = .error e ∨ ∃ a, x = .ok a ∧ f a = .error e := by
  cases x <;> simp [Except.bind]

theorem mapError_eq_error_iff {ε' : Type} {x : Except ε α} {f : ε → ε'} {e : ε'} :
    x.mapError f = .error e ↔ ∃ a, x = .error a ∧ f a = e := by
  cases x with
  | error a =>
    constructor
    · intro h
      exact ⟨a, rfl, Except.error.inj h⟩
    · rintro ⟨b, h, rfl⟩
      cases h
      rfl
  | ok b =>
    constructor
    · intro h
      cases h
    · rintro ⟨a, h, -⟩
      cases h

/-- The fault is one that a file which need not be there is excused for. -/
def Fault.isExcused : Fault → Bool
  | .os f => f.cause.isExcused
  | _ => false

/-- What is made of a file that need not be there: nothing, if it is excused. -/
def Fault.excuse (x : Except Fault α) : Except Fault (Option α) :=
  match x with
  | .ok a => .ok (some a)
  | .error fault => if fault.isExcused then .ok none else .error fault

theorem Fault.excuse_eq_none_iff {x : Except Fault α} :
    Fault.excuse x = .ok none ↔ ∃ fault, x = .error fault ∧ fault.isExcused = true := by
  cases x with
  | ok a => simp [Fault.excuse]
  | error fault => by_cases h : fault.isExcused = true <;> simp [Fault.excuse, h]

theorem Fault.excuse_eq_error_iff {x : Except Fault α} {fault : Fault} :
    Fault.excuse x = .error fault ↔ x = .error fault ∧ fault.isExcused = false := by
  cases x with
  | ok a => simp [Fault.excuse]
  | error f =>
    by_cases hf : f.isExcused = true
    · simp only [Fault.excuse, hf, if_true, reduceCtorEq, Except.error.injEq, false_iff]
      rintro ⟨rfl, h⟩
      rw [hf] at h
      cases h
    · simp only [Fault.excuse, hf, Bool.false_eq_true, if_false, Except.error.injEq]
      exact ⟨fun h => ⟨h, h ▸ Bool.eq_false_iff.2 hf⟩, And.left⟩

namespace Act

theorem bind_run (a : Act α) (f : α → Act β) (s : Session) : (a >>= f) s = match a s with
    | (.ok x, t) => f x t
    | (.error fault, t) => (.error fault, t) := by
  simp only [bind, ExceptT.bind, ExceptT.mk, StateT.bind]
  cases a s with
  | mk r t => cases r <;> rfl

theorem exists_of_run_isOk {a : Act α} {s : Session} (h : (a s).1.isOk = true) : ∃ x t, a s = (.ok x, t) := by
  cases hrun : a s with
  | mk r t =>
    rw [hrun] at h
    cases r with
    | error fault => cases h
    | ok x => exact ⟨x, t, rfl⟩

theorem exists_of_map_run {a : Act α} {s : Session} {f : α → β} {b : β} (h : (a s).1.toOption.map f = some b) :
    ∃ x t, a s = (.ok x, t) ∧ f x = b := by
  cases hrun : a s with
  | mk r t =>
    rw [hrun] at h
    cases r with
    | error fault => cases h
    | ok x => exact ⟨x, t, rfl, Option.some.inj h⟩

theorem map_run (f : α → β) (a : Act α) (s : Session) : (f <$> a) s = ((a s).1.map f, (a s).2) := by
  simp only [Functor.map, ExceptT.map, ExceptT.mk, bind, StateT.bind]
  cases a s with
  | mk r t => cases r <;> rfl

theorem get_run (s : Session) : (MonadState.get : Act Session) s = (.ok s, s) := rfl

theorem rescue_run (a : Act α) (handle : Fault → Act α) (s : Session) : rescue a handle s = match a s with
    | (.ok x, t) => (.ok x, t)
    | (.error fault, t) => handle fault t := by
  simp only [rescue, tryCatch, tryCatchThe, MonadExceptOf.tryCatch, ExceptT.tryCatch, ExceptT.mk, bind, StateT.bind]
  cases a s with
  | mk r t => cases r <;> rfl

/-- What the action ends in, where nothing was done before. -/
def outcome (a : Act α) (env : Environment) (tree : FileTree) : Except Fault α :=
  (a { environment := env, tree := tree }).1

/-- **The action only reads**: it ends in the same whatever was done before, and makes remarks at most. -/
def IsReading (a : Act α) : Prop :=
  ∀ s, ∃ remarks : List Remark,
    a s = (a.outcome s.environment s.tree, { s with journal := s.journal ++ remarks.map .remark })

namespace IsReading

theorem run_fst {a : Act α} (h : a.IsReading) (s : Session) : (a s).1 = a.outcome s.environment s.tree := by
  obtain ⟨remarks, hrun⟩ := h s
  rw [hrun]

theorem of_run {a : Act α} (x : Environment → FileTree → Except Fault α)
    (remarks : Environment → FileTree → List Remark)
    (h : ∀ s, a s = (x s.environment s.tree,
      { s with journal := s.journal ++ (remarks s.environment s.tree).map .remark })) : a.IsReading := by
  intro s
  have hx : a.outcome s.environment s.tree = x s.environment s.tree := by
    unfold outcome
    rw [h]
  exact ⟨remarks s.environment s.tree, by rw [h, hx]⟩

theorem pure (x : α) : (Pure.pure x : Act α).IsReading :=
  of_run (fun _ _ => .ok x) (fun _ _ => []) fun s => by
    rw [List.map_nil, List.append_nil]
    rfl

theorem fail (fault : Fault) : (Act.fail fault : Act α).IsReading :=
  of_run (fun _ _ => .error fault) (fun _ _ => []) fun s => by
    rw [List.map_nil, List.append_nil]
    rfl

theorem ofExcept : ∀ x : Except Fault α, (Act.ofExcept x).IsReading
  | .ok x => pure x
  | .error fault => fail fault

theorem remark (level : Level) (topic : Topic) (text : Text) : (Act.remark level topic text).IsReading :=
  of_run (fun _ _ => .ok ()) (fun _ _ => [⟨level, topic, text⟩]) fun _ => rfl

theorem debug (topic : Topic) (text : Text) : (Act.debug topic text).IsReading := remark .debug topic text

end IsReading

theorem outcome_ofExcept (x : Except Fault α) (env : Environment) (tree : FileTree) :
    (ofExcept x).outcome env tree = x := by
  cases x <;> rfl

theorem outcome_bind {a : Act α} (ha : a.IsReading) {f : α → Act β} (hf : ∀ x, (f x).IsReading) (env : Environment)
    (tree : FileTree) : (a >>= f).outcome env tree = (a.outcome env tree).bind fun x => (f x).outcome env tree := by
  obtain ⟨remarks, hrun⟩ := ha { environment := env, tree := tree }
  unfold outcome at hrun ⊢
  rw [bind_run, hrun]
  cases (a { environment := env, tree := tree }).1 with
  | error fault => rfl
  | ok x => exact (hf x).run_fst _

theorem exists_of_outcome_bind {a : Act α} (ha : a.IsReading) {f : α → Act β} (hf : ∀ x, (f x).IsReading)
    {env : Environment} {tree : FileTree} {y : β} (h : (a >>= f).outcome env tree = .ok y) :
    ∃ x, a.outcome env tree = .ok x ∧ (f x).outcome env tree = .ok y := by
  rw [outcome_bind ha hf] at h
  exact exists_of_bind_ok h

/-- **After a reading the next action goes on**, in a session that differs by remarks. -/
theorem IsReading.exists_bind_run {a : Act α} (ha : a.IsReading) (f : α → Act β) (s : Session) :
    ∃ remarks : List Remark, (a >>= f) s = match a.outcome s.environment s.tree with
      | .ok x => f x { s with journal := s.journal ++ remarks.map .remark }
      | .error fault => (.error fault, { s with journal := s.journal ++ remarks.map .remark }) := by
  obtain ⟨remarks, hrun⟩ := ha s
  refine ⟨remarks, ?_⟩
  rw [Act.bind_run, hrun]
  cases a.outcome s.environment s.tree <;> rfl

theorem outcome_map {a : Act α} (f : α → β) (env : Environment) (tree : FileTree) :
    (f <$> a).outcome env tree = (a.outcome env tree).map f := by
  unfold outcome
  rw [map_run]

theorem outcome_rescue {a : Act α} (ha : a.IsReading) {handle : Fault → Act α} (hh : ∀ e, (handle e).IsReading)
    (env : Environment) (tree : FileTree) : (rescue a handle).outcome env tree = match a.outcome env tree with
      | .ok x => .ok x
      | .error fault => (handle fault).outcome env tree := by
  obtain ⟨remarks, hrun⟩ := ha { environment := env, tree := tree }
  unfold outcome at hrun ⊢
  rw [rescue_run, hrun]
  cases (a { environment := env, tree := tree }).1 with
  | ok x => rfl
  | error fault => exact (hh fault).run_fst _

namespace IsReading

/-- **Readings one after the other are a reading.** -/
theorem bind {a : Act α} (ha : a.IsReading) {f : α → Act β} (hf : ∀ x, (f x).IsReading) : (a >>= f).IsReading := by
  intro s
  obtain ⟨remarks, hrun⟩ := ha s
  rw [outcome_bind ha hf, bind_run, hrun]
  cases a.outcome s.environment s.tree with
  | error fault => exact ⟨remarks, rfl⟩
  | ok x =>
    obtain ⟨more, hmore⟩ := hf x { s with journal := s.journal ++ remarks.map .remark }
    refine ⟨remarks ++ more, ?_⟩
    simp only [hmore, List.map_append, List.append_assoc]
    rfl

theorem map {a : Act α} (ha : a.IsReading) (f : α → β) : (f <$> a).IsReading := by
  intro s
  obtain ⟨remarks, hrun⟩ := ha s
  exact ⟨remarks, by rw [outcome_map, map_run, hrun]⟩

theorem rescue {a : Act α} (ha : a.IsReading) {handle : Fault → Act α} (hh : ∀ e, (handle e).IsReading) :
    (Act.rescue a handle).IsReading := by
  intro s
  obtain ⟨remarks, hrun⟩ := ha s
  rw [outcome_rescue ha hh, rescue_run, hrun]
  cases a.outcome s.environment s.tree with
  | ok x => exact ⟨remarks, rfl⟩
  | error fault =>
    obtain ⟨more, hmore⟩ := hh fault { s with journal := s.journal ++ remarks.map .remark }
    refine ⟨remarks ++ more, ?_⟩
    simp only [hmore, List.map_append, List.append_assoc]

theorem get {f : Session → Act α} (hsame : ∀ s t : Session, s.environment = t.environment → s.tree = t.tree → f s = f t)
    (hf : ∀ s, (f s).IsReading) : ((MonadState.get : Act Session) >>= f).IsReading := by
  have hrun : ∀ s, ((MonadState.get : Act Session) >>= f) s = f s s := fun _ => rfl
  intro s
  obtain ⟨remarks, h⟩ := hf s s
  refine ⟨remarks, ?_⟩
  unfold outcome at h ⊢
  rw [hrun, hrun, h, hsame { environment := s.environment, tree := s.tree } s rfl rfl]

/-! ## Files -/

theorem expand (path : Text) : (Act.expand path).IsReading :=
  get (fun _ _ henv _ => by rw [henv]) fun _ => ofExcept _

theorem bytes (path : Text) : (Act.bytes path).IsReading := by
  unfold Act.bytes
  split
  · exact fail .nullInPath
  · refine get (fun _ _ _ htree => by rw [htree]) fun s => ?_
    split
    · exact pure _
    · exact fail _

theorem text (path : Text) : (Act.text path).IsReading :=
  bind (bytes path) fun _ => pure _

theorem node? (path : Text) : (Act.node? path).IsReading := by
  unfold Act.node?
  split
  · exact pure none
  · refine get (fun _ _ _ htree => by rw [htree]) fun s => ?_
    split
    · exact pure _
    · split
      · exact pure none
      · exact fail _

theorem excused (topic : Topic) (said : OsFault → Text) (fault : Fault) : (match fault with
    | .os f =>
      if f.cause.isExcused then do
        Act.debug topic (said f)
        Pure.pure none
      else Act.fail fault
    | _ => Act.fail fault : Act (Option α)).IsReading := by
  split
  · split
    · exact bind (debug _ _) fun _ => pure none
    · exact fail _
  · exact fail _

end IsReading

theorem outcome_expand (path : Text) (env : Environment) (tree : FileTree) :
    (expand path).outcome env tree = env.expand path :=
  outcome_ofExcept _ env tree

theorem outcome_text (path : Text) (env : Environment) (tree : FileTree) : (text path).outcome env tree =
    if path.contains (Char.ofNat 0) then .error .nullInPath
    else match tree.read (FilePath.ofText path) with
      | .ok bs => .ok (Text.unifyBreaks (Text.decode bs))
      | .error cause => .error (.os ⟨cause, FilePath.normal path⟩) := by
  have hbytes : (bytes path).outcome env tree = if path.contains (Char.ofNat 0) then .error .nullInPath
      else (tree.read (FilePath.ofText path)).mapError fun cause => .os ⟨cause, FilePath.normal path⟩ := by
    unfold bytes
    split
    · rfl
    · unfold outcome
      rw [bind_run, get_run]
      dsimp only
      cases tree.read (FilePath.ofText path) <;> rfl
  refine (outcome_bind (IsReading.bytes path) (fun _ => IsReading.pure _) env tree).trans ?_
  rw [hbytes]
  split
  · rfl
  · cases tree.read (FilePath.ofText path) <;> rfl

/-- **A file that need not be there counts for nothing if it is excused**, and a remark is made about it. -/
theorem outcome_excusing {a : Act α} (ha : a.IsReading) (topic : Topic) (said : OsFault → Text) (env : Environment)
    (tree : FileTree) : (rescue (some <$> a) fun fault => match fault with
      | .os f =>
        if f.cause.isExcused then do
          debug topic (said f)
          pure none
        else fail fault
      | _ => fail fault).outcome env tree = Fault.excuse (a.outcome env tree) := by
  rw [outcome_rescue (IsReading.map ha some) (IsReading.excused topic said), outcome_map]
  cases a.outcome env tree with
  | ok x => rfl
  | error fault =>
    cases fault with
    | os f =>
      by_cases hf : f.cause.isExcused = true <;> simp only [Except.map, Fault.excuse, Fault.isExcused, hf] <;> rfl
    | _ => rfl

end Act
end SshConfig
