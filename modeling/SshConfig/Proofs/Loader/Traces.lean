import SshConfig.Proofs.Loader
/-!
# Traces — what the hooks of a trace may see and touch

A client with a trace answers what it answers without one, as long as the hooks come to an end; what a hook leaves
alone (`Act.Leaves`) the look-up leaves as its sources do.  A trace is blind (`Trace.IsBlind`) if it makes no difference
to its hooks which file configuration is told, nor what else was left behind about files: then two clients that answer
alike from different readings stay alike.
-/
namespace SshConfig

variable {α β γ : Type}

/-- The action leaves what is seen of a session as it was. -/
def Act.Leaves (view : Session → γ) (a : Act α) : Prop :=
  ∀ s, view (a s).2 = view s

theorem Act.Leaves.bind {view : Session → γ} {a : Act α} (ha : a.Leaves view) {f : α → Act β}
    (hf : ∀ x, (f x).Leaves view) : (a >>= f).Leaves view := by
  intro s
  have hs := ha s
  rw [bind_run]
  cases hrun : a s with
  | mk r t =>
    rw [hrun] at hs
    cases r with
    | error fault => exact hs
    | ok x => exact (hf x t).trans hs

/-- What is seen of a session is not its gates. -/
def IgnoresGates (view : Session → γ) : Prop :=
  ∀ s gates, view { s with gates := gates } = view s

theorem Act.Leaves.runOnce {view : Session → γ} (hview : IgnoresGates view) {gate : Nat} {a : Act Unit}
    (ha : a.Leaves view) : (Act.runOnce gate a).Leaves view := by
  intro s
  unfold Act.runOnce
  split
  · rfl
  · exact (hview _ _).trans (ha s)

/-- The hooks of a trace leave what is seen of a session as it was. -/
def Trace.Leaves (view : Session → γ) (trace : Trace) : Prop :=
  (∀ file, (trace.gotFileConfig file).Leaves view) ∧ ∀ e, (trace.gotConfig e).Leaves view

/-- What actions of a session read from. -/
def Session.surroundings (s : Session) : Environment × FileTree :=
  (s.environment, s.tree)

/-- The hooks of a trace leave the files and the readings of them alone. -/
structure Trace.LeavesFiles (trace : Trace) : Prop where
  surroundings : trace.Leaves Session.surroundings
  readings : trace.Leaves (·.loaded)

theorem Trace.leavesFiles_noting : noting.LeavesFiles :=
  ⟨⟨fun _ _ => rfl, fun _ _ => rfl⟩, fun _ _ => rfl, fun _ _ => rfl⟩

theorem Trace.returns_noting : noting.Returns :=
  ⟨fun _ _ => rfl, fun _ _ => rfl⟩

theorem Resolver.leaves_reports {view : Session → γ} (hview : IgnoresGates view) {trace : Trace}
    (htrace : trace.Leaves view) {fileConfig : Act (Option ConfigFile)} (hfile : fileConfig.Leaves view) (gate : Nat)
    (e : Effective) : (reports trace fileConfig gate e).Leaves view :=
  .bind (.runOnce hview (hfile.bind htrace.1)) fun _ => htrace.2 e

/-- **The defaults and the trace of a client leave what its hooks leave.** -/
theorem Loader.view_assembled {view : Session → γ} (hview : IgnoresGates view) {l : Loader}
    (htrace : ∀ trace, l.trace = some trace → trace.Leaves view) {inner : Client} (hfile : inner.fileConfig.Leaves view)
    (identity : Option Identity) (verifier : Option Verifier) (gate : Nat) (network address : Text) (s : Session) :
    view ((l.assembled inner identity verifier gate).lookup network address s).2 =
      view (inner.resolver network address s).2 := by
  unfold assembled Client.lookup
  cases hl : l.trace with
  | none =>
    dsimp only
    rw [layers_run]
  | some trace =>
    have hreports := Resolver.leaves_reports hview (htrace trace hl) hfile gate
    dsimp only
    rw [Resolver.traced_run, layers_run]
    cases inner.resolver network address s with
    | mk result t =>
      cases result with
      | error fault => rfl
      | ok r =>
        cases r with
        | found a e => exact hreports (completed identity verifier e) t
        | notFound a => rfl
        | failed a fault => rfl

/-- **A client gives the answer of its sources, completed by the defaults**, unless a hook ends in a fault when it is
told what was found. -/
theorem Loader.assembled_fst {l : Loader} {inner : Client} {network address : Text} {s : Session}
    {answer : Except Fault Resolution} (hinner : (inner.resolver network address s).1 = answer)
    (hfile : ∀ s, ∃ file, (inner.fileConfig s).1 = .ok file)
    (htrace : ∀ r, answer = .ok r → r.isFound = true → ∀ trace, l.trace = some trace → trace.Returns)
    (identity : Option Identity) (verifier : Option Verifier) (gate : Nat) :
    ((l.assembled inner identity verifier gate).lookup network address s).1 =
      answer.map (Resolution.adjust (completed identity verifier)) := by
  have hlayers : (layers identity verifier inner.resolver network address s).1 =
      answer.map (Resolution.adjust (completed identity verifier)) := by
    rw [layers_run, hinner]
  unfold assembled Client.lookup
  cases hl : l.trace with
  | none => exact hlayers
  | some trace =>
    by_cases hfound : ∃ r, answer = .ok r ∧ r.isFound = true
    · obtain ⟨r, hr, hfound⟩ := hfound
      exact (Resolver.traced_fst (htrace r hr hfound trace hl) hfile s).trans hlayers
    · dsimp only
      rw [Resolver.traced_run]
      cases hrun : layers identity verifier inner.resolver network address s with
      | mk result t =>
        rw [hrun] at hlayers
        cases hlayers
        cases answer with
        | error fault => rfl
        | ok r =>
          cases r with
          | found a e => exact absurd ⟨_, rfl, rfl⟩ hfound
          | notFound a => rfl
          | failed a fault => rfl

/-! ## Actions that see a part of the session -/

/-- In sessions of which the same is seen, the actions end in the same, and in such sessions. -/
def Act.AgreeOn (view : Session → γ) (a b : Act α) : Prop :=
  ∀ s t : Session, view s = view t → (a s).1 = (b t).1 ∧ view (a s).2 = view (b t).2

theorem Act.AgreeOn.bind {view : Session → γ} {a b : Act α} (hab : a.AgreeOn view b) {f g : α → Act β}
    (hfg : ∀ x, (f x).AgreeOn view (g x)) : (a >>= f).AgreeOn view (b >>= g) := by
  intro s t hst
  obtain ⟨hend, hafter⟩ := hab s t hst
  rw [bind_run, bind_run]
  cases ha : a s with
  | mk r u =>
    cases hb : b t with
    | mk q v =>
      rw [ha, hb] at hend hafter
      cases hend
      cases r with
      | error fault => exact ⟨rfl, hafter⟩
      | ok x => exact hfg x u v hafter

/-- The gates are seen of a session, and what else is seen is not about them. -/
structure SeesGates (view : Session → γ) : Prop where
  gates : ∀ {s t}, view s = view t → s.gates = t.gates
  others : ∀ {s t}, view s = view t → ∀ gates, view { s with gates := gates } = view { t with gates := gates }

theorem Act.AgreeOn.runOnce {view : Session → γ} (hview : SeesGates view) {a b : Act Unit} (hab : a.AgreeOn view b)
    (gate : Nat) : (Act.runOnce gate a).AgreeOn view (Act.runOnce gate b) := by
  intro s t hst
  obtain ⟨hend, hafter⟩ := hab s t hst
  unfold Act.runOnce
  rw [hview.gates hst]
  split
  · exact ⟨rfl, hst⟩
  · refine ⟨hend, ?_⟩
    have hset := hview.others hafter ((a s).2.gates.set gate true)
    rw [hview.gates hafter] at hset
    simpa only [hview.gates hafter] using hset

/-! ## Blind traces -/

/-- The note is about files, and not about an address. -/
def Note.isOfFiles : Note → Bool
  | .remark _ => true
  | .built _ => true
  | .fileConfig _ => true
  | .event e => e.type == .fileConfig
  | _ => false

/-- The session apart from what was noted of files and kept of them. -/
def Session.apart (s : Session) : Session :=
  { s with journal := s.journal.filter (!·.isOfFiles), loaded := [] }

/-- In sessions that are the same apart from the files, the actions end in the same, and in such sessions. -/
def Act.Agree (a b : Act α) : Prop :=
  ∀ s t : Session, s.apart = t.apart → (a s).1 = (b t).1 ∧ (a s).2.apart = (b t).2.apart

theorem Act.Agree.bind {a b : Act α} (hab : a.Agree b) {f g : α → Act β} (hfg : ∀ x, (f x).Agree (g x)) :
    (a >>= f).Agree (b >>= g) :=
  AgreeOn.bind hab hfg

theorem Session.seesGates_apart : SeesGates apart where
  gates h := (congrArg gates h :)
  others h gates := (congrArg (fun s : Session => { s with gates := gates }) h :)

theorem Act.Agree.runOnce {a b : Act Unit} (hab : a.Agree b) (gate : Nat) :
    (Act.runOnce gate a).Agree (Act.runOnce gate b) :=
  AgreeOn.runOnce Session.seesGates_apart hab gate

/-- It makes no difference to the hooks of a trace which file configuration is told. -/
structure Trace.IsBlind (trace : Trace) : Prop where
  file : ∀ f g, (trace.gotFileConfig f).Agree (trace.gotFileConfig g)
  config : ∀ e, (trace.gotConfig e).Agree (trace.gotConfig e)

theorem Resolver.agree_reports {trace : Trace} (htrace : trace.IsBlind) (file : Option ConfigFile) (gate : Nat)
    (e : Effective) :
    (reports trace (pure file) gate e).Agree (reports trace Loader.readings gate e) := by
  refine .bind (.runOnce ?_ gate) fun _ => htrace.config e
  intro s t hst
  exact htrace.file file (ConfigFile.combineAll (t.loaded.map (·.2))) s t hst

/-- **With a blind trace, clients answer alike if their sources do.** -/
theorem Loader.agree_assembled {l : Loader} (htrace : ∀ trace, l.trace = some trace → trace.IsBlind)
    {once onDemand : Resolver} {network address : Text} {s t : Session}
    (hinner : (once network address s).1 = (onDemand network address t).1 ∧
      (once network address s).2.apart = (onDemand network address t).2.apart)
    (file : Option ConfigFile) (identity : Option Identity) (verifier : Option Verifier) (gate : Nat) :
    ((l.assembled ⟨once, pure file⟩ identity verifier gate).lookup network address s).1 =
        ((l.assembled ⟨onDemand, readings⟩ identity verifier gate).lookup network address t).1 ∧
      ((l.assembled ⟨once, pure file⟩ identity verifier gate).lookup network address s).2.apart =
        ((l.assembled ⟨onDemand, readings⟩ identity verifier gate).lookup network address t).2.apart := by
  unfold assembled Client.lookup
  cases hl : l.trace with
  | none =>
    dsimp only
    rw [layers_run, layers_run, hinner.1]
    exact ⟨rfl, hinner.2⟩
  | some trace =>
    have hreports := Resolver.agree_reports (htrace trace hl) file gate
    dsimp only
    rw [Resolver.traced_run, Resolver.traced_run, layers_run, layers_run]
    revert hinner
    cases once network address s with
    | mk result u =>
      cases onDemand network address t with
      | mk result' v =>
        rintro ⟨hresult, huv⟩
        cases hresult
        cases result with
        | error fault => exact ⟨rfl, huv⟩
        | ok r =>
          cases r with
          | notFound a => exact ⟨rfl, huv⟩
          | failed a fault => exact ⟨rfl, huv⟩
          | found a e =>
            obtain ⟨hend, hafter⟩ := hreports (completed identity verifier e) u v huv
            exact ⟨congrArg (Except.map fun _ => Resolution.found a (completed identity verifier e)) hend, hafter⟩

end SshConfig
