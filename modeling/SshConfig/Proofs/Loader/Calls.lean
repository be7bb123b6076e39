import SshConfig.Proofs.Loader.History
/-!
# Calls — when the hooks of a trace are called

A trace that notes its calls (`Trace.observed`) leaves a record of them in the session, in order (`Session.calls`).  A
look-up that finds something tells the configuration it found, and the first of a client's life that does tells the file
configuration before that, whether the hook then ends in a fault or not; no other look-up calls a hook.  The gate of the
client remembers whether there was such a look-up, which is the invariant of a run (`calls_replay`).
-/
namespace SshConfig

/-- The note is of a call of a hook. -/
def Note.isCall : Note → Bool
  | .fileConfig _ => true
  | .config _ => true
  | _ => false

/-- The calls of hooks that were noted, in order. -/
def Session.calls (s : Session) : List Note :=
  s.journal.filter Note.isCall

/-- The trace, whose hooks note that they were called before they do anything else. -/
def Trace.observed (trace : Trace) : Trace where
  gotFileConfig file := do
    Act.note (.fileConfig file)
    trace.gotFileConfig file
  gotConfig e := do
    Act.note (.config e)
    trace.gotConfig e

/-- The hooks of the trace note no calls of their own and leave the gates of clients alone. -/
structure Trace.LeavesCalls (trace : Trace) : Prop where
  calls : trace.Leaves Session.calls
  gates : trace.Leaves (·.gates)

theorem Session.calls_append_remarks (s : Session) {notes : List Note} (h : notes.filter (!·.isRemark) = [])
    (loaded : List (Nat × ConfigFile)) : { s with journal := s.journal ++ notes, loaded := loaded }.calls = s.calls := by
  unfold calls
  simp only [List.filter_append, Note.filter_of_remarks Note.isCall (fun _ => rfl) h, List.append_nil]

/-! ## One find -/

namespace Trace

/-- The calls at a first find: the file configuration is told, and then, if that hook came to an end, what was found. -/
def firstCalls (trace : Trace) (file : Option ConfigFile) (e : Effective) (s : Session) : List Note :=
  .fileConfig file :: match (trace.gotFileConfig file s).1 with
    | .ok _ => [.config e]
    | .error _ => []

/-- The calls for what was found one after the other, each with the session of the find; `told` if the file configuration
has been told before. -/
def callsFor (trace : Trace) (file : Session → Option ConfigFile) (told : Bool) : List (Effective × Session) → List Note
  | [] => []
  | (e, s) :: later =>
    (if told then [.config e] else trace.firstCalls (file s) e s) ++ later.map fun find => .config find.1

theorem callsFor_told (trace : Trace) (file : Session → Option ConfigFile) :
    ∀ finds : List (Effective × Session), trace.callsFor file true finds = finds.map fun find => .config find.1
  | [] => rfl
  | _ :: _ => rfl

theorem callsFor_first (trace : Trace) (file : Session → Option ConfigFile) (e : Effective) (s : Session) :
    trace.callsFor file false [(e, s)] = trace.firstCalls (file s) e s :=
  List.append_nil _

theorem callsFor_append (trace : Trace) (file : Session → Option ConfigFile) (told : Bool) :
    ∀ earlier later : List (Effective × Session), trace.callsFor file told (earlier ++ later) =
      trace.callsFor file told earlier ++ trace.callsFor file (told || !earlier.isEmpty) later
  | [], later => by cases told <;> rfl
  | (e, s) :: earlier, later => by
    rw [List.isEmpty_cons, Bool.not_false, Bool.or_true, callsFor_told]
    simp only [List.cons_append, callsFor, List.map_append, List.append_assoc]

variable {trace : Trace} (htrace : trace.LeavesCalls)
include htrace

theorem calls_gotFileConfig (file : Option ConfigFile) (s : Session) :
    (trace.observed.gotFileConfig file s).2.calls = s.calls ++ [.fileConfig file] ∧
      (trace.observed.gotFileConfig file s).2.gates = s.gates := by
  refine ⟨(htrace.calls.1 file _).trans ?_, htrace.gates.1 file _⟩
  simp [Session.calls, Note.isCall]

theorem calls_gotConfig (e : Effective) (s : Session) :
    (trace.observed.gotConfig e s).2.calls = s.calls ++ [.config e] ∧
      (trace.observed.gotConfig e s).2.gates = s.gates := by
  refine ⟨(htrace.calls.2 e _).trans ?_, htrace.gates.2 e _⟩
  simp [Session.calls, Note.isCall]

end Trace

namespace Resolver

variable {trace : Trace} {fileConfig : Act (Option ConfigFile)} {gate : Nat} {s : Session}

theorem reports_passed (hgate : s.gates[gate]? = some true) (e : Effective) :
    reports trace fileConfig gate e s = trace.gotConfig e s := by
  unfold reports Act.runOnce
  rw [Act.bind_run, List.getD_eq_getElem?_getD, hgate]
  rfl

theorem reports_first {file : Option ConfigFile} (hfile : fileConfig s = (.ok file, s))
    (hgate : s.gates[gate]? = some false) (e : Effective) : reports trace fileConfig gate e s =
      match trace.gotFileConfig file s with
      | (.ok _, t) => trace.gotConfig e { t with gates := t.gates.set gate true }
      | (.error fault, t) => (.error fault, { t with gates := t.gates.set gate true }) := by
  have honce : Act.runOnce gate (fileConfig >>= trace.gotFileConfig) s =
      ((trace.gotFileConfig file s).1, { (trace.gotFileConfig file s).2 with
        gates := (trace.gotFileConfig file s).2.gates.set gate true }) := by
    unfold Act.runOnce
    rw [List.getD_eq_getElem?_getD, hgate, Act.bind_run, hfile]
    rfl
  have hreports : reports trace fileConfig gate e s =
      (Act.runOnce gate (fileConfig >>= trace.gotFileConfig) >>= fun _ => trace.gotConfig e) s := rfl
  rw [hreports, Act.bind_run, honce]
  cases trace.gotFileConfig file s with
  | mk result t => cases result <;> rfl

theorem calls_reports (htrace : trace.LeavesCalls) {file : Session → Option ConfigFile}
    (hfile : fileConfig s = (.ok (file s), s)) {told : Bool} (hgate : s.gates[gate]? = some told) (e : Effective) :
    (reports trace.observed fileConfig gate e s).2.calls = s.calls ++ trace.observed.callsFor file told [(e, s)] ∧
      (reports trace.observed fileConfig gate e s).2.gates[gate]? = some true := by
  cases told with
  | true =>
    obtain ⟨hcalls, hgates⟩ := Trace.calls_gotConfig htrace e s
    rw [reports_passed hgate, hgates]
    exact ⟨hcalls, hgate⟩
  | false =>
    obtain ⟨hcalls, hgates⟩ := Trace.calls_gotFileConfig htrace (file s) s
    -- the gate is passed whatever the hook ends in, as it is set in the session that the hook leaves behind
    have hlt : gate < s.gates.length := (List.getElem?_eq_some_iff.1 hgate).1
    have hpassed : (s.gates.set gate true)[gate]? = some true := List.getElem?_set_self hlt
    rw [reports_first hfile hgate, Trace.callsFor_first]
    unfold Trace.firstCalls
    cases hrun : trace.observed.gotFileConfig (file s) s with
    | mk result t =>
      rw [hrun] at hcalls hgates
      dsimp only at hcalls hgates ⊢
      cases result with
      | error fault =>
        refine ⟨hcalls, ?_⟩
        rw [← hgates] at hpassed
        exact hpassed
      | ok _ =>
        obtain ⟨hmore, hsame⟩ := Trace.calls_gotConfig htrace e { t with gates := t.gates.set gate true }
        refine ⟨hmore.trans ?_, ?_⟩
        · have hseen : { t with gates := t.gates.set gate true }.calls = t.calls := rfl
          rw [hseen, hcalls, List.append_assoc, List.singleton_append]
        · rw [hsame, hgates]
          exact hpassed

end Resolver

/-! ## A client and its trace -/

namespace Client

/-- The client, with what it finds told to a trace. -/
def tracedBy (q : Client) (trace : Trace) (gate : Nat) : Client :=
  ⟨Resolver.traced q.resolver trace q.fileConfig gate, q.fileConfig⟩

/-- What a look-up finds, with the session after its readings. -/
def find (q : Client) (network address : Text) (s : Session) : Option (Effective × Session) :=
  match q.lookup network address s with
  | (.ok (.found _ e), t) => some (e, t)
  | _ => none

/-- What is found by `q` over what happens to `c`, which is the same client with a trace. -/
def finds (c q : Client) : List Happening → Session → List (Effective × Session)
  | [], _ => []
  | .lookup network address :: rest, s =>
    (q.find network address s).toList ++ c.finds q rest (c.lookup network address s).2
  | .change tree :: rest, s => c.finds q rest { s with tree := tree }

/-- The client makes no calls and passes no gates, and it tells a file configuration without doing anything. -/
structure IsQuiet (q : Client) (file : Session → Option ConfigFile) : Prop where
  calls : ∀ network address, (q.lookup network address).Leaves Session.calls
  gates : ∀ network address, (q.lookup network address).Leaves (·.gates)
  tells : ∀ s, q.fileConfig s = (.ok (file s), s)

variable {q : Client} {file : Session → Option ConfigFile} {trace : Trace} {gate : Nat}

theorem lookup_tracedBy_of_found {network address a : Text} {s t : Session} {e : Effective}
    (hfound : q.lookup network address s = (.ok (.found a e), t)) : (q.tracedBy trace gate).lookup network address s =
      ((Resolver.reports trace q.fileConfig gate e t).1.map fun _ => .found a e,
        (Resolver.reports trace q.fileConfig gate e t).2) := by
  refine (Resolver.traced_run q.resolver trace q.fileConfig gate network address s).trans ?_
  unfold lookup at hfound
  rw [hfound]

theorem lookup_tracedBy_of_find_none {network address : Text} {s : Session}
    (hnone : q.find network address s = none) :
    (q.tracedBy trace gate).lookup network address s = q.lookup network address s := by
  refine (Resolver.traced_run q.resolver trace q.fileConfig gate network address s).trans ?_
  unfold find at hnone
  unfold lookup at hnone ⊢
  cases hrun : q.resolver network address s with
  | mk result t =>
    rw [hrun] at hnone
    cases result with
    | error fault => rfl
    | ok r =>
      cases r with
      | found a e => cases hnone
      | notFound a => rfl
      | failed a fault => rfl

theorem exists_of_find {network address : Text} {s t : Session} {e : Effective}
    (h : q.find network address s = some (e, t)) : ∃ a, q.lookup network address s = (.ok (.found a e), t) := by
  unfold find at h
  cases hrun : q.lookup network address s with
  | mk result u =>
    rw [hrun] at h
    cases result with
    | error fault => cases h
    | ok r =>
      cases r with
      | found a e' =>
        cases h
        exact ⟨a, rfl⟩
      | notFound a => cases h
      | failed a fault => cases h

theorem lookup_tracedBy (hq : q.IsQuiet file) (htrace : trace.LeavesCalls) {told : Bool} {network address a : Text}
    {s t : Session} {e : Effective} (hgate : s.gates[gate]? = some told)
    (hfound : q.lookup network address s = (.ok (.found a e), t)) :
    ((q.tracedBy trace.observed gate).lookup network address s).2.calls =
        s.calls ++ trace.observed.callsFor file told [(e, t)] ∧
      ((q.tracedBy trace.observed gate).lookup network address s).2.gates[gate]? = some true ∧
      (∀ r, ((q.tracedBy trace.observed gate).lookup network address s).1 = .ok r → r = .found a e) ∧
      (trace.Returns → ((q.tracedBy trace.observed gate).lookup network address s).1 = .ok (.found a e)) ∧
      ∀ fault, told = false → (trace.observed.gotFileConfig (file t) t).1 = .error fault →
        ((q.tracedBy trace.observed gate).lookup network address s).1 = .error fault := by
  have hcalls := hq.calls network address s
  have hgates : (q.lookup network address s).2.gates = s.gates := hq.gates network address s
  rw [hfound] at hcalls hgates
  rw [← hgates] at hgate
  obtain ⟨hreports, hpassed⟩ := Resolver.calls_reports htrace (hq.tells t) hgate e
  rw [lookup_tracedBy_of_found hfound, ← hcalls]
  refine ⟨hreports, hpassed, fun r hr => ?_, fun hreturns => ?_, fun fault htold hfault => ?_⟩
  · obtain ⟨_, -, rfl⟩ := exists_of_map_ok hr
    rfl
  · have hobserved : trace.observed.Returns :=
      ⟨fun file s => hreturns.1 file _, fun e s => hreturns.2 e _⟩
    rw [Resolver.reports_fst hobserved fun s => ⟨file s, congrArg Prod.fst (hq.tells s)⟩]
    rfl
  · rw [htold] at hgate
    rw [Resolver.reports_first (hq.tells t) hgate]
    cases hrun : trace.observed.gotFileConfig (file t) t with
    | mk result u =>
      rw [hrun] at hfault
      cases hfault
      rfl

theorem calls_lookup (hq : q.IsQuiet file) (htrace : trace.LeavesCalls) {told : Bool} {s : Session}
    (hgate : s.gates[gate]? = some told) (network address : Text) :
    ((q.tracedBy trace.observed gate).lookup network address s).2.calls =
        s.calls ++ trace.observed.callsFor file told (q.find network address s).toList ∧
      ((q.tracedBy trace.observed gate).lookup network address s).2.gates[gate]? =
        some (told || !(q.find network address s).toList.isEmpty) := by
  cases hfind : q.find network address s with
  | none =>
    have hgates : (q.lookup network address s).2.gates = s.gates := hq.gates network address s
    rw [lookup_tracedBy_of_find_none hfind, hq.calls network address s, hgates, hgate]
    simp [Trace.callsFor]
  | some find =>
    obtain ⟨e, t⟩ := find
    obtain ⟨a, hfound⟩ := exists_of_find hfind
    obtain ⟨hcalls, hpassed, -⟩ := lookup_tracedBy hq htrace hgate hfound
    refine ⟨hcalls, ?_⟩
    rw [hpassed]
    simp

/-- **Over a run the hooks are called for what is found**, and the gate remembers whether anything was. -/
theorem calls_replay (hq : q.IsQuiet file) (htrace : trace.LeavesCalls) :
    ∀ (happenings : List Happening) {told : Bool} {s : Session}, s.gates[gate]? = some told →
      ((q.tracedBy trace.observed gate).replay happenings s).calls =
          s.calls ++ trace.observed.callsFor file told ((q.tracedBy trace.observed gate).finds q happenings s) ∧
        ((q.tracedBy trace.observed gate).replay happenings s).gates[gate]? =
          some (told || !((q.tracedBy trace.observed gate).finds q happenings s).isEmpty)
  | [], told, s, hgate => by
    unfold replay finds
    rw [hgate]
    simp [Trace.callsFor]
  | .lookup network address :: rest, told, s, hgate => by
    -- what was found so far is all that the rest of the run has to know, and the gate says it
    obtain ⟨hcalls, hpassed⟩ := calls_lookup hq htrace hgate network address
    obtain ⟨hrest, hgates⟩ := calls_replay hq htrace rest hpassed
    unfold replay finds
    rw [hrest, hgates, hcalls, Trace.callsFor_append, List.append_assoc]
    refine ⟨rfl, ?_⟩
    cases q.find network address s <;> simp
  | .change tree :: rest, told, s, hgate => calls_replay hq htrace rest (s := { s with tree := tree }) hgate

end Client

/-! ## The clients of a loader -/

namespace Loader

variable {l : Loader} {overlay : Settings} {env : Environment} {tree : FileTree} {inner : Client}

/-- **The sources of a client leave remarks and their readings behind**, and nothing else. -/
theorem sourceClient_leaves {γ : Type} {view : Session → γ}
    (hview : ∀ (s : Session) {notes : List Note}, notes.filter (!·.isRemark) = [] →
      ∀ loaded, view { s with journal := s.journal ++ notes, loaded := loaded } = view s)
    (h : l.sourceClient overlay env tree = .ok inner) (network address : Text) :
    (inner.resolver network address).Leaves view := by
  intro s
  unfold sourceClient at h
  cases hlazy : l.onDemand with
  | true =>
    rw [hlazy, if_pos rfl, ← demanding_unmarked] at h
    cases h
    obtain ⟨notes, hrun, hnotes⟩ := demanding_run (fun _ => []) overlay network address 0 l.isReading_sources s
    have hsilent : notes.filter (!·.isRemark) = [] := by
      rw [hnotes]
      simp
    exact (congrArg (fun r => view r.2) hrun).trans (hview s hsilent _)
  | false =>
    rw [hlazy, if_neg Bool.false_ne_true] at h
    obtain ⟨files, -, rfl⟩ := exists_of_map_ok h
    obtain ⟨remarks, hrun⟩ := Resolver.isReading_chain network address (Resolver.isReading_ofFiles files) s
    exact (congrArg (fun r => view r.2) hrun).trans (hview s (filter_isRemark remarks) s.loaded)

/-- **What a client tells of its files depends on what is kept of them alone.** -/
theorem tells_sourceClient (h : l.sourceClient overlay env tree = .ok inner) :
    ∃ file : List (Nat × ConfigFile) → Option ConfigFile, ∀ s, inner.fileConfig s = (.ok (file s.loaded), s) := by
  unfold sourceClient at h
  cases hlazy : l.onDemand with
  | true =>
    rw [hlazy, if_pos rfl] at h
    cases h
    exact ⟨fun loaded => ConfigFile.combineAll (loaded.map (·.2)), fun _ => rfl⟩
  | false =>
    rw [hlazy, if_neg Bool.false_ne_true] at h
    obtain ⟨files, -, rfl⟩ := exists_of_map_ok h
    exact ⟨fun _ => ConfigFile.combineAll files, fun _ => rfl⟩

theorem fileConfig_sourceClient (h : l.sourceClient overlay env tree = .ok inner) :
    ∃ file : Session → Option ConfigFile, ∀ s, inner.fileConfig s = (.ok (file s), s) := by
  obtain ⟨file, hfile⟩ := tells_sourceClient h
  exact ⟨fun s => file s.loaded, hfile⟩

theorem isQuiet_untraced (h : l.sourceClient overlay env tree = .ok inner) (identity : Option Identity)
    (verifier : Option Verifier) (gate : Nat) :
    ∃ file, ({ l with trace := none }.assembled inner identity verifier gate).IsQuiet file := by
  obtain ⟨file, hfile⟩ := fileConfig_sourceClient h
  have hsame : ∀ network address s, (({ l with trace := none }.assembled inner identity verifier gate).lookup network
      address s).2 = (inner.resolver network address s).2 := by
    intro network address s
    have hlayers : ({ l with trace := none }.assembled inner identity verifier gate).lookup network address s =
        layers identity verifier inner.resolver network address s := rfl
    rw [hlayers, layers_run]
  refine ⟨file, fun network address s => ?_, fun network address s => ?_, hfile⟩
  · rw [hsame]
    exact sourceClient_leaves Session.calls_append_remarks h network address s
  · rw [hsame]
    have hgates : (inner.resolver network address).Leaves (·.gates) :=
      sourceClient_leaves (fun _ _ _ _ => rfl) h network address
    exact hgates s

/-- **A client with a trace is the client without it, traced.** -/
theorem newClient_tracedBy {trace : Trace} {s₀ s₁ : Session} {c : Client}
    (hmade : { l with trace := some trace }.newClient s₀ = (.ok c, s₁)) :
    ∃ q file, (∃ t₁, { l with trace := none }.newClient s₀ = (.ok q, t₁)) ∧ q.IsQuiet file ∧
      c = q.tracedBy trace s₀.gates.length ∧ s₁.gates = s₀.gates ++ [false] := by
  obtain ⟨hc, remarks, hs₁⟩ := made_of_newClient hmade
  obtain ⟨overlay, inner, identity, verifier, hoverlay, hinner, hidentity, hverifier, rfl⟩ := exists_of_made hc
  obtain ⟨file, hquiet⟩ := isQuiet_untraced (l := l) hinner identity verifier s₀.gates.length
  have hq := made_of_defaults (l := { l with trace := none }) hoverlay hidentity hverifier s₀.gates.length
  have hsame : { l with trace := none }.sourceClient overlay s₀.environment s₀.tree = .ok inner := hinner
  rw [hsame] at hq
  obtain ⟨_, _, _, hrun, -⟩ := { l with trace := none }.newClient_run s₀
  rw [hq] at hrun
  refine ⟨_, file, ⟨_, hrun⟩, hquiet, rfl, ?_⟩
  rw [hs₁]
  rfl

/-- **When the hooks of a trace are called.**  The making of a client calls none.  Over any run each find is told, in
order and with what the look-up gives; before the first find the file configuration is told, as it stands after the
readings of that look-up, and if that hook ends in a fault, so does the look-up, and its find is not told.  A look-up that
finds nothing is the one of the client without the trace, and calls nothing. -/
theorem hooks_called_at_finds {l : Loader} {trace : Trace} (htrace : trace.LeavesCalls) {s₀ s₁ : Session} {c : Client}
    (hmade : { l with trace := some trace.observed }.newClient s₀ = (.ok c, s₁)) :
    ∃ (q : Client) (file : Session → Option ConfigFile), (∃ t₁, { l with trace := none }.newClient s₀ = (.ok q, t₁)) ∧
      (∀ s, c.fileConfig s = (.ok (file s), s)) ∧ s₁.calls = s₀.calls ∧
      ∀ happenings,
        (c.replay happenings s₁).calls = s₁.calls ++ (match c.finds q happenings s₁ with
          | [] => []
          | (e, t) :: later => trace.observed.firstCalls (file t) e t ++ later.map fun find => .config find.1) ∧
        ∀ network address s, s = c.replay happenings s₁ →
          (∀ a e t, q.lookup network address s = (.ok (.found a e), t) →
            (c.lookup network address s).2.calls = s.calls ++
                (if (c.finds q happenings s₁).isEmpty then trace.observed.firstCalls (file t) e t else [.config e]) ∧
              (∀ r, (c.lookup network address s).1 = .ok r → r = .found a e) ∧
              (trace.Returns → (c.lookup network address s).1 = .ok (.found a e)) ∧
              ∀ fault, (c.finds q happenings s₁).isEmpty = true →
                (trace.observed.gotFileConfig (file t) t).1 = .error fault →
                (c.lookup network address s).1 = .error fault) ∧
          (q.find network address s = none →
            c.lookup network address s = q.lookup network address s ∧ (q.lookup network address s).2.calls = s.calls) := by
  obtain ⟨q, file, hq, hquiet, rfl, hgates⟩ := newClient_tracedBy hmade
  obtain ⟨-, remarks, hs₁⟩ := made_of_newClient hmade
  have hgate : s₁.gates[s₀.gates.length]? = some false := by
    rw [hgates]
    exact List.getElem?_concat_length
  have hstart : s₁.calls = s₀.calls := by
    rw [hs₁]
    exact Session.calls_append_remarks { s₀ with gates := s₀.gates ++ [false] } (filter_isRemark remarks)
      (if l.onDemand then [] else s₀.loaded)
  refine ⟨q, file, hq, hquiet.tells, hstart, fun happenings => ?_⟩
  obtain ⟨hcalls, hpassed⟩ := Client.calls_replay hquiet htrace happenings hgate
  refine ⟨?_, ?_⟩
  · rw [hcalls]
    cases (q.tracedBy trace.observed s₀.gates.length).finds q happenings s₁ <;> rfl
  rintro network address s rfl
  refine ⟨fun a e t hfound => ?_, fun hnone => ⟨Client.lookup_tracedBy_of_find_none hnone, hquiet.calls _ _ _⟩⟩
  rw [Bool.false_or] at hpassed
  obtain ⟨hcalls, -, hreturned, hreturns, hfault⟩ := Client.lookup_tracedBy hquiet htrace hpassed hfound
  refine ⟨?_, hreturned, hreturns, fun fault hempty => hfault fault ?_⟩
  · rw [hcalls]
    cases (q.tracedBy trace.observed s₀.gates.length).finds q happenings s₁ with
    | nil => rw [← Trace.callsFor_first]; rfl
    | cons find later => rfl
  · rw [hempty]
    rfl

/-- A trace that refuses to be told of a file configuration. -/
def refusingTrace : Trace :=
  ⟨fun _ => Act.fail .unwritable, fun _ => pure ()⟩

/-- One look-up that finds nothing, and two that find something. -/
def sampleLookups : List Happening :=
  [.lookup "tcp" "nobody", .lookup "tcp" "db1", .lookup "tcp" "other"]

theorem hooks_called_at_finds_refusing : ∃ c s₁ file e,
    refusingTrace.LeavesCalls ∧
    { sampleLoader with trace := some refusingTrace.observed }.newClient sampleSession = (.ok c, s₁) ∧
    (c.replay sampleLookups s₁).calls = [.fileConfig file, .config e] ∧ e.address = "other:2022".toList := by
  have hleaves : refusingTrace.LeavesCalls := ⟨⟨fun _ _ => rfl, fun _ _ => rfl⟩, fun _ _ => rfl, fun _ _ => rfl⟩
  obtain ⟨c, s₁, hmade⟩ := Act.exists_of_run_isOk
    (a := { sampleLoader with trace := some refusingTrace.observed }.newClient) (s := sampleSession) (by decide +kernel)
  obtain ⟨q, file, ⟨t₁, hq⟩, -, hstart, hrun⟩ := hooks_called_at_finds hleaves hmade
  have hfinds : (({ sampleLoader with trace := some refusingTrace.observed }.newClient sampleSession).1.toOption.bind
      fun c => ({ sampleLoader with trace := none }.newClient sampleSession).1.toOption.map fun q =>
        (c.finds q sampleLookups ({ sampleLoader with trace := some refusingTrace.observed }.newClient
          sampleSession).2).map fun find : Effective × Session => find.1.address) = some ["db1:2022".toList, "other:2022".toList] := by
    decide +kernel
  rw [hmade, hq] at hfinds
  simp only [Except.toOption, Option.bind_some, Option.map_some, Option.some.injEq] at hfinds
  obtain ⟨⟨e₁, t₁⟩, later, hfinds, -, hlater⟩ := List.map_eq_cons_iff.1 hfinds
  obtain ⟨⟨e₂, t₂⟩, rest, rfl, haddress, hrest⟩ := List.map_eq_cons_iff.1 hlater
  obtain rfl := List.map_eq_nil_iff.1 hrest
  have hcalls := (hrun sampleLookups).1
  rw [hfinds, hstart] at hcalls
  exact ⟨c, s₁, file t₁, e₂, hleaves, hmade, hcalls, haddress⟩

end Loader

end SshConfig
