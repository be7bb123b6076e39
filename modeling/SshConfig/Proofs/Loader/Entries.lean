import SshConfig.Proofs.Loader.Calls
/-!
# Entries — what look-ups leave in the journal, and what they make of it

Nothing that a look-up does depends on the journal (`Act.Unheeding`).  What it leaves there are remarks and, in a client
that records events, those of its find (`Client.Records`): the first find of the client's life records the configuration
of all files and then its own, a later one only its own.
-/
namespace SshConfig

variable {α β : Type}

/-- The session as if nothing had been noted. -/
def Session.unnoted (s : Session) : Session :=
  { s with journal := [] }

/-- What was noted besides remarks, in order. -/
def Session.entries (s : Session) : List Note :=
  s.journal.filter (!·.isRemark)

/-- The session with more notes in its journal. -/
def Session.noted (s : Session) (notes : List Note) : Session :=
  { s with journal := s.journal ++ notes }

namespace Session

@[simp]
theorem noted_environment (s : Session) (notes : List Note) : (s.noted notes).environment = s.environment := rfl

@[simp]
theorem noted_gates (s : Session) (notes : List Note) : (s.noted notes).gates = s.gates := rfl

theorem entries_noted (s : Session) (notes : List Note) :
    (s.noted notes).entries = s.entries ++ notes.filter (!·.isRemark) :=
  List.filter_append ..

theorem entries_gates (s : Session) (gates : List Bool) : { s with gates := gates }.entries = s.entries := rfl

@[simp]
theorem entries_event (s : Session) (e : Event) : (s.noted [.event e]).entries = s.entries ++ [.event e] :=
  entries_noted s _

@[simp]
theorem entries_printed (s : Session) (line : Text) : (s.noted [.printed line]).entries = s.entries ++ [.printed line] :=
  entries_noted s _

end Session

theorem Session.entries_of_remarks (s : Session) {notes : List Note} (h : notes.filter (!·.isRemark) = [])
    (loaded : List (Nat × ConfigFile)) :
    { s with journal := s.journal ++ notes, loaded := loaded }.entries = s.entries := by
  unfold entries
  rw [List.filter_append, h, List.append_nil]

theorem Session.seesGates_unnoted : SeesGates unnoted where
  gates h := (congrArg gates h :)
  others h gates := (congrArg (fun s : Session => { s with gates := gates }) h :)

theorem Session.eq_of_unnoted {s t : Session} (h : s.unnoted = t.unnoted) : t = { s with journal := t.journal } :=
  congrArg (fun u : Session => { u with journal := t.journal }) h.symm

/-! ## Actions that do not read the journal -/

/-- The action ends in the same and leaves the same behind, whatever was noted before. -/
def Act.Unheeding (a : Act α) : Prop :=
  a.AgreeOn Session.unnoted a

namespace Act.Unheeding

theorem of_journal {a : Act α} (h : ∀ s journal, (a s).1 = (a { s with journal := journal }).1 ∧
    (a s).2.unnoted = (a { s with journal := journal }).2.unnoted) : a.Unheeding := by
  intro s t hst
  rw [Session.eq_of_unnoted hst]
  exact h s t.journal

theorem pure (x : α) : (Pure.pure x : Act α).Unheeding :=
  fun _ _ h => ⟨rfl, h⟩

theorem bind {a : Act α} (ha : a.Unheeding) {f : α → Act β} (hf : ∀ x, (f x).Unheeding) : (a >>= f).Unheeding :=
  AgreeOn.bind ha hf

theorem runOnce {a : Act Unit} (ha : a.Unheeding) (gate : Nat) : (Act.runOnce gate a).Unheeding :=
  AgreeOn.runOnce Session.seesGates_unnoted ha gate

theorem of_isReading {a : Act α} (ha : a.IsReading) : a.Unheeding := by
  refine of_journal fun s journal => ?_
  obtain ⟨remarks, hs⟩ := ha s
  obtain ⟨more, ht⟩ := ha { s with journal := journal }
  rw [hs, ht]
  exact ⟨rfl, rfl⟩

end Act.Unheeding

namespace Loader

variable {l : Loader} {overlay : Settings} {env : Environment} {tree : FileTree} {inner : Client}

/-- **The sources of a client do not read the journal.** -/
theorem unheeding_sourceClient (h : l.sourceClient overlay env tree = .ok inner) (network address : Text) :
    (inner.resolver network address).Unheeding := by
  unfold sourceClient at h
  cases hlazy : l.onDemand with
  | true =>
    rw [hlazy, if_pos rfl, ← demanding_unmarked] at h
    cases h
    refine .of_journal fun s journal => ?_
    obtain ⟨notes, hs, -⟩ := demanding_run (fun _ => []) overlay network address 0 l.isReading_sources s
    obtain ⟨more, ht, -⟩ :=
      demanding_run (fun _ => []) overlay network address 0 l.isReading_sources { s with journal := journal }
    dsimp only
    rw [hs, ht]
    exact ⟨rfl, rfl⟩
  | false =>
    rw [hlazy, if_neg Bool.false_ne_true] at h
    obtain ⟨files, -, rfl⟩ := exists_of_map_ok h
    exact .of_isReading (Resolver.isReading_chain network address (Resolver.isReading_ofFiles files))

theorem unheeding_layers {identity : Option Identity} {verifier : Option Verifier}
    (hinner : ∀ network address, (inner.resolver network address).Unheeding) (network address : Text) :
    (layers identity verifier inner.resolver network address).Unheeding := by
  intro s t hst
  obtain ⟨hend, hafter⟩ := hinner network address s t hst
  rw [layers_run, layers_run, hend]
  exact ⟨rfl, hafter⟩

end Loader

/-! ## Recorded events -/

namespace Trace

/-- The event of a report. -/
def event (now : Nat) (type : EventType) (members : List (Text × Json)) : Event :=
  ⟨type, .int now, (Json.obj members).codePoints⟩

/-- The event of the configuration of all files. -/
def fileEvent (now : Nat) (file : Option ConfigFile) : Event :=
  event now .fileConfig ((file.map ConfigFile.members).getD [])

/-- The event of the configuration of an address. -/
def configEvent (now : Nat) (e : Effective) : Event :=
  event now .config e.members

/-- **An event is recorded, unless it has to be written and cannot be.** -/
theorem record_run (written : Bool) (type : EventType) (members : List (Text × Json)) (s : Session) :
    record written type members s =
      if written && !(event s.environment.now type members).toJson.isWritable then (.error .unwritable, s)
      else (.ok (), s.noted [.event (event s.environment.now type members)]) := by
  have hrecord : record written type members s =
      (if written && !(event s.environment.now type members).toJson.isWritable then Act.fail .unwritable
        else Act.note (.event (event s.environment.now type members))) s := rfl
  rw [hrecord]
  split <;> rfl

theorem unheeding_record (written : Bool) (type : EventType) (members : List (Text × Json)) :
    (record written type members).Unheeding := by
  refine .of_journal fun s journal => ?_
  rw [record_run, record_run]
  split
  · exact ⟨rfl, rfl⟩
  · exact ⟨rfl, rfl⟩

/-- The events of a find; `told` if the configuration of all files has been recorded before. -/
def findEvents (told : Bool) (now : Nat) (file : Option ConfigFile) (e : Effective) : List Event :=
  (if told then [] else [fileEvent now file]) ++ [configEvent now e]

theorem run_of_record {written : Bool} {type : EventType} {members : List (Text × Json)} {s t : Session}
    (h : record written type members s = (.ok (), t)) : t = s.noted [.event (event s.environment.now type members)] := by
  rw [record_run] at h
  split at h
  · cases h
  · exact (congrArg Prod.snd h).symm

end Trace

/-- The events that a trace records of an answer. -/
def Resolution.events (told : Bool) (now : Nat) (file : Option ConfigFile) : Resolution → List Event
  | .found _ e => Trace.findEvents told now file e
  | _ => []

/-- **The reports of a find that came to an end are its events**, and the gate has been passed. -/
theorem Resolver.run_of_reports {written told : Bool} {fileConfig : Act (Option ConfigFile)} {gate : Nat}
    {file : Option ConfigFile} {e : Effective} {s t : Session} (hfile : fileConfig s = (.ok file, s))
    (hgate : s.gates[gate]? = some told) (h : reports (Trace.recording written) fileConfig gate e s = (.ok (), t)) :
    t.entries = s.entries ++ (Trace.findEvents told s.environment.now file e).map Note.event ∧
      t.gates[gate]? = some true ∧ t.environment = s.environment ∧ t.loaded = s.loaded := by
  cases told with
  | true =>
    rw [reports_passed hgate] at h
    obtain rfl := Trace.run_of_record h
    exact ⟨s.entries_event _, hgate, rfl, rfl⟩
  | false =>
    rw [reports_first hfile hgate] at h
    split at h
    · rename_i x u hu
      obtain rfl := Trace.run_of_record hu
      obtain rfl := Trace.run_of_record h
      refine ⟨?_, List.getElem?_set_self (List.getElem?_eq_some_iff.1 hgate).1, rfl, rfl⟩
      rw [Session.entries_event, Session.entries_gates, Session.entries_event, List.append_assoc]
      rfl
    · cases h

namespace Client

/-- The client notes nothing but remarks and passes no gates, what was noted makes no difference to it, and what it tells
of the files depends on what is kept of them alone. -/
structure IsSilent (q : Client) (file : List (Nat × ConfigFile) → Option ConfigFile) : Prop where
  leaves : ∀ network address, (q.lookup network address).Leaves fun s => (s.entries, s.gates, s.environment)
  unheeding : ∀ network address, (q.lookup network address).Unheeding
  tells : ∀ s, q.fileConfig s = (.ok (file s.loaded), s)

/-- The client records the events of its finds, if `verbose`, behind a gate of its own, and notes nothing else but
remarks; what was noted makes no difference to it. -/
structure Records (c : Client) (verbose : Bool) (gate : Nat) : Prop where
  unheeding : ∀ network address, (c.lookup network address).Unheeding
  lookup : ∀ {told network address s t r}, (verbose = true → s.gates[gate]? = some told) →
    c.lookup network address s = (.ok r, t) → ∃ file, c.fileConfig t = (.ok file, t) ∧
      t.entries = s.entries ++ (if verbose then r.events told s.environment.now file else []).map Note.event ∧
      (verbose = true → t.gates[gate]? = some (told || r.isFound)) ∧ t.environment = s.environment

variable {q : Client} {file : List (Nat × ConfigFile) → Option ConfigFile} (hq : q.IsSilent file)
include hq

theorem IsSilent.after {network address : Text} {s t : Session} {x : Except Fault Resolution}
    (h : q.lookup network address s = (x, t)) :
    t.entries = s.entries ∧ t.gates = s.gates ∧ t.environment = s.environment := by
  have hleaves := hq.leaves network address s
  rw [h] at hleaves
  simpa only [Prod.mk.injEq] using hleaves

theorem IsSilent.unheeding_tracedBy {trace : Trace} (hfile : ∀ file, (trace.gotFileConfig file).Unheeding)
    (hconfig : ∀ e, (trace.gotConfig e).Unheeding) (gate : Nat) (network address : Text) :
    ((q.tracedBy trace gate).lookup network address).Unheeding := by
  have htells : q.fileConfig.Unheeding := .of_journal fun s journal => by
    rw [hq.tells, hq.tells]
    exact ⟨rfl, rfl⟩
  refine (hq.unheeding network address).bind fun r => ?_
  cases r with
  | found a e =>
    exact .bind (.runOnce (htells.bind hfile) gate) fun _ => .bind (hconfig e) fun _ => .pure _
  | notFound a => exact .pure _
  | failed a fault => exact .pure _

theorem IsSilent.records (gate : Nat) : q.Records false gate where
  unheeding := hq.unheeding
  lookup := by
    intro told network address s t r _ h
    obtain ⟨hentries, -, henvironment⟩ := hq.after h
    exact ⟨file t.loaded, hq.tells t, by simpa using hentries, Bool.noConfusion, henvironment⟩

/-- **A look-up that comes to an answer leaves the events of its find**, if the finds are recorded. -/
theorem IsSilent.records_tracedBy (gate : Nat) : (q.tracedBy (Trace.recording true) gate).Records true gate where
  unheeding :=
    hq.unheeding_tracedBy (fun _ => Trace.unheeding_record _ _ _) (fun _ => Trace.unheeding_record _ _ _) gate
  lookup := by
    intro told network address s t r hgate h
    refine ⟨file t.loaded, hq.tells t, ?_⟩
    cases hfind : q.find network address s with
    | none =>
      rw [lookup_tracedBy_of_find_none hfind] at h
      unfold find at hfind
      rw [h] at hfind
      obtain ⟨hentries, hgates, henvironment⟩ := hq.after h
      rw [hentries, hgates, hgate rfl]
      cases r with
      | found a e => cases hfind
      | notFound a => simp [Resolution.events, Resolution.isFound, henvironment]
      | failed a fault => simp [Resolution.events, Resolution.isFound, henvironment]
    | some find =>
      obtain ⟨e, u⟩ := find
      obtain ⟨a, hfound⟩ := exists_of_find hfind
      rw [lookup_tracedBy_of_found hfound] at h
      obtain ⟨hr, ht⟩ := Prod.mk.inj h
      obtain ⟨_, hreports, rfl⟩ := exists_of_map_ok hr
      obtain ⟨hentries, hgates, henvironment⟩ := hq.after hfound
      obtain ⟨hafter, hpassed, henv, hloaded⟩ :=
        Resolver.run_of_reports (hq.tells u) (hgates ▸ hgate rfl) (Prod.ext hreports ht)
      rw [hafter, hentries, hpassed, henv, hloaded, henvironment]
      simp [Resolution.events, Resolution.isFound]

end Client

namespace Loader

variable {l : Loader}

/-- The client of sources with the defaults on top, and no trace. -/
def bare (inner : Client) (identity : Option Identity) (verifier : Option Verifier) : Client :=
  ⟨layers identity verifier inner.resolver, inner.fileConfig⟩

theorem isSilent_bare {overlay : Settings} {env : Environment} {tree : FileTree} {inner : Client}
    (hinner : l.sourceClient overlay env tree = .ok inner) (identity : Option Identity) (verifier : Option Verifier) :
    ∃ file, (bare inner identity verifier).IsSilent file := by
  obtain ⟨file, hfile⟩ := tells_sourceClient hinner
  refine ⟨file, fun network address s => ?_, unheeding_layers (unheeding_sourceClient hinner), hfile⟩
  have hleaves : (inner.resolver network address).Leaves fun s => (s.entries, s.gates, s.environment) :=
    sourceClient_leaves (fun s _ hnotes loaded => Prod.ext (s.entries_of_remarks hnotes loaded) rfl) hinner
      network address
  have hrun := layers_run identity verifier inner.resolver network address s
  exact (congrArg (fun x => (x.2.entries, x.2.gates, x.2.environment)) hrun).trans (hleaves s)

/-- **The client of a loader whose trace, if it has one, records** does so, too; its making leaves nothing but remarks,
and a gate that has not been passed. -/
theorem records_of_newClient {verbose : Bool}
    (htrace : l.trace = if verbose then some (Trace.recording true) else none) {s₀ s₁ : Session} {c : Client}
    (hmade : l.newClient s₀ = (.ok c, s₁)) : c.Records verbose s₀.gates.length ∧
      s₁.entries = s₀.entries ∧ s₁.environment = s₀.environment ∧
      (verbose = true → s₁.gates[s₀.gates.length]? = some false) := by
  obtain ⟨hc, remarks, hs₁⟩ := made_of_newClient hmade
  obtain ⟨overlay, inner, identity, verifier, -, hinner, -, -, rfl⟩ := exists_of_made hc
  obtain ⟨file, hbare⟩ := isSilent_bare hinner identity verifier
  refine ⟨?_, ?_, by rw [hs₁], ?_⟩
  · unfold assembled
    rw [htrace]
    cases verbose with
    | false => exact hbare.records _
    | true => exact hbare.records_tracedBy _
  · rw [hs₁]
    exact { s₀ with gates := s₀.gates ++ l.newGates }.entries_of_remarks (filter_isRemark remarks) _
  · rintro rfl
    rw [hs₁]
    dsimp only
    unfold newGates
    rw [htrace]
    exact List.getElem?_concat_length

end Loader
end SshConfig
