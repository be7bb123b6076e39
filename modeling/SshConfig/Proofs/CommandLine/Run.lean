import SshConfig.CommandLine.Run
import SshConfig.Proofs.Effective.Report
import SshConfig.Proofs.Loader.Agree
import SshConfig.Proofs.Loader.Entries
/-!
# Run — what a run shows, and how it ends

A run makes its client (`makeClient`) and prints a line for each host that is found, until a look-up finds nothing.  What
it leaves in the journal besides remarks is one list, `shown`: at each find its event and then its line, and before the
first of them the event of the files.  The invariant of the loop is that the gate of the trace has been passed exactly if
something was found (`printAll_run`).
-/
namespace SshConfig
namespace CommandLine

/-! ## One host -/

/-- What the line of a host says. -/
def report (host : Text) (e : Effective) : Json :=
  .obj (("host", .str host) :: e.members)

/-- The line of a host. -/
def reportLine (host : Text) (e : Effective) : Text :=
  (report host e).codePoints.render

theorem isWritable_report (host : Text) (e : Effective) : (report host e).isWritable = e.toJson.isWritable := by
  simp [report, Effective.toJson, Json.isWritable, Json.membersWritable]

/-- **The line of a host is one line, from which its report is read back.** -/
theorem read_reportLine (host : Text) {e : Effective} (he : e.toJson.isWritable = true) :
    '\n' ∉ reportLine host e ∧ Json.read (reportLine host e) = .ok (report host e).codePoints :=
  (e.isShaped_members host).read_render (by decide) ((isWritable_report host e).trans he)

theorem hostLine_eq (host : Text) (e : Effective) : hostLine host e =
    if e.toJson.isWritable then pure (reportLine host e) else Act.fail .unwritable := by
  rw [← isWritable_report host e]
  rfl

/-- **A host's line is printed and the next one is looked up**, unless the look-up finds nothing. -/
theorem printAll_cons (client : Client) (host : Text) (rest : List Text) (s : Session) :
    printAll client (host :: rest) s = match client.lookup network host s with
      | (.error fault, t) => (.error fault, t)
      | (.ok r, t) => match r.unwrap with
        | .error fault => (.error fault, t)
        | .ok e =>
          if e.toJson.isWritable then printAll client rest (t.noted [.printed (reportLine host e)])
          else (.error .unwritable, t) := by
  rw [printAll]
  unfold Client.resolve
  rw [Act.bind_run, Act.bind_run]
  cases client.lookup network host s with
  | mk result t =>
    cases result with
    | error fault => rfl
    | ok r =>
      dsimp only
      cases r.unwrap with
      | error fault => rfl
      | ok e =>
        have hok : Act.ofExcept (Except.ok e) t = (.ok e, t) := rfl
        rw [hok]
        dsimp only
        rw [hostLine_eq]
        split <;> rfl

theorem printAll_found {client : Client} {host a : Text} {e : Effective} {s t : Session}
    (h : client.lookup network host s = (.ok (.found a e), t)) (he : e.toJson.isWritable = true) (rest : List Text) :
    printAll client (host :: rest) s = printAll client rest (t.noted [.printed (reportLine host e)]) := by
  rw [printAll_cons, h]
  exact if_pos he

theorem printAll_unfound {client : Client} {host : Text} {r : Resolution} {fault : Fault} {s t : Session}
    (h : client.lookup network host s = (.ok r, t)) (hr : r.unwrap = .error fault) (rest : List Text) :
    printAll client (host :: rest) s = (.error fault, t) := by
  rw [printAll_cons, h]
  dsimp only
  rw [hr]

/-! ## The hosts one after the other -/

/-- The queries for hosts. -/
def queries (hosts : List Text) : List (Text × Text) :=
  hosts.map fun host => (network, host)

theorem answers_cons {client : Client} {host : Text} {x : Except Fault Resolution} {s t : Session}
    (h : client.lookup network host s = (x, t)) (rest : List Text) :
    client.answers (queries (host :: rest)) s = x :: client.answers (queries rest) t := by
  have hanswers : client.answers (queries (host :: rest)) s = (client.lookup network host s).1 ::
      client.answers (queries rest) (client.lookup network host s).2 := rfl
  rw [hanswers, h]

/-- What is found before the first answer that finds nothing. -/
def leadingFinds : List (Except Fault Resolution) → List Effective
  | .ok (.found _ e) :: rest => e :: leadingFinds rest
  | _ => []

theorem exists_of_unwrap {r : Resolution} {e : Effective} (h : r.unwrap = .ok e) : ∃ a, r = .found a e := by
  cases r with
  | found a e' =>
    cases h
    exact ⟨a, rfl⟩
  | notFound a => cases h
  | failed a fault => cases h

theorem leadingFinds_of_error {r : Resolution} {fault : Fault} (h : r.unwrap = .error fault)
    (rest : List (Except Fault Resolution)) : leadingFinds (.ok r :: rest) = [] := by
  cases r with
  | found a e => cases h
  | notFound a => rfl
  | failed a f => rfl

theorem events_of_error {r : Resolution} {fault : Fault} (h : r.unwrap = .error fault) (told : Bool) (now : Nat)
    (file : Option ConfigFile) : r.events told now file = [] := by
  cases r with
  | found a e => cases h
  | notFound a => rfl
  | failed a f => rfl

/-- What the client tells of the files after it has looked up the first host. -/
def filesTold (client : Client) (hosts : List Text) (s : Session) : Option ConfigFile :=
  hosts.head?.bind fun host => (client.fileConfig (client.lookup network host s).2).1.toOption.join

theorem filesTold_cons {client : Client} {host : Text} {x : Except Fault Resolution} {file : Option ConfigFile}
    {s t : Session} (h : client.lookup network host s = (x, t)) (hfile : client.fileConfig t = (.ok file, t))
    (rest : List Text) : filesTold client (host :: rest) s = file := by
  have hhead : filesTold client (host :: rest) s =
      (client.fileConfig (client.lookup network host s).2).1.toOption.join := rfl
  rw [hhead, h, hfile]
  rfl

/-- What finds leave in the journal besides remarks; `told` if the files have been told before. -/
def shown (verbose told : Bool) (now : Nat) (file : Option ConfigFile) (finds : List (Text × Effective)) : List Note :=
  (if verbose && !told && !finds.isEmpty then [.event (Trace.fileEvent now file)] else []) ++
    finds.flatMap fun p =>
      (if verbose then [.event (Trace.configEvent now p.2)] else []) ++ [.printed (reportLine p.1 p.2)]

theorem shown_nil (verbose told : Bool) (now : Nat) (file : Option ConfigFile) :
    shown verbose told now file [] = [] := by
  simp [shown]

/-- **A find is told before its line is printed**, and the files are told no more after it. -/
theorem shown_cons (verbose told : Bool) (now : Nat) (file later : Option ConfigFile) (host : Text) (e : Effective)
    (finds : List (Text × Effective)) : shown verbose told now file ((host, e) :: finds) =
      (if verbose then Trace.findEvents told now file e else []).map Note.event ++
        .printed (reportLine host e) :: shown verbose true now later finds := by
  cases verbose <;> cases told <;> simp [shown, Trace.findEvents]

/-- The look-up comes to an answer, and what it finds can be printed. -/
def isPrintable : Except Fault Resolution → Bool
  | .ok (.found _ e) => e.toJson.isWritable
  | .ok _ => true
  | .error _ => false

/-- The look-ups up to and including the first that finds nothing come to answers that can be printed. -/
def ArePrintable (answers : List (Except Fault Resolution)) : Prop :=
  ∀ x ∈ answers.take ((leadingFinds answers).length + 1), isPrintable x = true

theorem ArePrintable.tail {a : Text} {e : Effective} {answers : List (Except Fault Resolution)}
    (h : ArePrintable (.ok (.found a e) :: answers)) : ArePrintable answers :=
  fun x hx => h x (List.mem_cons_of_mem _ hx)

theorem ArePrintable.isWritable : ∀ {answers : List (Except Fault Resolution)}, ArePrintable answers →
    ∀ e ∈ leadingFinds answers, e.toJson.isWritable = true
  | [], _, _, he => by cases he
  | .ok (.found a f) :: _, h, e, he => by
    have hfirst : isPrintable (.ok (.found a f)) = true := h _ List.mem_cons_self
    rcases List.mem_cons.1 he with rfl | he
    · exact hfirst
    · exact h.tail.isWritable e he
  | .ok (.notFound _) :: _, _, _, he => by cases he
  | .ok (.failed _ _) :: _, _, _, he => by cases he
  | .error _ :: _, _, _, he => by cases he

theorem length_leadingFinds_le : ∀ answers : List (Except Fault Resolution),
    (leadingFinds answers).length ≤ answers.length
  | [] => Nat.le_refl 0
  | .ok (.found _ _) :: rest => Nat.succ_le_succ (length_leadingFinds_le rest)
  | .ok (.notFound _) :: _ => Nat.zero_le _
  | .ok (.failed _ _) :: _ => Nat.zero_le _
  | .error _ :: _ => Nat.zero_le _

/-- **The answer after the leading finds finds nothing.** -/
theorem exists_unfound : ∀ {answers : List (Except Fault Resolution)}, ArePrintable answers →
    (leadingFinds answers).length < answers.length →
      ∃ r fault, answers[(leadingFinds answers).length]? = some (.ok r) ∧ r.unwrap = .error fault
  | [], _, h => absurd h (Nat.not_lt_zero _)
  | .ok (.found _ _) :: _, hprint, h => by
    obtain ⟨r, fault, hr, hfault⟩ := exists_unfound hprint.tail (Nat.lt_of_succ_lt_succ h)
    exact ⟨r, fault, hr, hfault⟩
  | .ok (.notFound _) :: _, _, _ => ⟨_, _, rfl, rfl⟩
  | .ok (.failed _ _) :: _, _, _ => ⟨_, _, rfl, rfl⟩
  | .error _ :: _, hprint, _ => absurd (hprint _ List.mem_cons_self) Bool.false_ne_true

theorem mem_answers {client : Client} {x : Except Fault Resolution} : ∀ {qs : List (Text × Text)} {s : Session},
    x ∈ client.answers qs s → ∃ network address t, (client.lookup network address t).1 = x
  | [], _, h => by cases h
  | q :: qs, s, h => by
    rcases List.mem_cons.1 h with rfl | h
    · exact ⟨q.1, q.2, s, rfl⟩
    · exact mem_answers h

theorem length_answers (client : Client) : ∀ (qs : List (Text × Text)) (s : Session),
    (client.answers qs s).length = qs.length
  | [], _ => rfl
  | q :: qs, s => congrArg Nat.succ (length_answers client qs (client.lookup q.1 q.2 s).2)

theorem answers_noted {client : Client} (hclient : ∀ network address, (client.lookup network address).Unheeding)
    (qs : List (Text × Text)) (s : Session) (notes : List Note) :
    client.answers qs (s.noted notes) = client.answers qs s :=
  Loader.answers_of_step (R := fun s t => s.unnoted = t.unnoted)
    (fun network address s t h => hclient network address s t h) qs rfl

/-- **What a run over hosts leaves and ends in**: the finds before the first answer that finds nothing are shown, and
that answer ends the run. -/
theorem printAll_run {client : Client} {verbose : Bool} {gate : Nat} (hclient : client.Records verbose gate) :
    ∀ (hosts : List Text) (told : Bool) {s : Session}, (verbose = true → s.gates[gate]? = some told) →
      ArePrintable (client.answers (queries hosts) s) →
      (printAll client hosts s).2.entries = s.entries ++ shown verbose told s.environment.now
          (filesTold client hosts s) (hosts.zip (leadingFinds (client.answers (queries hosts) s))) ∧
      ((leadingFinds (client.answers (queries hosts) s)).length = hosts.length →
        (printAll client hosts s).1 = .ok ()) ∧
      ∀ r fault, (client.answers (queries hosts) s)[(leadingFinds (client.answers (queries hosts) s)).length]? =
          some (.ok r) → r.unwrap = .error fault → (printAll client hosts s).1 = .error fault
  | [], told, s, _, _ => by
    refine ⟨?_, fun _ => rfl, fun r fault h => by cases h⟩
    rw [List.zip_nil_left, shown_nil, List.append_nil]
    rfl
  | host :: rest, told, s, hgate, hprint => by
    cases hlookup : client.lookup network host s with
    | mk result t =>
    rw [answers_cons hlookup] at hprint ⊢
    have hfirst := hprint result (by simp)
    cases result with
    | error fault => cases hfirst
    | ok r =>
    obtain ⟨file, hfile, hentries, hpassed, henv⟩ := hclient.lookup hgate hlookup
    cases hr : r.unwrap with
    | error fault =>
      rw [printAll_unfound hlookup hr, leadingFinds_of_error hr, List.zip_nil_right, shown_nil]
      refine ⟨?_, fun h => absurd h (Nat.succ_ne_zero _).symm, fun r' fault' hr' hfault => ?_⟩
      · rw [hentries, events_of_error hr]
        simp
      · cases hr'
        exact congrArg Except.error (Except.error.inj (hr.symm.trans hfault))
    | ok e =>
      obtain ⟨a, rfl⟩ := exists_of_unwrap hr
      have hpassed' : verbose = true → (t.noted [.printed (reportLine host e)]).gates[gate]? = some true :=
        fun h => by simpa [Resolution.isFound] using hpassed h
      have hnext := printAll_run hclient rest true hpassed'
      rw [answers_noted hclient.unheeding] at hnext
      obtain ⟨hrest, hend, hfault⟩ := hnext hprint.tail
      rw [printAll_found hlookup hfirst]
      unfold leadingFinds
      rw [List.zip_cons_cons,
        shown_cons verbose told _ _ (filesTold client rest (t.noted [.printed (reportLine host e)])),
        List.length_cons, List.length_cons, List.getElem?_cons_succ]
      refine ⟨?_, fun h => hend (Nat.succ.inj h), hfault⟩
      rw [hrest, Session.entries_printed, hentries, filesTold_cons hlookup hfile]
      simp [henv, Resolution.events]

/-- **The hosts after the first that is not found make no difference.** -/
theorem printAll_take {client : Client} (hclient : ∀ network address, (client.lookup network address).Unheeding)
    (later : List Text) : ∀ (hosts : List Text) {s : Session},
    (leadingFinds (client.answers (queries hosts) s)).length < hosts.length →
      printAll client (hosts.take ((leadingFinds (client.answers (queries hosts) s)).length + 1) ++ later) s =
        printAll client hosts s
  | [], _, h => absurd h (Nat.not_lt_zero _)
  | host :: rest, s, h => by
    cases hlookup : client.lookup network host s with
    | mk result t =>
    rw [answers_cons hlookup] at h ⊢
    cases result with
    | error fault =>
      have hnone : leadingFinds (.error fault :: client.answers (queries rest) t) = [] := rfl
      rw [hnone, List.length_nil, List.take_succ_cons, List.cons_append, printAll_cons, printAll_cons, hlookup]
    | ok r =>
      cases hr : r.unwrap with
      | error fault =>
        rw [leadingFinds_of_error hr, List.length_nil, List.take_succ_cons, List.cons_append,
          printAll_unfound hlookup hr, printAll_unfound hlookup hr]
      | ok e =>
        obtain ⟨a, rfl⟩ := exists_of_unwrap hr
        unfold leadingFinds at h ⊢
        rw [List.length_cons, List.length_cons] at h
        have hrest := printAll_take hclient later rest (s := t.noted [.printed (reportLine host e)])
        rw [answers_noted hclient] at hrest
        rw [List.length_cons, List.take_succ_cons, List.cons_append, printAll_cons, printAll_cons, hlookup]
        dsimp only
        rw [hr]
        dsimp only
        rw [hrest (Nat.lt_of_succ_lt_succ h)]

/-! ## The client of a run -/

/-- The client of a call: that of its loader, unless an argument is lost. -/
def makeClient (a : Arguments) (l : Loader) : Act Client :=
  match beforeLost a.options with
  | some options => do
    let _ ← Act.readOptions options
    Act.fail .missingPart
  | none =>
    if a.configFile = some .lost then do
      loseFile l
      Act.fail .wrongType
    else l.newClient

/-- A lost configuration file ends the run. -/
theorem exists_loseFile (l : Loader) (s : Session) : ∃ fault t, loseFile l s = (.error fault, t) := by
  unfold loseFile
  split
  · rw [Act.bind_run]
    cases l.newClient s with
    | mk result t => cases result <;> exact ⟨_, _, rfl⟩
  · rw [Act.bind_run]
    cases Act.readOptions l.options s with
    | mk result t => cases result <;> exact ⟨_, _, rfl⟩

/-- **A run makes its client and prints the lines of its hosts.** -/
theorem run_eq (a : Arguments) (system : Text) : run a system =
    loader a system >>= fun l => makeClient a l >>= fun client => printAll client a.hosts := by
  funext s
  unfold run makeClient
  rw [Act.bind_run, Act.bind_run]
  cases loader a system s with
  | mk result t =>
    cases result with
    | error fault => rfl
    | ok l =>
      dsimp only
      cases beforeLost a.options with
      | some options =>
        dsimp only
        rw [Act.bind_run, Act.bind_run, Act.bind_run]
        cases Act.readOptions options t with
        | mk result u => cases result <;> rfl
      | none =>
        dsimp only
        split
        · obtain ⟨fault, u, hlost⟩ := exists_loseFile l t
          rw [Act.bind_run, Act.bind_run, hlost]
        · rfl

theorem newClient_of_makeClient {a : Arguments} {l : Loader} {s t : Session} {client : Client}
    (h : makeClient a l s = (.ok client, t)) : l.newClient s = (.ok client, t) := by
  unfold makeClient at h
  cases hoptions : beforeLost a.options with
  | some options =>
    rw [hoptions] at h
    dsimp only at h
    rw [Act.bind_run] at h
    split at h <;> cases h
  | none =>
    rw [hoptions] at h
    by_cases hlost : a.configFile = some .lost
    · obtain ⟨fault, u, hrun⟩ := exists_loseFile l s
      simp only [hlost, if_true] at h
      rw [Act.bind_run, hrun] at h
      cases h
    · simpa only [hlost, if_false] using h

theorem leaves_of_isReading {α : Type} {act : Act α} (h : act.IsReading) : act.Leaves Session.entries := by
  intro s
  obtain ⟨remarks, hrun⟩ := h s
  rw [hrun]
  exact s.entries_of_remarks (Loader.filter_isRemark remarks) s.loaded

theorem leaves_fail {α : Type} (fault : Fault) : (Act.fail fault : Act α).Leaves Session.entries := fun _ => rfl

theorem leaves_newClient (l : Loader) : l.newClient.Leaves Session.entries := by
  intro s
  obtain ⟨remarks, gates, loaded, hrun, -⟩ := l.newClient_run s
  rw [hrun]
  exact { s with gates := gates }.entries_of_remarks (Loader.filter_isRemark remarks) loaded

theorem leaves_loseFile (l : Loader) : (loseFile l).Leaves Session.entries := by
  unfold loseFile
  split
  · exact .bind (leaves_newClient l) fun _ => leaves_fail _
  · exact .bind (leaves_of_isReading (.readOptions _)) fun _ => leaves_fail _

/-- **The making of a client leaves nothing but remarks**, whether there is one or not. -/
theorem leaves_makeClient (a : Arguments) (l : Loader) : (makeClient a l).Leaves Session.entries := by
  unfold makeClient
  cases beforeLost a.options with
  | some options => exact .bind (leaves_of_isReading (.readOptions options)) fun _ => leaves_fail _
  | none =>
    by_cases hlost : a.configFile = some .lost
    · simp only [hlost, if_true]
      exact .bind (leaves_loseFile l) fun _ => leaves_fail _
    · simp only [hlost, if_false]
      exact leaves_newClient l

/-- **The loader of a call** has the trace that the call asks for. -/
theorem loader_run {a : Arguments} {system : Text} {s : Session} {l : Loader} (h : (loader a system s).1 = .ok l) :
    loader a system s = (.ok l, s) ∧ l.trace = if a.verbose then some (Trace.recording true) else none := by
  unfold loader at h ⊢
  rw [Act.bind_run, Act.get_run] at h ⊢
  dsimp only at h ⊢
  rw [Act.bind_run] at h ⊢
  cases hhome : s.environment.homeDirectory with
  | error fault =>
    rw [hhome] at h
    cases h
  | ok home =>
    rw [hhome] at h
    cases h
    exact ⟨rfl, rfl⟩

/-! ## What is shown -/

theorem filterMap_entries {α : Type} {f : Note → Option α} (hf : ∀ r, f (.remark r) = none) (journal : List Note) :
    journal.filterMap f = (journal.filter (!·.isRemark)).filterMap f := by
  rw [List.filterMap_filter]
  refine List.filterMap_congr fun n _ => ?_
  cases n with
  | remark r => exact hf r
  | _ => rfl

/-- The line is that of an event. -/
def isRecord (line : Text) : Bool :=
  line.head? == some '\x7b'

/-- The line is the message that ends a run. -/
def isClosing (line : Text) : Bool :=
  (closing []).isPrefixOf line

theorem isClosing_closing (message : Text) : isClosing (closing message) = true :=
  List.isPrefixOf_iff_prefix.2 ⟨message, by simp [closing]⟩

theorem isRecord_closing (message : Text) : isRecord (closing message) = false := rfl

/-- The line of an event. -/
def eventLine? : Note → Option Text
  | .event e => some e.toJson.render
  | _ => none

theorem filter_filterMap_eq {f : Note → Option Text} {g : Note → Option Text} {kind : Text → Bool}
    (h : ∀ n, (f n).filter kind = g n) (journal : List Note) :
    (journal.filterMap f).filter kind = journal.filterMap g := by
  rw [List.filter_filterMap]
  exact List.filterMap_congr fun n _ => h n

theorem isRecord_line (r : Remark) : isRecord r.line = false := by
  obtain ⟨level, topic, text⟩ := r
  cases level <;> rfl

theorem isClosing_line (r : Remark) : isClosing r.line = false := by
  obtain ⟨level, topic, text⟩ := r
  cases level <;> rfl

/-- **Among the messages the records are those of the events**, if they are asked for. -/
theorem messageLine_isRecord (verbose : Bool) (n : Note) :
    (messageLine verbose n).filter isRecord = if verbose then eventLine? n else none := by
  cases n with
  | remark r =>
    have hline : messageLine verbose (.remark r) = if verbose || r.level == .warning then some r.line else none := rfl
    rw [hline]
    split <;> simp [isRecord_line, eventLine?]
  | event e => cases verbose <;> rfl
  | _ => cases verbose <;> rfl

theorem messageLine_isClosing (verbose : Bool) (n : Note) : (messageLine verbose n).filter isClosing = none := by
  cases n with
  | remark r =>
    have hline : messageLine verbose (.remark r) = if verbose || r.level == .warning then some r.line else none := rfl
    rw [hline]
    split <;> simp [isClosing_line]
  | event e => cases verbose <;> rfl
  | _ => rfl

theorem filter_isClosing (verbose : Bool) (journal : List Note) :
    (journal.filterMap (messageLine verbose)).filter isClosing = [] := by
  rw [filter_filterMap_eq (messageLine_isClosing verbose)]
  simp

/-- The events of finds: first that of the files, and then each find's own. -/
def records (now : Nat) (file : Option ConfigFile) : List Effective → List Event
  | [] => []
  | finds => Trace.fileEvent now file :: finds.map (Trace.configEvent now)

theorem printedLines_shown (verbose told : Bool) (now : Nat) (file : Option ConfigFile)
    (finds : List (Text × Effective)) :
    printedLines (shown verbose told now file finds) = finds.map fun p => reportLine p.1 p.2 := by
  have hfiles : printedLines (if verbose && !told && !finds.isEmpty then [.event (Trace.fileEvent now file)] else []) =
      [] := by
    split <;> rfl
  have hfind : ∀ p : Text × Effective, printedLines ((if verbose then [.event (Trace.configEvent now p.2)] else []) ++
      [.printed (reportLine p.1 p.2)]) = [reportLine p.1 p.2] := by
    cases verbose <;> exact fun _ => rfl
  unfold shown printedLines
  rw [List.filterMap_append, List.filterMap_flatMap, List.map_eq_flatMap]
  exact congrArg₂ (· ++ ·) hfiles (congrArg (List.flatMap · finds) (funext hfind))

theorem eventLines_shown (now : Nat) (file : Option ConfigFile) (finds : List (Text × Effective)) :
    (shown true false now file finds).filterMap eventLine? =
      (records now file (finds.map (·.2))).map fun e => e.toJson.render := by
  have hfinds : (finds.flatMap fun p => ([.event (Trace.configEvent now p.2)] ++
      [.printed (reportLine p.1 p.2)] : List Note)).filterMap eventLine? =
        finds.map fun p => (Trace.configEvent now p.2).toJson.render := by
    rw [List.filterMap_flatMap, List.map_eq_flatMap]
    rfl
  cases finds with
  | nil => rfl
  | cons p finds =>
    unfold shown records
    simp only [Bool.not_false, Bool.and_true, List.isEmpty_cons, if_true, List.filterMap_append, hfinds]
    simp [eventLine?]

section
variable (a : Arguments) (system : Text) (s : Session)

/-- **The output is what the run has printed**, however it ends. -/
theorem output_outcome : (outcome a system s).output = printedLines (run a system s).2.entries := by
  have hprinted : printedLines (run a system s).2.entries = printedLines (run a system s).2.journal :=
    (filterMap_entries (fun _ => rfl) _).symm
  rw [hprinted]
  unfold outcome
  dsimp only
  split
  · rfl
  · split <;> rfl

/-- **The records among the messages are those of the events of the run**, if they are asked for. -/
theorem records_outcome : (outcome a system s).messages.filter isRecord =
    if a.verbose then (run a system s).2.entries.filterMap eventLine? else [] := by
  have hshown : ((run a system s).2.journal.filterMap (messageLine a.verbose)).filter isRecord =
      if a.verbose then (run a system s).2.entries.filterMap eventLine? else [] := by
    rw [filter_filterMap_eq (messageLine_isRecord a.verbose)]
    unfold Session.entries
    rw [← filterMap_entries fun _ => rfl]
    split <;> simp
  unfold outcome
  dsimp only
  split
  · exact hshown
  · split
    · rw [List.filter_append, hshown, List.filter_cons_of_neg (by simp [isRecord_closing])]
      exact List.append_nil _
    · exact hshown

variable {a system s} {t : Session}

theorem outcome_of_ok (h : (run a system s).1 = .ok ()) :
    (outcome a system s).exit = .ok 0 ∧ (outcome a system s).messages.filter isClosing = [] := by
  unfold outcome
  dsimp only
  rw [h]
  exact ⟨rfl, filter_isClosing _ _⟩

theorem outcome_of_error {fault : Fault} (h : (run a system s).1 = .error fault) (hfault : fault.failsLookup = true) :
    (outcome a system s).exit = .ok 1 ∧
      (outcome a system s).messages.filter isClosing = [closing fault.message] := by
  unfold outcome
  dsimp only
  rw [h]
  dsimp only
  rw [if_pos hfault]
  refine ⟨rfl, ?_⟩
  rw [List.filter_append, filter_isClosing, List.nil_append]
  exact List.filter_cons_of_pos (isClosing_closing _)

end

section
variable {a : Arguments} {system : Text} {s t : Session} {l : Loader} (h : loader a system s = (.ok l, s))
include h

theorem run_of_client {client : Client} (hclient : makeClient a l s = (.ok client, t)) :
    run a system s = printAll client a.hosts t := by
  rw [run_eq, Act.bind_run, h]
  dsimp only
  rw [Act.bind_run, hclient]

theorem run_of_fault {fault : Fault} (hfault : makeClient a l s = (.error fault, t)) :
    run a system s = (.error fault, t) := by
  rw [run_eq, Act.bind_run, h]
  dsimp only
  rw [Act.bind_run, hfault]

end

theorem failsLookup_of_unwrap {l : Loader} {s t : Session} {client : Client} (hmade : l.newClient s = (.ok client, t))
    {qs : List (Text × Text)} {r : Resolution} {fault : Fault} (hr : .ok r ∈ client.answers qs t)
    (hfault : r.unwrap = .error fault) : fault.failsLookup = true := by
  obtain ⟨network, address, u, hlookup⟩ := mem_answers hr
  cases r with
  | found a e => cases hfault
  | notFound a =>
    cases hfault
    rfl
  | failed a f =>
    cases hfault
    exact Loader.failsLookup_of_lookup hmade hlookup

theorem entries_eq_nil {s : Session} (h : s.journal = []) : s.entries = [] := by
  unfold Session.entries
  rw [h]
  rfl

section
variable {a : Arguments} {system : Text} {s₀ s : Session} {l : Loader}
  (hl : (loader a system s₀).1 = .ok l) (hs₀ : s₀.journal = [])
include hl

include hs₀ in
/-- **What a run with a client leaves and ends in.** -/
theorem run_of_answers {client : Client} (hclient : makeClient a l s₀ = (.ok client, s))
    (hprint : ArePrintable (client.answers (queries a.hosts) s)) :
    (run a system s₀).2.entries = shown a.verbose false s₀.environment.now (filesTold client a.hosts s)
        (a.hosts.zip (leadingFinds (client.answers (queries a.hosts) s))) ∧
      ((leadingFinds (client.answers (queries a.hosts) s)).length = a.hosts.length →
        (run a system s₀).1 = .ok ()) ∧
      ∀ r fault, (client.answers (queries a.hosts) s)[(leadingFinds (client.answers (queries a.hosts) s)).length]? =
          some (.ok r) → r.unwrap = .error fault → (run a system s₀).1 = .error fault := by
  obtain ⟨hloader, htrace⟩ := loader_run hl
  obtain ⟨hrecords, hstart, henv, hgate⟩ := Loader.records_of_newClient htrace (newClient_of_makeClient hclient)
  have hrun := printAll_run hrecords a.hosts false hgate hprint
  rwa [← run_of_client hloader hclient, hstart, entries_eq_nil hs₀, List.nil_append, henv] at hrun

/-- **The hosts after the first that is not found make no difference** to a run. -/
theorem run_take {client : Client} (hclient : makeClient a l s₀ = (.ok client, s))
    (hfew : (leadingFinds (client.answers (queries a.hosts) s)).length < a.hosts.length) (later : List Text) :
    run { a with hosts := a.hosts.take ((leadingFinds (client.answers (queries a.hosts) s)).length + 1) ++ later }
      system s₀ = run a system s₀ := by
  obtain ⟨hloader, htrace⟩ := loader_run hl
  obtain ⟨hrecords, -⟩ := Loader.records_of_newClient htrace (newClient_of_makeClient hclient)
  -- neither the loader nor the client depends on the hosts
  have hlater : ∀ hosts, run { a with hosts := hosts } system s₀ = printAll client hosts s := fun hosts =>
    run_of_client (a := { a with hosts := hosts }) hloader hclient
  rw [hlater, run_of_client hloader hclient]
  exact printAll_take hrecords.unheeding later a.hosts hfew

include hs₀ in
/-- **A run that gets no client** prints nothing, and fails with a message if the fault is one of the configuration or of
the system. -/
theorem outcome_of_no_client {fault : Fault} (hfault : makeClient a l s₀ = (.error fault, s))
    (hfails : fault.failsLookup = true) : (outcome a system s₀).output = [] ∧ (outcome a system s₀).exit = .ok 1 ∧
      (outcome a system s₀).messages.filter isClosing = [closing fault.message] := by
  have hrun := run_of_fault (loader_run hl).1 hfault
  have hstart := leaves_makeClient a l s₀
  rw [hfault, entries_eq_nil hs₀] at hstart
  refine ⟨?_, outcome_of_error (congrArg Prod.fst hrun) hfails⟩
  rw [output_outcome, hrun]
  exact congrArg printedLines hstart

end

/-- **What a run shows, and how it ends.**  The output is one line for each leading host that is found, from which its
report is read back.  The records are that of the files and one of each find, in the order of the hosts, if they are
asked for and anything is found.  The run succeeds if all hosts are found; else it ends in one message, on the first
that is not, whatever hosts come after it.  A run that gets no client prints nothing and fails. -/
theorem outcome_of_run {a : Arguments} {system : Text} {s₀ : Session} {l : Loader} (hs₀ : s₀.journal = [])
    (hl : (loader a system s₀).1 = .ok l) :
    (∀ client s, makeClient a l s₀ = (.ok client, s) → ArePrintable (client.answers (queries a.hosts) s) →
      let finds := leadingFinds (client.answers (queries a.hosts) s)
      let o := outcome a system s₀
      o.output.length = finds.length ∧ o.output = (a.hosts.zip finds).map (fun p => reportLine p.1 p.2) ∧
      (∀ p ∈ a.hosts.zip finds, '\n' ∉ reportLine p.1 p.2 ∧
        Json.read (reportLine p.1 p.2) = .ok (report p.1 p.2).codePoints) ∧
      o.messages.filter isRecord = (if a.verbose then records s₀.environment.now (filesTold client a.hosts s) finds
        else []).map (fun e => e.toJson.render) ∧
      (finds.length = a.hosts.length → o.exit = .ok 0 ∧ o.messages.filter isClosing = []) ∧
      (finds.length < a.hosts.length → ∃ r fault,
        (client.answers (queries a.hosts) s)[finds.length]? = some (.ok r) ∧ r.unwrap = .error fault ∧
        o.exit = .ok 1 ∧ o.messages.filter isClosing = [closing fault.message] ∧
        ∀ later, run { a with hosts := a.hosts.take (finds.length + 1) ++ later } system s₀ = run a system s₀)) ∧
    ∀ fault s, makeClient a l s₀ = (.error fault, s) → fault.failsLookup = true →
      (outcome a system s₀).output = [] ∧ (outcome a system s₀).exit = .ok 1 ∧
        (outcome a system s₀).messages.filter isClosing = [closing fault.message] := by
  constructor
  · intro client s hclient hprint finds o
    obtain ⟨hshown, hend, hfault⟩ := run_of_answers hl hs₀ hclient hprint
    have hanswers : (client.answers (queries a.hosts) s).length = a.hosts.length := by
      rw [length_answers, queries, List.length_map]
    have hlength : finds.length ≤ a.hosts.length := hanswers ▸ length_leadingFinds_le _
    have houtput : o.output = (a.hosts.zip finds).map fun p => reportLine p.1 p.2 := by
      refine (output_outcome a system s₀).trans ?_
      rw [hshown, printedLines_shown]
    refine ⟨?_, houtput, fun p hp => read_reportLine p.1 (hprint.isWritable p.2 (List.of_mem_zip hp).2), ?_,
      fun hall => outcome_of_ok (hend hall), fun hfew => ?_⟩
    · rw [houtput, List.length_map, List.length_zip]
      exact Nat.min_eq_right hlength
    · refine (records_outcome a system s₀).trans ?_
      rw [hshown]
      cases a.verbose with
      | false => rfl
      | true =>
        refine (eventLines_shown _ _ _).trans ?_
        rw [List.map_snd_zip hlength]
        rfl
    · obtain ⟨r, fault, hr, hunfound⟩ := exists_unfound hprint (hanswers ▸ hfew)
      obtain ⟨hexit, hclosing⟩ := outcome_of_error (hfault r fault hr hunfound)
        (failsLookup_of_unwrap (newClient_of_makeClient hclient) (List.mem_of_getElem? hr) hunfound)
      exact ⟨r, fault, hr, hunfound, hexit, hclosing, run_take hl hclient hfew⟩
  · intro fault s
    exact outcome_of_no_client hl hs₀

/-- A home directory, and a file with an entry for some hosts. -/
def entrySession : Session where
  environment := { sampleEnvironment .keyless with values := [("HOME".toList, "/h".toList)] }
  tree := ⟨[(⟨false, ["own"]⟩, FileTree.file (Text.encode "Host db*\n Port 9\n"))]⟩

/-- Three hosts, of which the second has no entry. -/
def threeHosts : Arguments where
  hosts := ["db1", "nobody", "db2"]
  configFile := some (.given "own")
  verbose := true

/-- The same hosts, with an option that has no value. -/
def emptyOption : Arguments :=
  { threeHosts with options := [.given "Port"] }

theorem outcome_of_run_three_hosts :
    (∃ (r : Resolution) (fault : Fault), r.unwrap = .error fault ∧
      (outcome threeHosts "/etc" entrySession).output.length = 1 ∧
      (outcome threeHosts "/etc" entrySession).exit = .ok 1 ∧
      (outcome threeHosts "/etc" entrySession).messages.filter isClosing = [closing fault.message]) ∧
    (outcome emptyOption "/etc" entrySession).output = [] ∧ (outcome emptyOption "/etc" entrySession).exit = .ok 1 := by
  constructor
  · obtain ⟨l, hl⟩ : ∃ l, (loader threeHosts "/etc" entrySession).1 = .ok l := exists_of_isOk (by decide +kernel)
    have hfinds : ((loader threeHosts "/etc" entrySession).1.toOption.bind fun l =>
        (makeClient threeHosts l entrySession).1.toOption.map fun client =>
          let answers := client.answers (queries threeHosts.hosts) (makeClient threeHosts l entrySession).2
          ((leadingFinds answers).length, answers.all isPrintable)) = some (1, true) := by
      decide +kernel
    rw [hl] at hfinds
    obtain ⟨client, s, hclient, hfinds⟩ := Act.exists_of_map_run hfinds
    rw [hclient] at hfinds
    obtain ⟨hone, hall⟩ := Prod.mk.inj hfinds
    have hprint : ArePrintable (client.answers (queries threeHosts.hosts) s) := fun x hx =>
      List.all_eq_true.1 hall x (List.mem_of_mem_take hx)
    obtain ⟨hlength, -, -, -, -, hfault⟩ := (outcome_of_run rfl hl).1 client s hclient hprint
    obtain ⟨r, fault, -, hr, hexit, hclosing, -⟩ := hfault (hone ▸ by decide)
    exact ⟨r, fault, hr, hlength.trans hone, hexit, hclosing⟩
  · obtain ⟨l, hl⟩ : ∃ l, (loader emptyOption "/etc" entrySession).1 = .ok l := exists_of_isOk (by decide +kernel)
    have hfails : ((loader emptyOption "/etc" entrySession).1.toOption.bind fun l =>
        (Loader.faultOf? (makeClient emptyOption l entrySession).1).map Fault.failsLookup) = some true := by
      decide +kernel
    rw [hl] at hfails
    obtain ⟨fault, s, hfault, hfails⟩ := Loader.exists_of_faultOf? hfails
    obtain ⟨houtput, hexit, -⟩ := (outcome_of_run rfl hl).2 fault s hfault hfails
    exact ⟨houtput, hexit⟩

end CommandLine
end SshConfig
