import SshConfig.Proofs.ConfigFile.Load
import SshConfig.Proofs.Settings.Interchange
import SshConfig.Settings.Registers
/-!
# Registers — named blocks of settings over many steps

What a step works out depends on the blocks that are there and on nothing else (`Registers.result_fst`), so steps that
end in a fault may be left out (`Registers.run_cons_of_error`).  Every value that a block holds was given by a step under
the name of its option and is of the option's kind (`Registers.madeOf_of_worksOut`), which each step keeps.
-/
namespace SshConfig

/-! ## What a kind takes -/

namespace Kind

/-- A value as plain data. -/
def plain : (k : Kind) → k.Value → Json
  | port, p => .int p.number
  | count, n => .int n
  | flag, b => .bool b
  | duration, d => .int d.seconds
  | text, t => .str t

/-- **What a block may hold of a kind.** -/
inductive Holds : Kind → Json → Prop where
  | port {n : Int} (hlow : 0 ≤ n) (hhigh : n ≤ 65535) : Holds .port (.int n)
  | count {n : Int} (hlow : 0 ≤ n) : Holds .count (.int n)
  | flag (b : Bool) : Holds .flag (.bool b)
  | duration {n : Int} (hlow : 0 ≤ n) : Holds .duration (.int n)
  | text (t : Text) : Holds .text (.str t)

/-- **What an option of a kind makes of a given value**: the integer that was given, which is no truth value, a flag, a
duration, or the text itself. -/
inductive Makes : Kind → Json → Json → Prop where
  | port {given : Json} {n : Int} (h : integerOf given = .ok n) : Makes .port given (.int n)
  | count {given : Json} {n : Int} (h : integerOf given = .ok n) : Makes .count given (.int n)
  | flag {given : Json} {b : Bool} (h : Flag.ofJson given = .ok b) : Makes .flag given (.bool b)
  | seconds (n : Int) : Makes .duration (.int n) (.int n)
  | spelled {t : Text} {d : Duration} (h : Duration.parse t = .ok d) : Makes .duration (.str t) (.int d.seconds)
  | text (t : Text) : Makes .text (.str t) (.str t)

theorem naturalOf_ok_iff {v : Json} {n : Nat} : naturalOf v = .ok n ↔ integerOf v = .ok (n : Int) := by
  unfold naturalOf
  cases integerOf v with
  | error fault => simp
  | ok i =>
    by_cases hi : i < 0
    · simp only [if_pos hi, reduceCtorEq, Except.ok.injEq, false_iff]
      omega
    · simp only [if_neg hi, Except.ok.injEq]
      omega

/-- **A value is decoded as what the kind makes of it**, if that is what the kind holds. -/
theorem decode_ok {k : Kind} {given : Json} {v : k.Value} (h : k.decode given = .ok v) :
    k.Holds (k.plain v) ∧ k.Makes given (k.plain v) := by
  cases k with
  | port =>
    change portOf given = .ok v at h
    unfold portOf at h
    split at h
    · rename_i n hn
      split at h
      · rename_i hmax
        cases h
        exact ⟨.port (Int.natCast_nonneg n) (Int.ofNat_le.2 hmax), .port (naturalOf_ok_iff.1 hn)⟩
      · cases h
    · cases h
  | count => exact ⟨.count (Int.natCast_nonneg _), .count (naturalOf_ok_iff.1 h)⟩
  | flag => exact ⟨.flag v, .flag h⟩
  | duration =>
    refine ⟨.duration (Int.natCast_nonneg _), ?_⟩
    change Duration.ofJson given = .ok v at h
    cases given with
    | int n =>
      simp only [Duration.ofJson] at h
      split at h
      · cases h
      · cases h
        have hn : ((n.toNat : Nat) : Int) = n := Int.toNat_of_nonneg (by omega)
        change Makes .duration (.int n) (.int (n.toNat : Nat))
        rw [hn]
        exact .seconds n
    | str t => exact .spelled h
    | _ => cases h
  | text =>
    cases given with
    | str t =>
      cases h
      exact ⟨.text _, .text _⟩
    | _ => cases h

end Kind

namespace Settings

/-- **Every value of the block was given** under the name of its option, in any case, and decoded. -/
def MadeOf (given : List (Text × Json)) (b : Settings) : Prop :=
  ∀ k v, b.get? k = some v → ∃ p ∈ given, Text.lower p.1 = k.lowerName ∧ k.kind.decode p.2 = .ok v

theorem MadeOf.mono {given more : List (Text × Json)} {b : Settings} (h : b.MadeOf given) (hsub : given ⊆ more) :
    b.MadeOf more := fun k v hv =>
  let ⟨p, hp, hgiven⟩ := h k v hv
  ⟨p, hsub hp, hgiven⟩

theorem madeOf_empty (given : List (Text × Json)) : empty.MadeOf given := fun k v hv => by cases hv

theorem MadeOf.merge {given : List (Text × Json)} {a b : Settings} (ha : a.MadeOf given) (hb : b.MadeOf given) :
    (a.merge b).MadeOf given := by
  intro k v hv
  rw [get?_merge, Option.or_eq_some_iff] at hv
  exact hv.elim (hb k v) fun h => ha k v h.2

theorem madeOf_mergeAll {given : List (Text × Json)} {blocks : List Settings} (h : ∀ b ∈ blocks, b.MadeOf given) :
    (mergeAll blocks).MadeOf given := by
  intro k v hv
  rw [get?_mergeAll] at hv
  obtain ⟨b, hb, hbv⟩ := List.mem_filterMap.1 (List.mem_of_getLast? hv)
  exact h b hb k v hbv

theorem MadeOf.set {given : List (Text × Json)} {b : Settings} (h : b.MadeOf given) {key : Text} {value : Json}
    {k : Keyword} {v : k.Value} (hk : Keyword.ofText? key = some k) (hv : k.kind.decode value = .ok v)
    (hmem : (key, value) ∈ given) : (b.set k v).MadeOf given := by
  intro j w hw
  by_cases hj : k = j
  · subst hj
    rw [get?_set_self] at hw
    cases hw
    exact ⟨(key, value), hmem, Keyword.ofText?_eq_some_iff.1 hk, hv⟩
  · rw [get?_set_of_ne _ _ hj] at hw
    exact h j w hw

theorem MadeOf.apply {given : List (Text × Json)} {b u : Settings} (h : b.MadeOf given) {key : Text} {value : Json}
    (hu : b.apply key value = .ok u) (hmem : (key, value) ∈ given) : u.MadeOf given := by
  obtain ⟨-, rfl⟩ | ⟨k, v, hk, hv, rfl⟩ := apply_ok_iff.1 hu
  · exact h
  · exact h.set hk hv hmem

theorem exists_given {α : Type} {given : α → Option Json} {l : List α} {b : Settings} {k : Keyword} {v : k.Value}
    (h : (l.filterMap given).getLast?.map k.kind.decode = (b.get? k).map .ok) (hv : b.get? k = some v) :
    ∃ x ∈ l, ∃ value, given x = some value ∧ k.kind.decode value = .ok v := by
  rw [hv, Option.map_some, Option.map_eq_some_iff] at h
  obtain ⟨value, hlast, hvalue⟩ := h
  obtain ⟨x, hx, hgiven⟩ := List.mem_filterMap.1 (List.mem_of_getLast? hlast)
  exact ⟨x, hx, value, hgiven, hvalue⟩

theorem madeOf_of_ofJson {members : List (Text × Json)} {b : Settings} (h : ofJson (.obj members) = .ok b) :
    b.MadeOf members := by
  obtain ⟨owns, howns, rfl⟩ := ofJson_ok_iff.1 h
  intro k v hv
  obtain ⟨m, hm, value, hgiven, hvalue⟩ := exists_given (getLast?_given (howns.imp fun _ _ h => h.memberValue? k)) hv
  obtain ⟨hname, -, rfl⟩ := memberValue?_eq_some_iff.1 hgiven
  exact ⟨m, hm, hname, hvalue⟩

/-- The keys and values of inline options. -/
def pairsOf (options : List Text) : List (Text × Json) :=
  options.filterMap fun option => (splitLine (Text.trim option)).map fun p => (p.1, .str p.2)

theorem madeOf_of_ofOptions {options : List Text} {b : Settings} (h : ofOptions options = .ok b) :
    b.MadeOf (pairsOf options) := by
  intro k v hv
  obtain ⟨option, hoption, value, hgiven, hvalue⟩ := exists_given (getLast?_optionValue? h k) hv
  obtain ⟨p, hsplit, hgiven⟩ := Option.bind_eq_some_iff.1 hgiven
  unfold Keyword.given? at hgiven
  split at hgiven
  · rename_i hname
    cases hgiven
    exact ⟨_, List.mem_filterMap.2 ⟨option, hoption, by rw [hsplit]; rfl⟩, hname, hvalue⟩
  · cases hgiven

end Settings

/-- The keys and values that a step brings in. -/
def Step.given : Step → List (Text × Json)
  | .set key value => [(key, value)]
  | .apply key value _ => [(key, value)]
  | .ofJson (.obj members) => members
  | .ofOptions options => Settings.pairsOf options
  | _ => []

namespace Registers

/-- The block of a name, if there is one. -/
def block? (r : Registers) (name : Text) : Option Settings :=
  (r.find? fun b => b.1 == name).map (·.2)

theorem block?_put_self (r : Registers) (name : Text) (s : Settings) : (r.put name s).block? name = some s := by
  unfold block? put
  rw [List.find?_cons_of_pos (by simp)]
  rfl

theorem block?_put_of_ne (r : Registers) {name other : Text} (s : Settings) (h : other ≠ name) :
    (r.put name s).block? other = r.block? other := by
  unfold block? put
  rw [List.find?_cons_of_neg (by simpa using Ne.symm h), List.find?_filter]
  have hsame : ∀ b : Text × Settings, ((b.1 != name) = true ∧ (b.1 == other) = true) ↔ (b.1 == other) = true := by
    intro b
    by_cases hb : b.1 = other <;> simp [hb, h]
  simp only [hsame, Bool.decide_eq_true]

/-! ## What a step works out -/

/-- The block of a name, or the fault that there is none. -/
def found (r : Registers) (name : Text) : Except Fault Settings :=
  (r.block? name).elim (.error (.unknownName name)) .ok

/-- The block that a step works out, without a session. -/
def worksOut (r : Registers) (name : Text) : Step → Except Fault Settings
  | .new => .ok Settings.empty
  | .set key value => (r.found name).bind fun b => (b.assign key value).mapError Fault.ofAssign
  | .apply key value place => (r.found name).bind fun b => (b.apply key value).mapError (Fault.ofComplaint · place)
  | .ofJson value => (Settings.ofJson value).mapError Fault.ofMergeCause
  | .ofOptions options => (Settings.ofOptions options).mapError Fault.ofRefusal
  | .merge base (.named upper) => (r.found base).bind fun lower => (r.found upper).map lower.merge
  | .merge base (.raw value) => (r.found base).bind fun _ => .error (.config (.merge (.notBlock value) {}))
  | .fold names => (names.mapM r.found).map Settings.mergeAll
  | .clone other => r.found other
  | .keep => r.found name

theorem block_run (r : Registers) (name : Text) (s : Session) : r.block name s = (r.found name, s) := by
  unfold block found block?
  cases r.find? fun b => b.1 == name <;> rfl

theorem blocks_run (r : Registers) : ∀ (names : List Text) (s : Session), r.blocks names s = (names.mapM r.found, s)
  | [], s => rfl
  | name :: rest, s => by
    rw [blocks, Act.bind_run, block_run, mapM_cons_eq]
    cases r.found name with
    | error fault => rfl
    | ok b =>
      dsimp only
      rw [Act.bind_run, blocks_run r rest]
      cases rest.mapM r.found <;> rfl

theorem applyTo_fst (b : Settings) (key : Text) (value : Json) (place : Place) (s : Session) :
    (applyTo b key value place s).1 = (b.apply key value).mapError (Fault.ofComplaint · place) := by
  unfold applyTo
  cases b.apply key value with
  | error cause => rfl
  | ok t =>
    dsimp only
    split <;> rfl

/-- **A step works out the same in every session.** -/
theorem result_fst (r : Registers) (name : Text) (st : Step) (s : Session) :
    (r.result name st s).1 = r.worksOut name st := by
  cases st with
  | new => rfl
  | set key value =>
    simp only [result, worksOut]
    rw [Act.bind_run, block_run]
    cases r.found name with
    | error fault => rfl
    | ok b =>
      simp only [Except.bind]
      cases b.assign key value <;> rfl
  | apply key value place =>
    simp only [result, worksOut]
    rw [Act.bind_run, block_run]
    cases r.found name with
    | error fault => rfl
    | ok b => exact applyTo_fst b key value place s
  | ofJson value =>
    simp only [result, worksOut]
    cases Settings.ofJson value <;> rfl
  | ofOptions options => exact Act.readOptions_fst options s
  | merge base overlay =>
    cases overlay with
    | named upper =>
      simp only [result, worksOut]
      rw [Act.bind_run, block_run]
      cases r.found base with
      | error fault => rfl
      | ok lower =>
        dsimp only
        rw [Act.bind_run, block_run]
        cases r.found upper <;> rfl
    | raw value =>
      simp only [result, worksOut]
      rw [Act.bind_run, block_run]
      cases r.found base <;> rfl
  | fold names =>
    simp only [result, worksOut]
    rw [Act.bind_run, blocks_run]
    cases names.mapM r.found <;> rfl
  | clone other => rw [result, block_run, worksOut]
  | keep => rw [result, block_run, worksOut]

theorem step_fst (r : Registers) (name : Text) (st : Step) (s : Session) :
    (r.step name st s).1 = (r.worksOut name st).map (r.put name) := by
  rw [← result_fst r name st s, step, Act.bind_run]
  cases r.result name st s with
  | mk result t => cases result <;> rfl

theorem found_ok_iff {r : Registers} {name : Text} {b : Settings} : r.found name = .ok b ↔ r.block? name = some b := by
  unfold found
  cases r.block? name <;> simp

/-- **Every block was given its values.** -/
def AllMadeOf (given : List (Text × Json)) (r : Registers) : Prop :=
  ∀ name b, r.block? name = some b → b.MadeOf given

/-- **The block that a step works out is made of what the blocks were given, and of what the step brings in.** -/
theorem madeOf_of_worksOut {r : Registers} {given : List (Text × Json)} (hr : r.AllMadeOf given) {name : Text}
    {st : Step} {b : Settings} (hb : r.worksOut name st = .ok b) : b.MadeOf (given ++ st.given) := by
  have hold : ∀ {name b}, r.found name = .ok b → b.MadeOf (given ++ st.given) := fun h =>
    (hr _ _ (found_ok_iff.1 h)).mono (List.subset_append_left _ _)
  cases st with
  | new =>
    cases hb
    exact Settings.madeOf_empty _
  | set key value =>
    obtain ⟨old, hfound, hb⟩ := exists_of_bind_ok hb
    have happly : old.apply key value = .ok b := by
      unfold Settings.apply
      rw [eq_ok_of_mapError_ok hb]
    exact (hold hfound).apply happly (List.mem_append_right _ List.mem_cons_self)
  | apply key value place =>
    obtain ⟨old, hfound, hb⟩ := exists_of_bind_ok hb
    exact (hold hfound).apply (eq_ok_of_mapError_ok hb) (List.mem_append_right _ List.mem_cons_self)
  | ofJson value =>
    have hb := eq_ok_of_mapError_ok hb
    cases value with
    | obj members => exact (Settings.madeOf_of_ofJson hb).mono (List.subset_append_right _ _)
    | _ => cases hb
  | ofOptions options =>
    exact (Settings.madeOf_of_ofOptions (eq_ok_of_mapError_ok hb)).mono (List.subset_append_right _ _)
  | merge base overlay =>
    cases overlay with
    | named upper =>
      obtain ⟨lower, hlower, hb⟩ := exists_of_bind_ok hb
      obtain ⟨top, htop, rfl⟩ := exists_of_map_ok hb
      exact (hold hlower).merge (hold htop)
    | raw value =>
      obtain ⟨_, -, hb⟩ := exists_of_bind_ok hb
      cases hb
  | fold names =>
    obtain ⟨blocks, hblocks, rfl⟩ := exists_of_map_ok hb
    have hall := (mapM_ok_iff.1 hblocks).flip.imp fun block _ hfound => And.intro (hold hfound) hfound
    exact Settings.madeOf_mergeAll ((List.forall₂_and_left _ _).1 hall).1
  | clone other => exact hold hb
  | keep => exact hold hb

/-! ## Many steps -/

/-- Works a step out.  The blocks stay as they are if it ends in a fault. -/
def work (r : Registers) (p : Text × Step) : Act Registers :=
  Act.rescue (r.step p.1 p.2) fun _ => pure r

/-- Works steps out, one after the other. -/
def run (r : Registers) : List (Text × Step) → Act Registers
  | [] => pure r
  | p :: rest => do (← r.work p).run rest

/-- The blocks after a step, without a session. -/
def next (r : Registers) (p : Text × Step) : Registers :=
  match r.worksOut p.1 p.2 with
  | .ok b => r.put p.1 b
  | .error _ => r

theorem work_fst (r : Registers) (p : Text × Step) (s : Session) : (r.work p s).1 = .ok (r.next p) := by
  have hstep := r.step_fst p.1 p.2 s
  unfold work next
  rw [Act.rescue_run]
  cases hrun : r.step p.1 p.2 s with
  | mk result t =>
    rw [hrun] at hstep
    subst hstep
    cases r.worksOut p.1 p.2 <;> rfl

/-- **Steps come to the same blocks in every session.** -/
theorem run_fst : ∀ (r : Registers) (steps : List (Text × Step)) (s : Session),
    (r.run steps s).1 = .ok (steps.foldl next r)
  | r, [], s => rfl
  | r, p :: rest, s => by
    have hwork := r.work_fst p s
    rw [run, Act.bind_run]
    cases hrun : r.work p s with
    | mk result t =>
      rw [hrun] at hwork
      subst hwork
      exact run_fst (r.next p) rest t

theorem AllMadeOf.next {r : Registers} {given : List (Text × Json)} (hr : r.AllMadeOf given) (p : Text × Step) :
    (r.next p).AllMadeOf (given ++ p.2.given) := by
  have hold : r.AllMadeOf (given ++ p.2.given) := fun name b hb =>
    (hr name b hb).mono (List.subset_append_left _ _)
  unfold Registers.next
  cases hout : r.worksOut p.1 p.2 with
  | error fault => exact hold
  | ok b =>
    intro name c hc
    by_cases hname : name = p.1
    · subst hname
      rw [block?_put_self] at hc
      cases hc
      exact madeOf_of_worksOut hr hout
    · rw [block?_put_of_ne _ _ hname] at hc
      exact hold name c hc

/-- **Every run keeps it.** -/
theorem AllMadeOf.foldl_next : ∀ {r : Registers} {given : List (Text × Json)}, r.AllMadeOf given →
    ∀ steps : List (Text × Step), (steps.foldl Registers.next r).AllMadeOf (given ++ steps.flatMap (·.2.given))
  | r, given, hr, [] => by simpa using hr
  | r, given, hr, p :: rest => by
    have h := foldl_next (hr.next p) rest
    rwa [List.append_assoc] at h

/-! ## What changes -/

/-- No block is another but the one of the name, and of that no option but one. -/
def ChangesOnly (r r' : Registers) (name : Text) (k : Keyword) : Prop :=
  (∀ other, other ≠ name → r'.block? other = r.block? other) ∧
    ∃ b b', r.block? name = some b ∧ r'.block? name = some b' ∧ ∀ j, j ≠ k → b'.get? j = b.get? j

theorem changesOnly_put {r : Registers} {name : Text} {b : Settings} (hb : r.block? name = some b) (k : Keyword)
    (v : k.Value) : ChangesOnly r (r.put name (b.set k v)) name k :=
  ⟨fun _ hother => block?_put_of_ne r _ hother, b, b.set k v, hb, block?_put_self r name _, fun _ hj =>
    Settings.get?_set_of_ne b v (Ne.symm hj)⟩

/-- **All that setting an option by name can do.** -/
theorem changesOnly_of_set {r r' : Registers} {name key : Text} {value : Json} {s : Session}
    (h : (r.step name (.set key value) s).1 = .ok r') :
    ∃ k : Keyword, Text.lower key = k.lowerName ∧ ChangesOnly r r' name k := by
  rw [step_fst] at h
  obtain ⟨b', hout, rfl⟩ := exists_of_map_ok h
  obtain ⟨b, hfound, hset⟩ := exists_of_bind_ok hout
  have hassign := eq_ok_of_mapError_ok hset
  unfold Settings.assign at hassign
  cases hk : Keyword.ofText? key with
  | none =>
    rw [hk] at hassign
    cases hassign
  | some k =>
    simp only [hk] at hassign
    cases hv : k.kind.decode value with
    | error fault =>
      rw [hv] at hassign
      cases hassign
    | ok v =>
      rw [hv] at hassign
      cases hassign
      exact ⟨k, Keyword.ofText?_eq_some_iff.1 hk, changesOnly_put (found_ok_iff.1 hfound) k v⟩

/-- **All that reading an option into a block can do.** -/
theorem changesOnly_of_apply {r r' : Registers} {name key : Text} {value : Json} {place : Place} {s : Session}
    (h : (r.step name (.apply key value place) s).1 = .ok r') :
    (∃ k : Keyword, Text.lower key = k.lowerName ∧ ChangesOnly r r' name k) ∨
      (∀ k : Keyword, Text.lower key ≠ k.lowerName) ∧ ∀ other, r'.block? other = r.block? other := by
  rw [step_fst] at h
  obtain ⟨b', hout, rfl⟩ := exists_of_map_ok h
  obtain ⟨b, hfound, happly⟩ := exists_of_bind_ok hout
  have hb := found_ok_iff.1 hfound
  obtain ⟨hnone, rfl⟩ | ⟨k, v, hk, -, rfl⟩ := Settings.apply_ok_iff.1 (eq_ok_of_mapError_ok happly)
  · refine .inr ⟨fun k hk => ?_, fun other => ?_⟩
    · cases hnone.symm.trans (Keyword.ofText?_eq_some_iff.2 hk)
    · by_cases hother : other = name
      · rw [hother, block?_put_self, hb]
      · exact block?_put_of_ne r _ hother
  · exact .inl ⟨k, Keyword.ofText?_eq_some_iff.1 hk, changesOnly_put hb k v⟩

theorem next_of_error {r : Registers} {p : Text × Step} {s : Session} {fault : Fault}
    (h : (r.step p.1 p.2 s).1 = .error fault) : r.next p = r := by
  rw [step_fst, map_eq_error_iff] at h
  unfold next
  rw [h]

/-- **Blocks keep to the kinds of their options, and a fault changes none.**  Whatever steps are worked out, in any order
and with any keys and values, they come to an end, and an option that is set in a block holds a value of its kind: one
that the kind makes of a value which one of the steps gave under the option's name.  Setting an option changes that one
option of that one block at most, and so does reading one in, which changes nothing at all under a key of no option.  A
step that ends in a fault leaves every block as it was, so that the steps after it come to the same without it. -/
theorem run_keeps_kinds :
    (∀ (steps : List (Text × Step)) (s : Session), ∃ r, (run [] steps s).1 = .ok r ∧
      ∀ name b, r.block? name = some b → ∀ k v, b.get? k = some v → k.kind.Holds (k.kind.plain v) ∧
        ∃ p ∈ steps.flatMap (·.2.given), Text.lower p.1 = k.lowerName ∧ k.kind.Makes p.2 (k.kind.plain v)) ∧
    (∀ r name key value s r', (step r name (.set key value) s).1 = .ok r' →
      ∃ k : Keyword, Text.lower key = k.lowerName ∧ ChangesOnly r r' name k) ∧
    (∀ r name key value place s r', (step r name (.apply key value place) s).1 = .ok r' →
      (∃ k : Keyword, Text.lower key = k.lowerName ∧ ChangesOnly r r' name k) ∨
        (∀ k : Keyword, Text.lower key ≠ k.lowerName) ∧ ∀ other, r'.block? other = r.block? other) ∧
    ∀ r p s fault, (step r p.1 p.2 s).1 = .error fault →
      (work r p s).1 = .ok r ∧ ∀ rest t, (run r (p :: rest) t).1 = (run r rest t).1 := by
  refine ⟨fun steps s => ⟨_, run_fst [] steps s, fun name b hb k v hv => ?_⟩, fun _ _ _ _ _ _ => changesOnly_of_set,
    fun _ _ _ _ _ _ _ => changesOnly_of_apply, fun r p s fault h => ?_⟩
  · have hnone : AllMadeOf [] [] := fun name b hb => by cases hb
    obtain ⟨p, hp, hname, hdecode⟩ := hnone.foldl_next steps name b hb k v hv
    obtain ⟨hholds, hmakes⟩ := Kind.decode_ok hdecode
    exact ⟨hholds, p, hp, hname, hmakes⟩
  · have hnext := next_of_error h
    refine ⟨by rw [work_fst, hnext], fun rest t => ?_⟩
    rw [run_fst, run_fst, List.foldl_cons, hnext]

/-- Steps of every outcome: a truth value is no port, a count is not negative, and what is no block is not merged. -/
def mixedSteps : List (Text × Step) :=
  [("a", .new), ("a", .set "PORT" (.str " 2_2 ")), ("a", .set "port" (.bool true)), ("a", .apply "color" .null {}),
    ("a", .apply "ConnectionAttempts" (.int (-1)) {}), ("b", .ofOptions ["Port 7", "User=x"]), ("c", .fold ["b", "a"]),
    ("c", .merge "c" (.raw .null))]

/-- A block with nothing set, under the name `a`. -/
def oneBlock : Registers := [("a", Settings.empty)]

theorem run_keeps_kinds_mixed : ∀ s : Session,
    (∃ r, (run [] mixedSteps s).1 = .ok r ∧ ∃ b, r.block? "c" = some b ∧
      ∃ v, b.get? .port = some v ∧ Kind.port.plain v = .int 22 ∧ Kind.port.Holds (.int 22)) ∧
    (∃ r, (step oneBlock "a" (.set "PORT" (.int 22)) s).1 = .ok r ∧
      ∃ k : Keyword, Text.lower "PORT" = k.lowerName ∧ ChangesOnly oneBlock r "a" k) ∧
    (∃ r, (step oneBlock "a" (.apply "color" .null {}) s).1 = .ok r ∧
      ((∃ k : Keyword, Text.lower "color" = k.lowerName ∧ ChangesOnly oneBlock r "a" k) ∨
        (∀ k : Keyword, Text.lower "color" ≠ k.lowerName) ∧ ∀ other, r.block? other = oneBlock.block? other)) ∧
    (step oneBlock "a" (.set "port" (.bool true)) s).1 = .error (.value (.badInteger (.bool true))) ∧
      (work oneBlock ("a", .set "port" (.bool true)) s).1 = .ok oneBlock ∧
      (run oneBlock [("a", .set "port" (.bool true)), ("b", .clone "a")] s).1 =
        (run oneBlock [("b", .clone "a")] s).1 := by
  intro s
  obtain ⟨hrun, hset, happly, hfault⟩ := run_keeps_kinds
  have hport : (step oneBlock "a" (.set "PORT" (.int 22)) s).1 =
      .ok (oneBlock.put "a" (Settings.empty.set .port ⟨22, by decide⟩)) := by
    rw [step_fst]
    rfl
  have hcolor : (step oneBlock "a" (.apply "color" .null {}) s).1 = .ok oneBlock := by
    rw [step_fst]
    rfl
  have hbool : (step oneBlock "a" (.set "port" (.bool true)) s).1 = .error (.value (.badInteger (.bool true))) := by
    rw [step_fst]
    rfl
  have hleft := hfault oneBlock ("a", .set "port" (.bool true)) s _ hbool
  refine ⟨?_, ⟨_, hport, hset _ _ _ _ s _ hport⟩, ⟨_, hcolor, happly _ _ _ _ _ s _ hcolor⟩, hbool, hleft.1,
    hleft.2 _ s⟩
  obtain ⟨r, hr, hkinds⟩ := hrun mixedSteps s
  have hend := run_fst [] mixedSteps s
  rw [hr] at hend
  cases hend
  exact ⟨_, hr, _, rfl, _, rfl, rfl, (hkinds "c" _ rfl .port _ rfl).1⟩

end Registers
end SshConfig
