import Mathlib.Data.List.Forall2
import SshConfig.Proofs.ConfigFile.Refused
import SshConfig.Proofs.ReadsOn
import SshConfig.Proofs.Settings.OptionLine
/-!
# LaterWins — of several values the last one holds

Blocks merged in order have of each option the value that was set last (`Settings.get?_mergeAll`).  Options that are
read one after the other are such blocks: each is what it sets by itself, and it is laid on top of those before it
(`ReadsOn.ok_iff_mergeAll`).  So inline options that are appended are merged, and an option has the value that the last
of them gives it (`options_later_wins`).
-/
namespace SshConfig

namespace Keyword

theorem find?_lowerName (k : Keyword) : (all.find? fun j => j.lowerName == k.lowerName) = some k := by
  cases k <;> decide

theorem ofText?_eq_some_iff {key : Text} {k : Keyword} : ofText? key = some k ↔ Text.lower key = k.lowerName := by
  unfold ofText?
  constructor
  · intro h
    have hname := List.find?_some h
    exact (eq_of_beq hname).symm
  · intro h
    rw [h]
    exact find?_lowerName k

/-- The value, if the key has the name of the option, in any case. -/
def given? (k : Keyword) (key : Text) (value : Json) : Option Json :=
  if Text.lower key = k.lowerName then some value else none

theorem given?_of_ofText?_eq {key : Text} {k : Keyword} (h : ofText? key = some k) (value : Json) :
    k.given? key value = some value :=
  if_pos (ofText?_eq_some_iff.1 h)

theorem given?_of_ofText?_ne {key : Text} {k : Keyword} (h : ofText? key ≠ some k) (value : Json) :
    k.given? key value = none :=
  if_neg fun hname => h (ofText?_eq_some_iff.2 hname)

end Keyword

namespace Settings

/-! ## Merging -/

theorem merge_self (s : Settings) : s.merge s = s := by
  ext k : 1
  rw [get?_merge, Option.or_self]

theorem foldl_merge : ∀ (blocks : List Settings) (s : Settings), blocks.foldl merge s = s.merge (mergeAll blocks)
  | [], s => (merge_empty s).symm
  | b :: blocks, s => by
    have hall : mergeAll (b :: blocks) = b.merge (mergeAll blocks) := by
      rw [mergeAll, List.foldl_cons, foldl_merge blocks, empty_merge]
    rw [List.foldl_cons, foldl_merge blocks, hall, merge_assoc]

theorem mergeAll_cons (b : Settings) (blocks : List Settings) : mergeAll (b :: blocks) = b.merge (mergeAll blocks) := by
  rw [mergeAll, List.foldl_cons, foldl_merge, empty_merge]

/-- **Merged blocks have of each option the value that was set last.** -/
theorem get?_mergeAll (k : Keyword) : ∀ blocks : List Settings,
    (mergeAll blocks).get? k = (blocks.filterMap (·.get? k)).getLast?
  | [] => rfl
  | b :: blocks => by
    rw [mergeAll_cons, get?_merge, get?_mergeAll k blocks, List.filterMap_cons]
    cases b.get? k with
    | none => rw [Option.or_none]
    | some v => rw [List.getLast?_cons, Option.or_some]

theorem mergeAll_append (blocks others : List Settings) :
    mergeAll (blocks ++ others) = (mergeAll blocks).merge (mergeAll others) := by
  rw [mergeAll, List.foldl_append, foldl_merge]
  rfl

/-- **What is given last is what is set**, if each of the blocks has what is given to it. -/
theorem getLast?_given {α : Type} {given : α → Option Json} {k : Keyword} {l : List α} {owns : List Settings}
    (h : List.Forall₂ (fun x own => (given x).map k.kind.decode = (own.get? k).map .ok) l owns) :
    (l.filterMap given).getLast?.map k.kind.decode = ((mergeAll owns).get? k).map .ok := by
  -- decoded one by one, what is given is what the blocks have, in the same order
  have hlists : (l.filterMap given).map k.kind.decode = (owns.filterMap (·.get? k)).map .ok := by
    rw [List.map_filterMap, List.map_filterMap]
    induction h with
    | nil => rfl
    | cons hx _ ih => rw [List.filterMap_cons, List.filterMap_cons, hx, ih]
  rw [get?_mergeAll, ← List.getLast?_map, hlists, List.getLast?_map]

end Settings

/-! ## Reading one thing after the other -/

/-- **A reader that lays on top what each thing sets by itself lays on top what all of them set, merged.** -/
theorem ReadsOn.ok_iff_mergeAll {α ε : Type} {run : Nat → Settings → List α → Except ε Settings}
    {step : Nat → Settings → α → Except ε Settings} (h : ReadsOn run step) (Own : α → Settings → Prop)
    (hstep : ∀ {n s x u}, step n s x = .ok u ↔ ∃ own, Own x own ∧ u = s.merge own) :
    ∀ {l : List α} {n : Nat} {s u : Settings},
      run n s l = .ok u ↔ ∃ owns, List.Forall₂ Own l owns ∧ u = s.merge (Settings.mergeAll owns)
  | [], n, s, u => by
    simp only [h.nil, Except.ok.injEq, List.forall₂_nil_left_iff, exists_eq_left]
    exact eq_comm.trans (by rw [Settings.mergeAll, List.foldl_nil, Settings.merge_empty])
  | x :: l, n, s, u => by
    have hbind : run n s (x :: l) = .ok u ↔ ∃ c, step n s x = .ok c ∧ run (n + 1) c l = .ok u := by
      rw [h.cons]
      cases step n s x <;> simp [Except.bind]
    rw [hbind]
    constructor
    · rintro ⟨c, hc, hu⟩
      obtain ⟨own, hown, rfl⟩ := hstep.1 hc
      obtain ⟨owns, howns, rfl⟩ := (ok_iff_mergeAll h Own hstep).1 hu
      exact ⟨own :: owns, .cons hown howns, by rw [Settings.mergeAll_cons, Settings.merge_assoc]⟩
    · rintro ⟨_, hall, rfl⟩
      obtain ⟨own, owns, hown, howns, rfl⟩ := List.forall₂_cons_left_iff.1 hall
      refine ⟨s.merge own, hstep.2 ⟨own, hown, rfl⟩, (ok_iff_mergeAll h Own hstep).2 ⟨owns, howns, ?_⟩⟩
      rw [Settings.mergeAll_cons, Settings.merge_assoc]

theorem exists_mergeAll_iff {α : Type} {Own : α → Settings → Prop} {l : List α} :
    (∃ s, ∃ owns, List.Forall₂ Own l owns ∧ s = Settings.mergeAll owns) ↔ ∀ x ∈ l, ∃ own, Own x own := by
  rw [← exists_forall₂_iff]
  constructor
  · rintro ⟨_, owns, howns, -⟩
    exact ⟨owns, howns⟩
  · rintro ⟨owns, howns⟩
    exact ⟨_, owns, howns, rfl⟩

/-! ## Inline options -/

namespace Settings

/-- This is what the inline option sets by itself. -/
def OwnOf (option : Text) (own : Settings) : Prop :=
  empty.applyLine .noOptionDelimiter (Text.trim option) = .ok own

/-- The value that an inline option gives to an option. -/
def optionValue? (k : Keyword) (option : Text) : Option Json :=
  (splitLine (Text.trim option)).bind fun p => k.given? p.1 (.str p.2)

theorem given?_of_apply {key : Text} {value : Json} {own : Settings} (h : empty.apply key value = .ok own)
    (k : Keyword) : (k.given? key value).map k.kind.decode = (own.get? k).map .ok := by
  rcases apply_ok_iff.1 h with ⟨hnone, rfl⟩ | ⟨j, v, hj, hv, rfl⟩
  · rw [Keyword.given?_of_ofText?_ne (by simp [hnone])]
    rfl
  · by_cases hjk : j = k
    · subst hjk
      rw [Keyword.given?_of_ofText?_eq hj, get?_set_self, Option.map_some, hv, Option.map_some]
    · rw [Keyword.given?_of_ofText?_ne (by simp [hj, hjk]), get?_set_of_ne _ _ hjk]
      rfl

theorem OwnOf.optionValue? {option : Text} {own : Settings} (h : OwnOf option own) (k : Keyword) :
    (optionValue? k option).map k.kind.decode = (own.get? k).map .ok := by
  unfold OwnOf applyLine at h
  unfold Settings.optionValue?
  cases hsplit : splitLine (Text.trim option) with
  | none =>
    rw [hsplit] at h
    cases h
  | some p =>
    rw [hsplit] at h
    exact given?_of_apply h k

theorem applyLine_ok_iff_ownOf {s u : Settings} {option : Text} :
    s.applyLine .noOptionDelimiter (Text.trim option) = .ok u ↔ ∃ own, OwnOf option own ∧ u = s.merge own := by
  rw [applyLine_eq, map_eq_ok_iff]
  exact exists_congr fun own => and_congr_right fun _ => eq_comm

theorem ofOptions_ok_iff {options : List Text} {s : Settings} :
    ofOptions options = .ok s ↔ ∃ owns, List.Forall₂ OwnOf options owns ∧ s = mergeAll owns := by
  unfold ofOptions
  rw [readsOn_options.ok_iff_mergeAll OwnOf (mapError_eq_ok_iff.trans applyLine_ok_iff_ownOf)]
  simp only [empty_merge]

theorem ofOptions_singleton_iff {option : Text} {own : Settings} : ofOptions [option] = .ok own ↔ OwnOf option own := by
  rw [ofOptions_ok_iff]
  constructor
  · rintro ⟨_, howns, rfl⟩
    obtain ⟨own, _, hown, hnil, rfl⟩ := List.forall₂_cons_left_iff.1 howns
    rw [List.forall₂_nil_left_iff.1 hnil, mergeAll_cons, mergeAll, List.foldl_nil, merge_empty]
    exact hown
  · intro hown
    exact ⟨[own], .cons hown .nil, by rw [mergeAll_cons, mergeAll, List.foldl_nil, merge_empty]⟩

theorem exists_ofOptions_iff {options : List Text} :
    (∃ s, ofOptions options = .ok s) ↔ ∀ option ∈ options, ∃ own, ofOptions [option] = .ok own := by
  simp only [@ofOptions_ok_iff options, ofOptions_singleton_iff, exists_mergeAll_iff]

theorem ofOptions_append {earlier later : List Text} {b c : Settings} (hb : ofOptions earlier = .ok b)
    (hc : ofOptions later = .ok c) : ofOptions (earlier ++ later) = .ok (b.merge c) := by
  obtain ⟨owns, howns, rfl⟩ := ofOptions_ok_iff.1 hb
  obtain ⟨others, hothers, rfl⟩ := ofOptions_ok_iff.1 hc
  exact ofOptions_ok_iff.2 ⟨owns ++ others, List.rel_append howns hothers, (mergeAll_append owns others).symm⟩

/-- **An option has the value that the last inline option gives it**, and is unset if none does. -/
theorem getLast?_optionValue? {options : List Text} {b : Settings} (h : ofOptions options = .ok b) (k : Keyword) :
    (options.filterMap (optionValue? k)).getLast?.map k.kind.decode = (b.get? k).map .ok := by
  obtain ⟨owns, howns, rfl⟩ := ofOptions_ok_iff.1 h
  exact getLast?_given (howns.imp fun _ _ hown => hown.optionValue? k)

/-- The place of the inline option with this number. -/
def inlinePlace (n : Nat) (option : Text) : Place :=
  ⟨.str inlineSource, .int n, .str option⟩

/-- **A refusal comes from the first inline option that is refused by itself**, and for the same reason. -/
theorem exists_of_ofOptions_error {options : List Text} {r : Refusal} (h : ofOptions options = .error r) :
    ∃ before option after, options = before ++ option :: after ∧ (∃ b, ofOptions before = .ok b) ∧
      r = ⟨r.cause, inlineSource, before.length + 1, option⟩ ∧ ofOptions [option] = .error { r with number := 1 } := by
  obtain ⟨before, option, after, b, rfl, hbefore, hstep⟩ := readsOn_options.error_iff.1 h
  obtain ⟨cause, hcause, rfl⟩ := mapError_eq_error_iff.1 hstep
  -- what the options before it set has no part in why it is refused
  rw [applyLine_eq, map_eq_error_iff] at hcause
  refine ⟨before, option, after, rfl, ⟨b, hbefore⟩, by rw [Nat.add_comm], ?_⟩
  simp only [ofOptions, readOptions, hcause]

theorem ownOf_of_unsupportedKey? {option key : Text} (h : unsupportedKey? (Text.trim option) = some key) :
    OwnOf option empty := by
  unfold unsupportedKey? at h
  refine applyLine_ok_iff.2 ?_
  cases hsplit : splitLine (Text.trim option) with
  | none =>
    rw [hsplit] at h
    cases h
  | some p =>
    rw [hsplit] at h
    refine ⟨p.1, p.2, rfl, .inl ⟨?_, rfl⟩⟩
    cases hk : Keyword.ofText? p.1 with
    | none => rfl
    | some k => simp [hk] at h

/-- **An inline option of no known name has no effect.** -/
theorem ofOptions_unsupported {option : Text} (h : OwnOf option empty) {after : List Text} :
    ∀ {before : List Text} {b : Settings},
      ofOptions (before ++ option :: after) = .ok b ↔ ofOptions (before ++ after) = .ok b
  | [], b => by
    rw [List.nil_append, List.nil_append, ofOptions_cons_ok_iff]
    constructor
    · rintro ⟨own, last, hown, hlast, rfl⟩
      obtain rfl := Except.ok.inj (hown.symm.trans h)
      rwa [empty_merge]
    · intro hb
      exact ⟨empty, b, h, hb, (empty_merge b).symm⟩
  | x :: before, b => by
    simp only [List.cons_append, ofOptions_cons_ok_iff, @ofOptions_unsupported _ h after before]

end Settings

open Settings in
/-- **Of inline options the last one holds.**  Appended options are merged.  Options are accepted if each of them is by
itself, and otherwise the first one that is not is refused, as it is by itself, under its number.  An option has the
decoded value of the last text that names it, in any case; a text that names no option has no effect.  Merging is
associative, with the empty block on either side changing nothing and a block on itself neither, and merged blocks have
of each option the value that was set last. -/
theorem options_later_wins (s : Session) :
    (∀ earlier later b c, (Act.readOptions earlier s).1 = .ok b → (Act.readOptions later s).1 = .ok c →
      (Act.readOptions (earlier ++ later) s).1 = .ok (b.merge c)) ∧
    (∀ options, (∃ b, (Act.readOptions options s).1 = .ok b) ↔
      ∀ option ∈ options, ∃ b, (Act.readOptions [option] s).1 = .ok b) ∧
    (∀ options e c, (Act.readOptions options s).1 = .error (.config (.refused e c)) →
      ∃ before option after, options = before ++ option :: after ∧
        (∀ earlier ∈ before, ∃ b, (Act.readOptions [earlier] s).1 = .ok b) ∧
        (Act.readOptions [option] s).1 = .error (.config (.refused { e with place := inlinePlace 1 option } c)) ∧
        e.place = inlinePlace (before.length + 1) option) ∧
    (∀ options b, (Act.readOptions options s).1 = .ok b → ∀ k,
      (options.filterMap (optionValue? k)).getLast?.map k.kind.decode = (b.get? k).map .ok) ∧
    (∀ before option after key b, unsupportedKey? (Text.trim option) = some key →
      ((Act.readOptions (before ++ option :: after) s).1 = .ok b ↔ (Act.readOptions (before ++ after) s).1 = .ok b)) ∧
    (∀ a b c : Settings, (a.merge b).merge c = a.merge (b.merge c)) ∧
    (∀ a : Settings, empty.merge a = a ∧ a.merge empty = a ∧ a.merge a = a) ∧
    ∀ blocks k, (mergeAll blocks).get? k = (blocks.filterMap (·.get? k)).getLast? := by
  simp only [Act.readOptions_fst, mapError_eq_ok_iff]
  refine ⟨fun _ _ _ _ => ofOptions_append, fun _ => exists_ofOptions_iff, fun options e c h => ?_,
    fun _ _ => getLast?_optionValue?, fun _ _ _ _ _ h => ofOptions_unsupported (ownOf_of_unsupportedKey? h),
    merge_assoc, fun a => ⟨empty_merge a, merge_empty a, merge_self a⟩, fun blocks k => get?_mergeAll k blocks⟩
  obtain ⟨r, hr, htold⟩ := mapError_eq_error_iff.1 h
  obtain ⟨hletter, rfl, rfl⟩ := Fault.ofRefusal_eq_refused_iff.1 htold
  obtain ⟨before, option, after, rfl, hbefore, hplace, halone⟩ := exists_of_ofOptions_error hr
  refine ⟨before, option, after, rfl, exists_ofOptions_iff.1 hbefore, ?_, by rw [hplace]; rfl⟩
  rw [halone, hplace]
  exact congrArg Except.error (Fault.ofRefusal_eq_refused_iff.2 ⟨hletter, rfl, rfl⟩)

/-- Inline options that set a port and a flag. -/
def nonzeroOptions : List Text :=
  ["Port 22", "Color=red", "TCPKeepAlive yes"]

/-- Inline options that set the same to zero and to no, and a user to the empty text. -/
def zeroOptions : List Text :=
  ["pOrT = 0", "User=", "tcpkeepalive\tno"]

open Settings in
theorem options_later_wins_zero : ∃ b c : Settings, ∀ s,
    (Act.readOptions (nonzeroOptions ++ zeroOptions) s).1 = .ok (b.merge c) ∧
    (b.merge c).get? .port = some ⟨0, by decide⟩ ∧ (b.merge c).get? .tcpKeepAlive = some false ∧
    (b.merge c).get? .user = some [] ∧
    ∃ e, (Act.readOptions ["User=", "Port 70000", "User"] s).1 = .error (.config (.refused e {})) ∧
      e.place = inlinePlace 2 "Port 70000" := by
  obtain ⟨b, hb⟩ := exists_of_isOk (x := ofOptions nonzeroOptions) (by decide +kernel)
  obtain ⟨c, hc⟩ := exists_of_isOk (x := ofOptions zeroOptions) (by decide +kernel)
  refine ⟨b, c, fun s => ?_⟩
  obtain ⟨happend, -, hfirst, hlast, -⟩ := options_later_wins s
  simp only [Act.readOptions_fst, mapError_eq_ok_iff] at happend hfirst hlast ⊢
  have hboth := happend _ _ b c hb hc
  have hset : ∀ (k : Keyword) (value : Json) (v : k.Value),
      ((nonzeroOptions ++ zeroOptions).filterMap (optionValue? k)).getLast? = some value →
        k.kind.decode value = .ok v → (b.merge c).get? k = some v := by
    intro k value v hvalue hv
    have h := hlast _ _ hboth k
    rw [hvalue, Option.map_some, hv, eq_comm, Option.map_eq_some_iff] at h
    obtain ⟨w, hw, hsame⟩ := h
    rw [hw, Except.ok.inj hsame]
  refine ⟨hboth, hset .port (.str "0") _ rfl rfl, hset .tcpKeepAlive (.str "no") _ rfl rfl,
    hset .user (.str []) _ rfl rfl, ?_⟩
  have hsaid : ((ofOptions ["User=", "Port 70000", "User"]).map fun _ => ()).mapError Refusal.said =
      .error (none, "invalid value for Port (port out of range: '70000')".toList, 2, "Port 70000".toList) := by
    decide +kernel
  obtain ⟨r, -, hrefused, -, hnumber, hline⟩ := Refusal.exists_of_said hsaid
  obtain ⟨before, option, after, -, -, -, hplace⟩ := hfirst _ _ _ hrefused
  have hn : (r.number : Int) = (before.length + 1 : Nat) := Json.int.inj (congrArg Place.lineno hplace)
  have hoption : r.line = option := Json.str.inj (congrArg Place.line hplace)
  refine ⟨_, hrefused, hplace.trans ?_⟩
  rw [← hoption, hline, show before.length + 1 = 2 by omega]

end SshConfig
