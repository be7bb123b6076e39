import SshConfig.Effective.Basic
import SshConfig.Proofs.Json.RoundTrip
import SshConfig.Proofs.Settings.Interchange
/-!
# Report — the report of an address as data

A report names each member once, has no fractions, and is nested four deep at most (`isShaped_members`).  So it is
written on one line, from which it is read back, unless a number in it has too many digits (`IsShaped.read_render`).
-/
namespace SshConfig

theorem Text.codePoints_injective : Function.Injective Text.codePoints :=
  List.map_injective_iff.2 fun _ _ h => Char.ext (UInt32.toNat_inj.1 h)

namespace Json

/-! ## Values of a shape -/

/-- The value is nested `n` deep at most, has no fractions, and names no member of an object twice. -/
inductive IsShaped : Nat → Json → Prop where
  | null {n : Nat} : IsShaped n .null
  | bool {n : Nat} (b : Bool) : IsShaped n (.bool b)
  | int {n : Nat} (i : Int) : IsShaped n (.int i)
  | str {n : Nat} (t : Text) : IsShaped n (.str t)
  | arr {n : Nat} {items : List Json} (h : ∀ v ∈ items, IsShaped n v) : IsShaped (n + 1) (.arr items)
  | obj {n : Nat} {members : List (Text × Json)} (hnodup : (members.map Prod.fst).Nodup)
      (h : ∀ m ∈ members, IsShaped n m.2) : IsShaped (n + 1) (.obj members)

theorem itemsCodePoints_eq : ∀ vs : List Json, itemsCodePoints vs = vs.map codePoints
  | [] => by rw [itemsCodePoints, List.map_nil]
  | v :: vs => by rw [itemsCodePoints, List.map_cons, itemsCodePoints_eq vs]

theorem membersCodePoints_eq : ∀ ms : List (Text × Json),
    membersCodePoints ms = ms.map fun m => (m.1.codePoints, m.2.codePoints)
  | [] => by rw [membersCodePoints, List.map_nil]
  | m :: ms => by rw [membersCodePoints, List.map_cons, membersCodePoints_eq ms]

theorem itemsDepth_le {σ : Type} {n : Nat} : ∀ {vs : List (Json σ)}, (∀ v ∈ vs, v.depth ≤ n) → itemsDepth vs ≤ n
  | [], _ => by
    rw [itemsDepth]
    exact Nat.zero_le n
  | v :: vs, h => by
    obtain ⟨hv, hvs⟩ := List.forall_mem_cons.1 h
    rw [itemsDepth]
    exact Nat.max_le.2 ⟨hv, itemsDepth_le hvs⟩

theorem membersDepth_le {σ : Type} {n : Nat} : ∀ {ms : List (σ × Json σ)}, (∀ m ∈ ms, m.2.depth ≤ n) →
    membersDepth ms ≤ n
  | [], _ => by
    rw [membersDepth]
    exact Nat.zero_le n
  | m :: ms, h => by
    obtain ⟨hm, hms⟩ := List.forall_mem_cons.1 h
    rw [membersDepth]
    exact Nat.max_le.2 ⟨hm, membersDepth_le hms⟩

/-- **A value of a shape is data**, unless an integer in it has too many digits. -/
theorem IsShaped.isData {n : Nat} {v : Json} (h : IsShaped n v) (hw : v.isWritable = true) : v.codePoints.IsData := by
  induction h with
  | null => exact .null
  | bool b => exact .bool b
  | int i => exact .int hw
  | str t => exact .str (Text.isText_codePoints t)
  | arr _ ih =>
    rw [codePoints, itemsCodePoints_eq]
    rw [isWritable] at hw
    refine .arr fun w hmem => ?_
    obtain ⟨v, hv, rfl⟩ := List.mem_map.1 hmem
    exact ih v hv (itemsWritable_iff.1 hw v hv)
  | @obj n members hnodup _ ih =>
    rw [codePoints, membersCodePoints_eq]
    rw [isWritable] at hw
    have hnames : (members.map fun m => (m.1.codePoints, m.2.codePoints)).map Prod.fst =
        (members.map Prod.fst).map Text.codePoints := by
      rw [List.map_map, List.map_map]
      rfl
    refine .obj ?_ (hnames ▸ hnodup.map Text.codePoints_injective) ?_
    · intro p hmem
      obtain ⟨m, -, rfl⟩ := List.mem_map.1 hmem
      exact Text.isText_codePoints m.1
    · intro p hmem
      obtain ⟨m, hm, rfl⟩ := List.mem_map.1 hmem
      exact ih m hm (membersWritable_iff.1 hw m hm)

theorem IsShaped.depth_le {n : Nat} {v : Json} (h : IsShaped n v) : v.codePoints.depth ≤ n := by
  induction h with
  | null => exact Nat.zero_le _
  | bool b => exact Nat.zero_le _
  | int i => exact Nat.zero_le _
  | str t => exact Nat.zero_le _
  | arr _ ih =>
    rw [codePoints, itemsCodePoints_eq, depth]
    refine Nat.succ_le_succ (itemsDepth_le fun w hmem => ?_)
    obtain ⟨v, hv, rfl⟩ := List.mem_map.1 hmem
    exact ih v hv
  | obj _ _ ih =>
    rw [codePoints, membersCodePoints_eq, depth]
    refine Nat.succ_le_succ (membersDepth_le fun p hmem => ?_)
    obtain ⟨m, hm, rfl⟩ := List.mem_map.1 hmem
    exact ih m hm

/-- **A value of a shape is written on one line, from which it is read back.** -/
theorem IsShaped.read_render {n : Nat} {v : Json} (h : IsShaped n v) (hn : n ≤ readDepth) (hw : v.isWritable = true) :
    '\n' ∉ v.codePoints.render ∧ read v.codePoints.render = .ok v.codePoints :=
  ⟨(h.isData hw).isAscii.not_mem_feed, Json.read_render (h.isData hw) (Nat.le_trans h.depth_le hn)⟩

theorem isShaped_texts (n : Nat) (ts : List Text) : IsShaped (n + 1) (texts ts) := by
  refine .arr fun v hv => ?_
  obtain ⟨t, -, rfl⟩ := List.mem_map.1 hv
  exact .str t

theorem isShaped_ofOption {α : Type} {n : Nat} {f : α → Json} (hf : ∀ a, IsShaped n (f a)) (a : Option α) :
    IsShaped n (ofOption f a) := by
  cases a with
  | none => exact .null
  | some a => exact hf a

end Json

open Json (IsShaped isShaped_texts isShaped_ofOption)

/-! ## The parts of a report -/

theorem Verifier.isShaped_toJson (n : Nat) (v : Verifier) : IsShaped (n + 2) v.toJson := by
  have hsingle : ∀ (name : Text) {value : Json}, IsShaped (n + 1) value → IsShaped (n + 2) (.obj [(name, value)]) := by
    intro name value hvalue
    refine .obj (List.nodup_singleton _) fun m hm => ?_
    rw [List.mem_singleton.1 hm]
    exact hvalue
  cases v with
  | acceptAny => exact hsingle _ (.bool true)
  | trusting paths store => exact hsingle _ (isShaped_texts n paths)
  | storeless paths => exact hsingle _ (isShaped_texts n paths)

theorem Identity.isShaped_toJson (n : Nat) (i : Identity) : IsShaped (n + 2) i.toJson := by
  refine .obj (show ["method".toList, "key_paths".toList].Nodup by decide) fun m hm => ?_
  simp only [List.mem_cons, List.not_mem_nil, or_false] at hm
  rcases hm with rfl | rfl
  · exact .str _
  · exact isShaped_texts n i.paths

theorem Settings.nodup_members (s : Settings) : (s.members.map Prod.fst).Nodup := by
  have hall : Keyword.all.Nodup := by decide
  unfold members
  rw [List.map_filterMap]
  refine hall.filterMap fun j k name hj hk => ?_
  simp only [Option.map_map, Option.mem_def, Option.map_eq_some_iff] at hj hk
  obtain ⟨_, _, rfl⟩ := hj
  obtain ⟨_, _, hname⟩ := hk
  have hsame : k.lowerName = j.lowerName := hname
  exact Keyword.eq_of_lower_lowerName (j.lower_lowerName.trans hsame.symm)

theorem Kind.isShaped_encode (n : Nat) (k : Kind) (v : k.Value) : IsShaped n (k.encode v) := by
  cases k with
  | duration => exact .int _
  | _ => exact .str _

theorem Settings.isShaped_toJson (n : Nat) (s : Settings) : IsShaped (n + 1) s.toJson := by
  refine .obj s.nodup_members fun m hm => ?_
  obtain ⟨k, v, -, rfl⟩ := mem_members_iff.1 hm
  exact k.kind.isShaped_encode n v

/-- **The report of an address, with the name of its host, is nested four deep at most.** -/
theorem Effective.isShaped_members (host : Text) (e : Effective) :
    IsShaped 4 (.obj (("host", .str host) :: e.members)) := by
  have hauth : IsShaped 3 (.arr (e.identities.map Identity.toJson)) := by
    refine .arr fun v hv => ?_
    obtain ⟨i, -, rfl⟩ := List.mem_map.1 hv
    exact i.isShaped_toJson 0
  refine .obj ?_ fun m hm => ?_
  · show ["host".toList, "network".toList, "address".toList, "hostname".toList, "port".toList, "user".toList,
      "keep_alive".toList, "strict_host_key_checking".toList, "host_key_verifier".toList, "auth".toList,
      "options".toList].Nodup
    decide
  · simp only [members, List.mem_cons, List.not_mem_nil, or_false] at hm
    rcases hm with rfl | rfl | rfl | rfl | rfl | rfl | rfl | rfl | rfl | rfl | rfl
    · exact .str _
    · exact .str _
    · exact .str _
    · exact .str _
    · exact .int _
    · exact isShaped_ofOption .str _
    · exact .bool _
    · exact .bool _
    · exact isShaped_ofOption (Verifier.isShaped_toJson 1) _
    · exact hauth
    · exact e.settings.isShaped_toJson 2

end SshConfig
