import SshConfig.Keyword
/-!
# Settings — which options are set, and to what

A block of settings gives each option a value of its kind or leaves it unset.  Merging lays one block on top of another:
an option that the upper block sets has that value, any other keeps the value of the lower block.  A set value is never
taken for an unset one, not zero, not no and not the empty text.
-/
namespace SshConfig

/-- Settings: a value, or none, for each option. -/
structure Settings where
  get? : (k : Keyword) → Option k.Value

namespace Settings

/-- Nothing is set. -/
def empty : Settings :=
  ⟨fun _ => none⟩

instance : Inhabited Settings := ⟨empty⟩

/-- The settings with one option set to a value. -/
def set (s : Settings) (k : Keyword) (v : k.Value) : Settings :=
  ⟨fun j => if h : k = j then some (h ▸ v) else s.get? j⟩

/-- The settings with those of `upper` on top. -/
def merge (s upper : Settings) : Settings :=
  ⟨fun k =>
    match upper.get? k with
    | some v => some v
    | none => s.get? k⟩

/-- The blocks merged one on top of the other, the last one uppermost. -/
def mergeAll (blocks : List Settings) : Settings :=
  blocks.foldl merge empty

/-- Nothing is set. -/
def isEmpty (s : Settings) : Bool :=
  Keyword.all.all fun k => (s.get? k).isNone

/-- Both set the same options to the same values. -/
def same (s t : Settings) : Bool :=
  Keyword.all.all fun k => s.get? k == t.get? k

@[ext]
theorem ext {s t : Settings} (h : ∀ k, s.get? k = t.get? k) : s = t := by
  cases s
  cases t
  congr
  exact funext h

@[simp]
theorem get?_empty (k : Keyword) : empty.get? k = none :=
  rfl

/-- A set option has the value it was set to. -/
@[simp]
theorem get?_set_self (s : Settings) (k : Keyword) (v : k.Value) : (s.set k v).get? k = some v := by
  simp [set]

/-- Setting an option leaves the others alone. -/
theorem get?_set_of_ne (s : Settings) {k j : Keyword} (v : k.Value) (h : k ≠ j) :
    (s.set k v).get? j = s.get? j := by
  simp [set, h]

/-- A merged option has the value of the upper block, or that of the lower one. -/
theorem get?_merge (s upper : Settings) (k : Keyword) : (s.merge upper).get? k = (upper.get? k).or (s.get? k) := by
  unfold merge
  cases h : upper.get? k <;> simp [h]

end Settings
end SshConfig
