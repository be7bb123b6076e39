import SshConfig.Files.FileTree
import SshConfig.Proofs.Text.Pieces
/-!
# FileTree — what stays where it is when a file is written

Writing at a place where no directory is changes no walk to that place (`walk_put`), so what is written at a path is read
there (`read_put`).  Making the directory of a path leaves it there (`hasDirectory_of_makeParent`), and once it is
there, making it again changes nothing (`makeParent_of_hasDirectory`).  It is there wherever a file can be read
(`hasDirectory_of_read`).
-/
namespace SshConfig

/-! ## The text of a path -/

namespace Text

theorem encode_append (s t : Text) : encode (s ++ t) = encode s ++ encode t :=
  List.flatMap_append

theorem length_le_length_encode : ∀ t : Text, t.length ≤ (encode t).length
  | [] => Nat.le_refl _
  | c :: t => by
    have hrest := length_le_length_encode t
    have hc : 0 < (String.utf8EncodeChar c).length := by
      rw [String.length_utf8EncodeChar]
      exact Char.utf8Size_pos c
    have hcons : encode (c :: t) = String.utf8EncodeChar c ++ encode t := rfl
    rw [hcons, List.length_append, List.length_cons]
    omega

end Text

namespace FilePath

theorem exists_join_append (x : Text) : ∀ ps : List Text, ∃ u, Text.join ['/'] (ps ++ [x]) = Text.join ['/'] ps ++ u
  | [] => ⟨x, Text.join_singleton '/' x⟩
  | [p] => ⟨'/' :: x, by
      rw [List.singleton_append, Text.join_cons_cons, Text.join_singleton, Text.join_singleton]⟩
  | p :: q :: ps => by
    obtain ⟨u, hu⟩ := exists_join_append x (q :: ps)
    refine ⟨u, ?_⟩
    rw [List.cons_append] at hu
    rw [List.cons_append, List.cons_append, Text.join_cons_cons, Text.join_cons_cons, hu, List.append_assoc,
      List.cons_append]

/-- **A path without its last component is no longer than the path.** -/
theorem length_parent_le {p : FilePath} (hparts : ∀ x ∈ p.parts, x ≠ []) (hne : p.parts ≠ []) :
    (Text.encode p.parent.text).length ≤ (Text.encode p.text).length := by
  obtain ⟨root, parts⟩ := p
  obtain ⟨ps, x, rfl⟩ := List.eq_nil_or_concat parts |>.resolve_left hne
  have hx : x ≠ [] := hparts x (by simp)
  obtain ⟨u, hu⟩ := exists_join_append x ps
  have htext : (⟨root, ps ++ [x]⟩ : FilePath).text = List.replicate root '/' ++ Text.join ['/'] (ps ++ [x]) := by
    simp [text]
  have hdrop : (ps ++ [x]).dropLast = ps := List.dropLast_concat
  rw [List.concat_eq_append, htext, parent, hdrop, text]
  split
  · have hlength : 1 ≤ (List.replicate root '/' ++ Text.join ['/'] (ps ++ [x])).length := by
      rename_i hempty
      simp only [Bool.and_eq_true, decide_eq_true_eq, List.isEmpty_iff] at hempty
      obtain ⟨-, rfl⟩ := hempty
      rw [List.nil_append, Text.join_singleton, List.length_append]
      have := List.length_pos_of_ne_nil hx
      omega
    exact le_trans hlength (Text.length_le_length_encode _)
  · rw [hu, ← List.append_assoc, Text.encode_append (_ ++ _), List.length_append]
    exact Nat.le_add_right _ _

theorem ne_nil_of_mem_ofText {t x : Text} (h : x ∈ (ofText t).parts) : x ≠ [] := by
  simp only [ofText, List.mem_filter, Bool.and_eq_true] at h
  simpa using h.2.1

end FilePath

namespace FileTree

variable {t t' : FileTree} {p : FilePath} {l : Location} {n : Node}

/-! ## Putting at a place -/

theorem node?_put_self (h : l.names.all (· == above) = false) : (t.put l n).node? l = some n := by
  unfold node? put
  rw [if_neg (by simp [h]), List.find?_cons_of_pos (by simp)]
  rfl

theorem node?_put_of_ne {k : Location} (h : k ≠ l) : (t.put l n).node? k = t.node? k := by
  have hsame : ∀ m : Location × Node, decide ((m.1 != l) = true ∧ (m.1 == k) = true) = (m.1 == k) := fun m => by
    by_cases hm : m.1 = k <;> simp [hm, h]
  unfold node? put
  rw [List.find?_cons_of_neg (by simpa using Ne.symm h), List.find?_filter]
  simp only [hsame]

/-- **No directory is at the place**: nothing, or a file. -/
def IsFree (t : FileTree) (l : Location) : Prop :=
  ∀ n, t.node? l = some n → n.content.isSome = true

theorem IsFree.not_above (h : t.IsFree l) : l.names.all (· == above) = false := by
  by_contra habove
  have hdirectory : t.node? l = some directory := if_pos (by simpa using habove)
  exact absurd (h directory hdirectory) (by decide)

theorem exists_of_walk_cons {q : Text} {qs : List Text} {k : Location} (h : t.walk k (q :: qs) = .ok l) :
    ∃ m, t.node? k = some m ∧ m.content = none ∧ m.closed = false ∧ ¬ nameLimit < (Text.encode q).length ∧
      t.walk (if q = above then up k else ⟨k.absolute, k.names ++ [q]⟩) qs = .ok l := by
  rw [walk] at h
  split at h
  · cases h
  rename_i m hm
  split at h
  · cases h
  rename_i hcontent
  split at h
  · cases h
  rename_i hclosed
  split at h
  · cases h
  rename_i hlength
  exact ⟨m, hm, by simpa using hcontent, by simpa using hclosed, hlength, h⟩

theorem walk_cons {q : Text} {k : Location} {m : Node} (hm : t.node? k = some m) (hcontent : m.content = none)
    (hclosed : m.closed = false) (hlength : ¬ nameLimit < (Text.encode q).length) (qs : List Text) :
    t.walk k (q :: qs) = t.walk (if q = above then up k else ⟨k.absolute, k.names ++ [q]⟩) qs := by
  rw [walk, hm]
  simp only [hcontent, hclosed, Option.isSome_none, Bool.false_eq_true, if_false, if_neg hlength]

/-- **Putting at a place where no directory is changes no walk there**: all places on the way are directories. -/
theorem walk_put (hl : t.IsFree l) (n : Node) : ∀ {qs : List Text} {k : Location}, t.walk k qs = .ok l →
    (t.put l n).walk k qs = .ok l
  | [], _, h => h
  | q :: qs, k, h => by
    obtain ⟨m, hm, hcontent, hclosed, hlength, h⟩ := exists_of_walk_cons h
    have hne : k ≠ l := by
      rintro rfl
      have hfile := hl m hm
      rw [hcontent] at hfile
      cases hfile
    rw [walk_cons ((node?_put_of_ne hne).trans hm) hcontent hclosed hlength]
    exact walk_put hl n h

theorem locate_put (hl : t.IsFree l) (n : Node) (h : t.locate p = .ok l) : (t.put l n).locate p = .ok l := by
  unfold locate at h ⊢
  split at h
  · cases h
  · rename_i hlength
    rw [if_neg hlength]
    exact walk_put hl n h

/-- **What is put at the place of a path is read at the path.** -/
theorem read_put (hl : t.IsFree l) (h : t.locate p = .ok l) (bs : List UInt8) :
    (t.put l (file bs)).read p = .ok bs := by
  unfold read find
  rw [locate_put hl _ h]
  simp only [node?_put_self hl.not_above]
  rfl

theorem exists_of_read {bs : List UInt8} (h : t.read p = .ok bs) :
    ∃ l n, t.locate p = .ok l ∧ t.node? l = some n ∧ n.content = some bs := by
  unfold read find at h
  split at h
  · cases h
  rename_i n hn
  split at hn
  · cases hn
  rename_i l hl
  split at hn
  · rename_i m hm
    cases hn
    split at h
    · cases h
    split at h
    · rename_i d hd
      cases h
      exact ⟨l, n, hl, hm, hd⟩
    · cases h
  · cases hn

theorem isFree_of_read {bs : List UInt8} (h : t.read p = .ok bs) : ∃ l, t.locate p = .ok l ∧ t.IsFree l := by
  obtain ⟨l, n, hl, hn, hc⟩ := exists_of_read h
  refine ⟨l, hl, fun m hm => ?_⟩
  rw [← Option.some.inj (hn.symm.trans hm), hc]
  rfl

/-! ## Directories -/

/-- **A directory is at the path.** -/
def HasDirectory (t : FileTree) (p : FilePath) : Prop :=
  ∃ l n, t.locate p = .ok l ∧ t.node? l = some n ∧ n.content = none

theorem hasDirectory_of_makeAt (hl : t.locate p = .ok l) (h : t.makeAt p l = .ok t') : t'.HasDirectory p := by
  unfold makeAt at h
  split at h
  · rename_i hnone
    cases h
    have hfree : t.IsFree l := fun n hn => by
      rw [hnone] at hn
      cases hn
    exact ⟨l, directory, locate_put hfree _ hl, node?_put_self hfree.not_above, rfl⟩
  · rename_i n hn
    split at h
    · cases h
    · rename_i hcontent
      cases h
      exact ⟨l, n, hl, hn, by simpa using hcontent⟩

theorem hasDirectory_of_makeDirectory {fuel : Nat} (h : t.makeDirectory p (fuel + 1) = .ok t') : t'.HasDirectory p := by
  rw [makeDirectory] at h
  split at h
  · split at h
    · cases h
    · split at h
      · rename_i hl
        exact hasDirectory_of_makeAt hl h
      · cases h
  · cases h
  · rename_i hl
    exact hasDirectory_of_makeAt hl h

/-- **A directory that is there is not made again.** -/
theorem makeDirectory_of_hasDirectory (h : t.HasDirectory p) (fuel : Nat) : t.makeDirectory p (fuel + 1) = .ok t := by
  obtain ⟨l, n, hl, hn, hcontent⟩ := h
  have hmake : t.makeAt p l = .ok t := by
    unfold makeAt
    rw [hn]
    simp only [hcontent, Option.isSome_none, Bool.false_eq_true, if_false]
  rw [makeDirectory, hl]
  exact hmake

theorem hasDirectory_of_makeParent (h : t.makeParent p = .ok t') : t'.HasDirectory p.parent :=
  hasDirectory_of_makeDirectory h

theorem makeParent_of_hasDirectory (h : t.HasDirectory p.parent) : t.makeParent p = .ok t :=
  makeDirectory_of_hasDirectory h p.parts.length

theorem exists_of_walk_append {x : Text} : ∀ {ps : List Text} {k : Location}, t.walk k (ps ++ [x]) = .ok l →
    ∃ j n, t.walk k ps = .ok j ∧ t.node? j = some n ∧ n.content = none
  | [], k, h => by
    obtain ⟨m, hm, hcontent, -, -, -⟩ := exists_of_walk_cons h
    exact ⟨k, m, rfl, hm, hcontent⟩
  | q :: ps, k, h => by
    obtain ⟨m, hm, hcontent, hclosed, hlength, h⟩ := exists_of_walk_cons h
    rw [walk_cons hm hcontent hclosed hlength]
    exact exists_of_walk_append h

/-- **Where a file can be read, its directory is there.** -/
theorem hasDirectory_of_read (hparts : ∀ x ∈ p.parts, x ≠ []) {bs : List UInt8} (h : t.read p = .ok bs) :
    t.HasDirectory p.parent := by
  obtain ⟨l, n, hl, hn, hc⟩ := exists_of_read h
  unfold locate at hl
  split at hl
  · cases hl
  rename_i hlength
  have hne : p.parts ≠ [] := by
    intro hnil
    rw [hnil] at hl
    cases hl
    cases hn
    cases hc
  obtain ⟨ps, x, hps⟩ := List.eq_nil_or_concat p.parts |>.resolve_left hne
  have hparent : p.parent.parts = ps := by
    rw [FilePath.parent, hps, List.concat_eq_append]
    exact List.dropLast_concat
  rw [hps, List.concat_eq_append] at hl
  obtain ⟨j, m, hj, hm, hcontent⟩ := exists_of_walk_append hl
  have hshort := FilePath.length_parent_le hparts hne
  refine ⟨j, m, ?_, hm, hcontent⟩
  unfold locate
  rw [if_neg (by omega), hparent]
  exact hj

/-- **What is written at a path is read at the path.** -/
theorem read_of_write {bs : List UInt8} (h : t.write p (file bs) = .ok t') : t'.read p = .ok bs := by
  unfold write at h
  split at h
  · cases h
  split at h
  · cases h
  rename_i u _ l hl
  split at h
  · rename_i hnone
    cases h
    exact read_put (fun n hn => by rw [hnone] at hn; cases hn) hl bs
  · rename_i old hold
    cases hfile : old.content.isSome with
    | false =>
      rw [hfile] at h
      cases h
    | true =>
      rw [hfile] at h
      cases h
      refine read_put (fun n hn => ?_) hl bs
      rw [← Option.some.inj (hold.symm.trans hn)]
      exact hfile

end FileTree
end SshConfig
