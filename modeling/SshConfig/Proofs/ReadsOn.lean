import Mathlib.Data.List.Forall2
import SshConfig.ConfigFile.Reader
import SshConfig.Proofs.Session
/-!
# ReadsOn — readers that take one thing after the other

Lines, inline options and members of a document are read alike: each is worked into what has been read so far, the
count goes up, and the first fault ends the reading (`ReadsOn`).  So a reading of two lists is a reading of the one and
then of the other (`ReadsOn.append`), and a fault comes from the first thing that is not accepted
(`ReadsOn.error_iff`).

Where nothing is carried from one thing to the next, a list is gone through member by member: to its end if every member
comes to an end by itself (`mapM_ok_iff`), and else to the first that does not (`mapM_error_iff`).
-/
namespace SshConfig

/-- **The reader takes one step after the other**, and ends at the first fault of a step. -/
structure ReadsOn {α β ε : Type} (run : Nat → β → List α → Except ε β) (step : Nat → β → α → Except ε β) : Prop where
  nil : ∀ n b, run n b [] = .ok b
  cons : ∀ n b x l, run n b (x :: l) = (step n b x).bind fun c => run (n + 1) c l

namespace ReadsOn

variable {α β ε : Type} {run : Nat → β → List α → Except ε β} {step : Nat → β → α → Except ε β}

theorem append (h : ReadsOn run step) : ∀ (n : Nat) (b : β) (l m : List α),
    run n b (l ++ m) = (run n b l).bind fun c => run (n + l.length) c m
  | n, b, [], m => by
    rw [h.nil]
    rfl
  | n, b, x :: l, m => by
    rw [List.cons_append, h.cons, h.cons]
    cases step n b x with
    | error e => rfl
    | ok c =>
      have ih := append h (n + 1) c l m
      rw [Nat.add_right_comm, Nat.add_assoc, ← List.length_cons (a := x)] at ih
      exact ih

/-- **A fault comes from the first thing that is not accepted.** -/
theorem error_iff (h : ReadsOn run step) {e : ε} : ∀ {l : List α} {n : Nat} {b : β},
    run n b l = .error e ↔ ∃ before x after c, l = before ++ x :: after ∧ run n b before = .ok c ∧
      step (n + before.length) c x = .error e
  | [], n, b => by simp [h.nil]
  | x :: l, n, b => by
    have hnumber : ∀ before : List α, n + 1 + before.length = n + (x :: before).length := by
      intro before
      rw [List.length_cons]
      omega
    rw [h.cons]
    cases hstep : step n b x with
    | error e' =>
      constructor
      · intro he
        cases he
        exact ⟨[], x, l, b, rfl, h.nil n b, hstep⟩
      · rintro ⟨before, y, after, c, hl, hbefore, hy⟩
        cases before with
        | nil =>
          obtain ⟨rfl, rfl⟩ := List.cons.inj hl
          rw [h.nil] at hbefore
          cases hbefore
          exact hstep.symm.trans hy
        | cons z before =>
          obtain ⟨rfl, rfl⟩ := List.cons.inj hl
          rw [h.cons, hstep] at hbefore
          cases hbefore
    | ok d =>
      refine (error_iff h (l := l)).trans ⟨?_, ?_⟩
      · rintro ⟨before, y, after, c, rfl, hbefore, hy⟩
        refine ⟨x :: before, y, after, c, rfl, ?_, hnumber before ▸ hy⟩
        rw [h.cons, hstep]
        exact hbefore
      · rintro ⟨before, y, after, c, hl, hbefore, hy⟩
        cases before with
        | nil =>
          obtain ⟨rfl, rfl⟩ := List.cons.inj hl
          rw [h.nil] at hbefore
          cases hbefore
          exact absurd (hstep.symm.trans hy) (by simp)
        | cons z before =>
          obtain ⟨rfl, rfl⟩ := List.cons.inj hl
          rw [h.cons, hstep] at hbefore
          exact ⟨before, y, after, c, rfl, hbefore, (hnumber before).symm ▸ hy⟩

end ReadsOn

theorem exists_forall₂_iff {α β : Type} {R : α → β → Prop} : ∀ {l : List α},
    (∃ m, List.Forall₂ R l m) ↔ ∀ x ∈ l, ∃ y, R x y
  | [] => by simp
  | x :: l => by
    rw [List.forall_mem_cons, ← exists_forall₂_iff]
    constructor
    · rintro ⟨_, h⟩
      obtain ⟨y, m, hy, hm, -⟩ := List.forall₂_cons_left_iff.1 h
      exact ⟨⟨y, hy⟩, m, hm⟩
    · rintro ⟨⟨y, hy⟩, m, hm⟩
      exact ⟨y :: m, .cons hy hm⟩

theorem forall₂_comp {α β γ : Type} {R : α → β → Prop} {S : β → γ → Prop} {T : α → γ → Prop}
    (hT : ∀ a b c, R a b → S b c → T a c) : ∀ {l : List α} {m : List β} {n : List γ},
      List.Forall₂ R l m → List.Forall₂ S m n → List.Forall₂ T l n
  | _, _, _, .nil, .nil => .nil
  | _, _, _, .cons hab hl, .cons hbc hm => .cons (hT _ _ _ hab hbc) (forall₂_comp hT hl hm)

theorem exists_mem_iff_of_forall₂ {α β : Type} {R : α → β → Prop} {P : α → Prop} {Q : β → Prop}
    (hPQ : ∀ a b, R a b → (P a ↔ Q b)) : ∀ {l : List α} {m : List β},
      List.Forall₂ R l m → ((∃ a ∈ l, P a) ↔ ∃ b ∈ m, Q b)
  | _, _, .nil => by simp
  | _, _, .cons hab hl => by
    rw [List.exists_mem_cons_iff, List.exists_mem_cons_iff, hPQ _ _ hab, exists_mem_iff_of_forall₂ hPQ hl]

section
variable {α β ε : Type} {f : α → Except ε β}

theorem mapM_cons_eq (f : α → Except ε β) (a : α) (l : List α) :
    (a :: l).mapM f = (f a).bind fun b => (l.mapM f).map (b :: ·) := by
  rw [List.mapM_cons]
  cases f a with
  | error e => rfl
  | ok b => cases l.mapM f <;> rfl

/-- **Going through a list comes to its end exactly if every member does by itself**, and gives what they give. -/
theorem mapM_ok_iff : ∀ {l : List α} {m : List β}, l.mapM f = .ok m ↔ List.Forall₂ (fun a b => f a = .ok b) l m
  | [], m => by
    rw [List.mapM_nil, List.forall₂_nil_left_iff]
    exact ⟨fun h => (Except.ok.inj h).symm, fun h => h ▸ rfl⟩
  | a :: l, m => by
    rw [mapM_cons_eq, List.forall₂_cons_left_iff]
    constructor
    · intro h
      obtain ⟨b, hb, h⟩ := exists_of_bind_ok h
      obtain ⟨bs, hbs, rfl⟩ := exists_of_map_ok h
      exact ⟨b, bs, hb, mapM_ok_iff.1 hbs, rfl⟩
    · rintro ⟨b, bs, hb, hbs, rfl⟩
      rw [hb, mapM_ok_iff.2 hbs]
      rfl

/-- **Otherwise it ends at the first member that does not.** -/
theorem mapM_error_iff {e : ε} : ∀ {l : List α}, l.mapM f = .error e ↔
    ∃ before a after, l = before ++ a :: after ∧ (∀ x ∈ before, ∃ b, f x = .ok b) ∧ f a = .error e
  | [] => by
    rw [List.mapM_nil]
    refine iff_of_false (fun h => by cases h) ?_
    rintro ⟨before, a, after, h, -⟩
    exact List.cons_ne_nil _ _ (List.append_eq_nil_iff.1 h.symm).2
  | a :: l => by
    rw [mapM_cons_eq, bind_eq_error_iff]
    simp only [map_eq_error_iff]
    constructor
    · rintro (h | ⟨b, hb, h⟩)
      · exact ⟨[], a, l, rfl, by simp, h⟩
      · obtain ⟨before, x, after, rfl, hbefore, hx⟩ := mapM_error_iff.1 h
        exact ⟨a :: before, x, after, rfl, List.forall_mem_cons.2 ⟨⟨b, hb⟩, hbefore⟩, hx⟩
    · rintro ⟨before, x, after, hsplit, hbefore, hx⟩
      cases before with
      | nil =>
        cases hsplit
        exact .inl hx
      | cons y before =>
        obtain ⟨rfl, rfl⟩ := List.cons.inj hsplit
        obtain ⟨⟨b, hb⟩, hbefore⟩ := List.forall_mem_cons.1 hbefore
        exact .inr ⟨b, hb, mapM_error_iff.2 ⟨before, x, after, rfl, hbefore, hx⟩⟩

end

/-! ## The readers -/

theorem Settings.readsOn_options : ReadsOn (fun n s options => readOptions n s options) fun n s option =>
    (s.applyLine .noOptionDelimiter (Text.trim option)).mapError fun cause => ⟨cause, inlineSource, n, option⟩ where
  nil _ _ := rfl
  cons n s option rest := by
    simp only [readOptions]
    cases s.applyLine .noOptionDelimiter (Text.trim option) <;> rfl

theorem ConfigFile.Progress.readsOn_lines (source : Text) :
    ReadsOn (fun n p lines => readOn source p n lines) fun n p raw =>
      (p.step n (Line.ofText (Line.strip raw))).mapError fun cause => ⟨cause, source, n, Line.strip raw⟩ where
  nil _ _ := rfl
  cons n p raw rest := by
    simp only [readOn]
    cases p.step n (Line.ofText (Line.strip raw)) <;> rfl

theorem Settings.readsOn_members : ReadsOn (fun _ => decodeMembers) fun _ s m => s.decodeMember m.1 m.2 where
  nil _ _ := rfl
  cons _ s m rest := by
    simp only [decodeMembers]
    cases s.decodeMember m.1 m.2 <;> rfl

end SshConfig
