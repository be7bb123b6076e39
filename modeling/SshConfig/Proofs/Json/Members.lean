import Mathlib.Data.List.Nodup
import SshConfig.Json.Basic
/-!
# Members — the members of an object

Of members that have no name twice, one that is set takes the place of the member of its name (`mem_put_iff`), and names
stay without a second place (`nodup_put`).  So members set one after the other on top of others leave those whose names
they do not take (`mem_putAll_iff`), and where no name is taken they only follow them (`putAll_of_nodup`).
-/
namespace SshConfig
namespace Json

variable {σ : Type} [DecidableEq σ]

theorem put_of_not_mem (v : Json σ) : ∀ {ms : List (σ × Json σ)} {k : σ},
    k ∉ ms.map Prod.fst → put ms k v = ms ++ [(k, v)]
  | [], _, _ => rfl
  | m :: ms, k, h => by
    rw [List.map_cons, List.mem_cons, not_or] at h
    rw [put, if_neg (Ne.symm h.1), put_of_not_mem v h.2, List.cons_append]

theorem map_fst_put_of_mem (v : Json σ) : ∀ {ms : List (σ × Json σ)} {k : σ},
    k ∈ ms.map Prod.fst → (put ms k v).map Prod.fst = ms.map Prod.fst
  | m :: ms, k, h => by
    rw [put]
    by_cases hk : m.1 = k
    · rw [if_pos hk, List.map_cons, List.map_cons, hk]
    · have hrest : k ∈ ms.map Prod.fst := (List.mem_cons.1 h).resolve_left (Ne.symm hk)
      rw [if_neg hk, List.map_cons, List.map_cons, map_fst_put_of_mem v hrest]

theorem nodup_put {ms : List (σ × Json σ)} (h : (ms.map Prod.fst).Nodup) (k : σ) (v : Json σ) :
    ((put ms k v).map Prod.fst).Nodup := by
  by_cases hk : k ∈ ms.map Prod.fst
  · rwa [map_fst_put_of_mem v hk]
  · rw [put_of_not_mem v hk, List.map_append]
    refine List.nodup_append.2 ⟨h, List.nodup_singleton k, fun a ha b hb hab => ?_⟩
    rw [hab, List.mem_singleton.1 hb] at ha
    exact hk ha

/-- **A member that is set takes the place of the one of its name, and of no other.** -/
theorem mem_put_iff {k n : σ} {v w : Json σ} : ∀ {ms : List (σ × Json σ)}, (ms.map Prod.fst).Nodup →
    ((n, w) ∈ put ms k v ↔ n = k ∧ w = v ∨ n ≠ k ∧ (n, w) ∈ ms)
  | [], _ => by simp [put]
  | m :: ms, h => by
    rw [List.map_cons, List.nodup_cons] at h
    rw [put]
    by_cases hk : m.1 = k
    · have hms : (n, w) ∈ ms → n ≠ k := by
        rintro hmem rfl
        exact h.1 (hk ▸ List.mem_map.2 ⟨_, hmem, rfl⟩)
      have hm : n ≠ k → (n, w) ≠ m := by
        rintro hn rfl
        exact hn hk
      rw [if_pos hk, List.mem_cons, List.mem_cons, Prod.mk.injEq]
      constructor
      · rintro (hnew | hold)
        · exact .inl hnew
        · exact .inr ⟨hms hold, .inr hold⟩
      · rintro (hnew | ⟨hn, hfirst | hold⟩)
        · exact .inl hnew
        · exact absurd hfirst (hm hn)
        · exact .inr hold
    · have hm : (n, w) = m → n ≠ k := by
        rintro rfl
        exact hk
      rw [if_neg hk, List.mem_cons, List.mem_cons, mem_put_iff h.2]
      constructor
      · rintro (hfirst | hnew | ⟨hn, hold⟩)
        · exact .inr ⟨hm hfirst, .inl hfirst⟩
        · exact .inl hnew
        · exact .inr ⟨hn, .inr hold⟩
      · rintro (hnew | ⟨hn, hfirst | hold⟩)
        · exact .inr (.inl hnew)
        · exact .inl hfirst
        · exact .inr (.inr ⟨hn, hold⟩)

theorem putAll_cons (ms : List (σ × Json σ)) (m : σ × Json σ) (later : List (σ × Json σ)) :
    putAll ms (m :: later) = putAll (put ms m.1 m.2) later := rfl

theorem nodup_putAll : ∀ {later ms : List (σ × Json σ)}, (ms.map Prod.fst).Nodup →
    ((putAll ms later).map Prod.fst).Nodup
  | [], _, h => h
  | m :: _, _, h => by
    rw [putAll_cons]
    exact nodup_putAll (nodup_put h m.1 m.2)

/-- **Members set on top of others leave those whose names they do not take.** -/
theorem mem_putAll_iff {n : σ} {w : Json σ} : ∀ {later ms : List (σ × Json σ)}, (ms.map Prod.fst).Nodup →
    (later.map Prod.fst).Nodup →
    ((n, w) ∈ putAll ms later ↔ (n, w) ∈ later ∨ n ∉ later.map Prod.fst ∧ (n, w) ∈ ms)
  | [], ms, _, _ => by simp [putAll]
  | m :: later, ms, hms, hlater => by
    rw [List.map_cons, List.nodup_cons] at hlater
    have hfirst : (n, w) = m ↔ n = m.1 ∧ w = m.2 := Prod.ext_iff
    rw [putAll_cons, mem_putAll_iff (nodup_put hms m.1 m.2) hlater.2, mem_put_iff hms, List.mem_cons, hfirst,
      List.map_cons, List.mem_cons, not_or]
    by_cases hn : n = m.1
    · simp only [hn, ne_eq, not_true_eq_false, true_and, false_and, or_false, hlater.1, not_false_eq_true]
      exact or_comm
    · simp only [hn, ne_eq, not_false_eq_true, true_and, false_and, false_or]

/-- **Members that have no name twice are set as they stand.** -/
theorem putAll_of_nodup : ∀ {later ms : List (σ × Json σ)},
    ((ms ++ later).map Prod.fst).Nodup → putAll ms later = ms ++ later
  | [], ms, _ => by rw [putAll, List.foldl_nil, List.append_nil]
  | m :: later, ms, h => by
    have hnew : m.1 ∉ ms.map Prod.fst := fun hmem => by
      rw [List.map_append, List.map_cons] at h
      exact (List.nodup_append.1 h).2.2 m.1 hmem m.1 List.mem_cons_self rfl
    rw [putAll_cons, put_of_not_mem m.2 hnew, putAll_of_nodup (by rwa [List.append_assoc, List.singleton_append]),
      List.append_assoc, List.singleton_append]

end Json
end SshConfig
