import SshConfig.Proofs.Loader
/-!
# Readings — which sources a lazy look-up reads, and what is kept of them

A look-up on demand reads its sources in order, up to and including the first that cannot be read or that does not leave
the address unfound (`reached`), and that one decides the answer (`firstAnswer`).  Of each reading that comes to an end
the latest is kept: a source that is read replaces its earlier reading, one that is absent drops it, and one that cannot
be read leaves it alone (`keep`, `latest`).
-/
namespace SshConfig

/-- What the reading of a source ended in, with the index of the source. -/
abbrev Reading := Nat × Except Fault (Option ConfigFile)

/-- The address was not found. -/
def isNotFound : Except Fault Resolution → Bool
  | .ok (.notFound _) => true
  | _ => false

namespace Reading

/-- What a source answers that was read like this.  One that could not be read fails the look-up or passes its fault. -/
def answer (overlay : Settings) (network address : Text) (env : Environment) (tree : FileTree) (r : Reading) :
    Except Fault Resolution :=
  match r.2 with
  | .error fault => if fault.failsLookup then .ok (.failed address fault) else .error fault
  | .ok none => .ok (.notFound address)
  | .ok (some f) => (Resolver.ofFile f overlay network address).outcome env tree

/-- The kept readings after one more. -/
def keep (loaded : List (Nat × ConfigFile)) (r : Reading) : List (Nat × ConfigFile) :=
  match r.2 with
  | .error _ => loaded
  | .ok none => dropReading r.1 loaded
  | .ok (some f) => keepReading r.1 f loaded

/-- The readings up to and including the first that does not leave the address unfound. -/
def reached (answer : Reading → Except Fault Resolution) : List Reading → List Reading
  | [] => []
  | r :: rs => if isNotFound (answer r) then r :: reached answer rs else [r]

/-- The first answer that does not leave the address unfound. -/
def firstAnswer (answer : Reading → Except Fault Resolution) (address : Text) :
    List Reading → Except Fault Resolution
  | [] => .ok (.notFound address)
  | r :: rs => if isNotFound (answer r) then firstAnswer answer address rs else answer r

/-- The latest reading of a source in a history of readings, of those that came to an end; none if there is none, or if
the source was absent then. -/
def latest (history : List Reading) (i : Nat) : Option ConfigFile :=
  (history.filterMap fun r => if r.1 = i then r.2.toOption else none).getLast?.join

/-- The readings that are kept of the first `n` sources. -/
def kept (n : Nat) (file : Nat → Option ConfigFile) : List (Nat × ConfigFile) :=
  (List.range n).filterMap fun i => (file i).map fun f => (i, f)

/-! ## Which sources are reached -/

/-- **A reading is reached exactly if every earlier one leaves the address unfound.** -/
theorem mem_reached_iff {answer : Reading → Except Fault Resolution} {r : Reading} : ∀ {rs : List Reading},
    r ∈ reached answer rs ↔
      ∃ i : Nat, rs[i]? = some r ∧ ∀ j < i, ∃ q, rs[j]? = some q ∧ isNotFound (answer q) = true
  | [] => by simp [reached]
  | q :: rs => by
    unfold reached
    constructor
    · intro h
      split at h
      · rename_i hq
        rcases List.mem_cons.1 h with rfl | h
        · exact ⟨0, rfl, fun j hj => absurd hj (Nat.not_lt_zero j)⟩
        · obtain ⟨i, hi, hearlier⟩ := mem_reached_iff.1 h
          refine ⟨i + 1, hi, fun j hj => ?_⟩
          cases j with
          | zero => exact ⟨q, rfl, hq⟩
          | succ j => exact hearlier j (Nat.lt_of_succ_lt_succ hj)
      · rw [List.mem_singleton.1 h]
        exact ⟨0, rfl, fun j hj => absurd hj (Nat.not_lt_zero j)⟩
    · rintro ⟨i, hi, hearlier⟩
      cases i with
      | zero =>
        cases hi
        split
        · exact List.mem_cons_self
        · exact List.mem_singleton.2 rfl
      | succ i =>
        obtain ⟨p, hp, hleft⟩ := hearlier 0 (Nat.zero_lt_succ i)
        cases hp
        rw [if_pos hleft]
        exact List.mem_cons_of_mem q
          (mem_reached_iff.2 ⟨i, hi, fun j hj => hearlier (j + 1) (Nat.succ_lt_succ hj)⟩)

theorem firstAnswer_append (answer : Reading → Except Fault Resolution) (address : Text) :
    ∀ rs qs : List Reading, firstAnswer answer address (rs ++ qs) =
      if isNotFound (firstAnswer answer address rs) then firstAnswer answer address qs
      else firstAnswer answer address rs
  | [], _ => rfl
  | r :: rs, qs => by
    have hcons : ∀ zs, firstAnswer answer address (r :: zs) =
        if isNotFound (answer r) then firstAnswer answer address zs else answer r := fun _ => rfl
    rw [List.cons_append, hcons, hcons]
    by_cases hr : isNotFound (answer r) = true
    · rw [if_pos hr, if_pos hr]
      exact firstAnswer_append answer address rs qs
    · rw [if_neg hr, if_neg hr, if_neg hr]

/-! ## What is kept -/

theorem latest_append (history : List Reading) (r : Reading) (i : Nat) : latest (history ++ [r]) i =
    if r.1 = i then r.2.toOption.elim (latest history i) id else latest history i := by
  unfold latest
  rw [List.filterMap_append]
  by_cases hi : r.1 = i
  · cases hr : r.2 with
    | error fault => simp [hi, hr, Except.toOption]
    | ok file => simp [hi, hr, Except.toOption]
  · simp [hi]

theorem latest_of_mem {H : List Reading} {i : Nat} {file : Option ConfigFile}
    (hsame : ∀ r ∈ H, r.1 = i → r.2 = .ok file) (hmem : ∃ r ∈ H, r.1 = i) : latest H i = file := by
  have hall : ∀ y ∈ H.filterMap fun r => if r.1 = i then r.2.toOption else none, y = file := by
    intro y hy
    obtain ⟨r, hr, hy⟩ := List.mem_filterMap.1 hy
    split at hy
    · rename_i hi
      rw [hsame r hr hi] at hy
      exact (Option.some.inj hy).symm
    · cases hy
  obtain ⟨r, hr, hi⟩ := hmem
  have hne : file ∈ H.filterMap fun r => if r.1 = i then r.2.toOption else none :=
    List.mem_filterMap.2 ⟨r, hr, by rw [if_pos hi, hsame r hr hi]; rfl⟩
  unfold latest
  rw [List.getLast?_eq_some_getLast (List.ne_nil_of_mem hne), hall _ (List.getLast_mem _)]
  rfl

theorem latest_of_not_mem {H : List Reading} {i : Nat} (hmem : ¬ ∃ r ∈ H, r.1 = i) : latest H i = none := by
  have hnil : (H.filterMap fun r => if r.1 = i then r.2.toOption else none) = [] := by
    rw [List.filterMap_eq_nil_iff]
    intro r hr
    rw [if_neg fun hi => hmem ⟨r, hr, hi⟩]
  unfold latest
  rw [hnil]
  rfl

theorem keepReading_of_lt {i : Nat} {f : ConfigFile} {loaded : List (Nat × ConfigFile)} (h : ∀ r ∈ loaded, i < r.1) :
    keepReading i f loaded = (i, f) :: loaded := by
  cases loaded with
  | nil => rfl
  | cons r rs =>
    have hr : i < r.1 := h r List.mem_cons_self
    rw [keepReading, if_neg (by omega), if_neg (by omega)]

theorem keepReading_range' {i : Nat} {f : ConfigFile} {file file' : Nat → Option ConfigFile} (hi : file' i = some f)
    (hsame : ∀ j, j ≠ i → file' j = file j) : ∀ {n k : Nat}, k ≤ i → i < k + n →
    keepReading i f ((List.range' k n).filterMap fun j => (file j).map fun g => (j, g)) =
      (List.range' k n).filterMap fun j => (file' j).map fun g => (j, g)
  | 0, k, hle, hlt => by omega
  | n + 1, k, hle, hlt => by
    rw [List.range'_succ, List.filterMap_cons, List.filterMap_cons]
    by_cases hk : k = i
    · subst hk
      -- the sources after this one are as they were, and come after it in the list
      have hrest : (List.range' (k + 1) n).filterMap (fun j => (file' j).map fun g => (j, g)) =
          (List.range' (k + 1) n).filterMap fun j => (file j).map fun g => (j, g) := by
        refine List.filterMap_congr fun j hj => ?_
        have := (List.mem_range'_1.1 hj).1
        rw [hsame j (by omega)]
      have hafter : ∀ r ∈ (List.range' (k + 1) n).filterMap fun j => (file j).map fun g => (j, g), k < r.1 := by
        intro r hr
        obtain ⟨j, hj, hjr⟩ := List.mem_filterMap.1 hr
        obtain ⟨g, -, rfl⟩ := Option.map_eq_some_iff.1 hjr
        exact (List.mem_range'_1.1 hj).1
      rw [hi, hrest]
      cases file k with
      | none => exact keepReading_of_lt hafter
      | some g =>
        simp only [Option.map_some]
        rw [keepReading, if_neg (by simp), if_pos rfl]
    · have hrest := keepReading_range' hi hsame (n := n) (k := k + 1) (by omega) (by omega)
      rw [hsame k hk]
      cases file k with
      | none => exact hrest
      | some g =>
        simp only [Option.map_some]
        rw [keepReading, if_pos (show (k, g).1 < i by simp only; omega), hrest]

theorem dropReading_kept {i n : Nat} {file file' : Nat → Option ConfigFile} (hi : file' i = none)
    (hsame : ∀ j, j ≠ i → file' j = file j) : dropReading i (kept n file) = kept n file' := by
  unfold dropReading kept
  rw [List.filter_filterMap]
  refine List.filterMap_congr fun j _ => ?_
  by_cases hj : j = i
  · subst hj
    rw [hi]
    cases file j <;> simp
  · rw [hsame j hj]
    cases file j <;> simp [hj]

/-- **One more reading keeps the latest ones kept.** -/
theorem keep_kept {n : Nat} {r : Reading} (hr : r.1 < n) (history : List Reading) :
    keep (kept n (latest history)) r = kept n (latest (history ++ [r])) := by
  have hsame : ∀ j, j ≠ r.1 → latest (history ++ [r]) j = latest history j := by
    intro j hj
    rw [latest_append, if_neg (Ne.symm hj)]
  have hself := latest_append history r r.1
  rw [if_pos rfl] at hself
  unfold keep
  cases hr2 : r.2 with
  | error fault =>
    rw [hr2] at hself
    have hall : latest (history ++ [r]) = latest history := by
      funext j
      by_cases hj : j = r.1
      · rw [hj, hself]
        rfl
      · exact hsame j hj
    rw [hall]
  | ok file =>
    rw [hr2] at hself
    cases file with
    | none => exact dropReading_kept hself hsame
    | some f =>
      unfold kept
      rw [List.range_eq_range']
      exact keepReading_range' hself hsame (Nat.zero_le _) (by omega)

theorem foldl_keep_kept {n : Nat} : ∀ {rs : List Reading} (history : List Reading), (∀ r ∈ rs, r.1 < n) →
    rs.foldl keep (kept n (latest history)) = kept n (latest (history ++ rs))
  | [], history, _ => by rw [List.append_nil, List.foldl_nil]
  | r :: rs, history, h => by
    obtain ⟨hr, hrs⟩ := List.forall_mem_cons.1 h
    rw [List.foldl_cons, keep_kept hr, foldl_keep_kept (history ++ [r]) hrs, List.append_assoc, List.singleton_append]

end Reading

/-! ## A look-up on demand -/

/-- The note is a remark. -/
def Note.isRemark : Note → Bool
  | .remark _ => true
  | _ => false

/-- **Who looks for notes of a kind that no remark is of, finds none among remarks.** -/
theorem Note.filter_of_remarks (kind : Note → Bool) (hkind : ∀ r, kind (.remark r) = false) {notes : List Note}
    (h : notes.filter (!·.isRemark) = []) : notes.filter kind = [] := by
  rw [List.filter_eq_nil_iff] at h ⊢
  intro n hn hn'
  apply h n hn
  cases n with
  | remark r =>
    rw [hkind] at hn'
    cases hn'
  | _ => rfl

/-- Makes notes before the action. -/
def Act.after {α : Type} (notes : List Note) (action : Act α) : Act α := fun s =>
  action { s with journal := s.journal ++ notes }

theorem Act.after_run {α : Type} (notes : List Note) (action : Act α) (s : Session) :
    action.after notes s = action { s with journal := s.journal ++ notes } := rfl

theorem Act.after_nil {α : Type} (action : Act α) : action.after [] = action := by
  funext s
  rw [after_run, List.append_nil]

namespace Loader

open Act (IsReading)

/-- What the readings of sources would end in, the first of them with index `k`. -/
def readingsIn (reads : List (Act (Option ConfigFile))) (k : Nat) (env : Environment) (tree : FileTree) :
    List Reading :=
  (reads.zipIdx k).map fun p => (p.2, p.1.outcome env tree)

theorem getElem?_readingsIn (reads : List (Act (Option ConfigFile))) (k : Nat) (env : Environment) (tree : FileTree)
    (i : Nat) : (readingsIn reads k env tree)[i]? = reads[i]?.map fun read => (k + i, read.outcome env tree) := by
  unfold readingsIn
  rw [List.getElem?_map, List.getElem?_zipIdx]
  cases reads[i]? <;> rfl

theorem readingsIn_append (xs ys : List (Act (Option ConfigFile))) (k : Nat) (env : Environment) (tree : FileTree) :
    readingsIn (xs ++ ys) k env tree = readingsIn xs k env tree ++ readingsIn ys (k + xs.length) env tree := by
  unfold readingsIn
  rw [List.zipIdx_append, List.map_append]

/-- The resolver of sources that are read on demand, the first of them with index `k`, each after the notes that `mark`
gives its index. -/
def demanding (mark : Nat → List Note) (overlay : Settings) (reads : List (Act (Option ConfigFile))) (k : Nat) :
    Resolver :=
  Resolver.lazyChain ((reads.zipIdx k).map fun p => source overlay p.2 (Act.after (mark p.2) p.1))

variable {overlay : Settings} {network address : Text}

/-- The resolver of a source that was read; an absent one has nothing for any address. -/
def answering (overlay : Settings) (file : Option ConfigFile) : Resolver :=
  file.elim (Resolver.chain []) fun f => Resolver.ofFile f overlay

theorem isReading_answering (file : Option ConfigFile) : (answering overlay file network address).IsReading := by
  cases file with
  | none => exact IsReading.pure _
  | some f => exact Resolver.isReading_ofFile f overlay network address

theorem answer_ok (file : Option ConfigFile) (i : Nat) (env : Environment) (tree : FileTree) :
    Reading.answer overlay network address env tree (i, .ok file) =
      (answering overlay file network address).outcome env tree := by
  cases file <;> rfl

theorem isNotFound_answer_error (fault : Fault) (i : Nat) (env : Environment) (tree : FileTree) :
    isNotFound (Reading.answer overlay network address env tree (i, .error fault)) = false := by
  unfold Reading.answer
  by_cases hfails : fault.failsLookup = true <;> simp [hfails, isNotFound]

/-- **A source is kept as it was read**, and answers from that. -/
theorem source_run (overlay : Settings) {read : Act (Option ConfigFile)} (i : Nat) {s t : Session}
    {x : Except Fault (Option ConfigFile)} (hread : read s = (x, t)) : source overlay i read s =
      (x.map (answering overlay), { t with loaded := Reading.keep t.loaded (i, x) }) := by
  unfold source Reading.keep
  rw [Act.bind_run, hread]
  cases x with
  | error fault => rfl
  | ok file => cases file <;> rfl

/-- **A reading is kept, and the source that was read is asked next.** -/
theorem reach_source_run (overlay : Settings) {read : Act (Option ConfigFile)} (hread : read.IsReading)
    (notes : List Note) (i : Nat) (s : Session) : ∃ remarks : List Remark,
    Resolver.reach (source overlay i (Act.after notes read)) s =
      (match read.outcome s.environment s.tree with
        | .error fault => if fault.failsLookup then .ok (.error fault) else .error fault
        | .ok file => .ok (.ok (answering overlay file)),
      { s with journal := s.journal ++ (notes ++ remarks.map .remark),
               loaded := Reading.keep s.loaded (i, read.outcome s.environment s.tree) }) := by
  obtain ⟨remarks, hrun⟩ := hread { s with journal := s.journal ++ notes }
  refine ⟨remarks, ?_⟩
  rw [← Act.after_run notes read s, List.append_assoc] at hrun
  unfold Resolver.reach
  rw [Act.rescue_run, Act.map_run, source_run overlay i hrun]
  cases read.outcome s.environment s.tree with
  | error fault =>
    dsimp only [Except.map]
    split <;> rfl
  | ok file => rfl

theorem filter_isRemark (remarks : List Remark) : (remarks.map Note.remark).filter (!·.isRemark) = [] := by
  rw [List.filter_eq_nil_iff]
  intro n hn
  obtain ⟨r, -, rfl⟩ := List.mem_map.1 hn
  exact Bool.false_ne_true

theorem ask_run {r : Resolver} (hr : (r network address).IsReading) (rest : Act Resolution) (s : Session) :
    ∃ remarks : List Remark, (r network address >>= fun result => match result with
        | .notFound _ => rest
        | result => pure result) s =
      if isNotFound ((r network address).outcome s.environment s.tree) then
        rest { s with journal := s.journal ++ remarks.map .remark }
      else ((r network address).outcome s.environment s.tree,
        { s with journal := s.journal ++ remarks.map .remark }) := by
  obtain ⟨remarks, hrun⟩ := hr.exists_bind_run (fun result => match result with
    | .notFound _ => rest
    | result => pure result) s
  refine ⟨remarks, hrun.trans ?_⟩
  cases (r network address).outcome s.environment s.tree with
  | error fault => rfl
  | ok result => cases result <;> rfl

theorem demanding_cons (mark : Nat → List Note) (overlay : Settings) (read : Act (Option ConfigFile))
    (reads : List (Act (Option ConfigFile))) (k : Nat) (network address : Text) :
    demanding mark overlay (read :: reads) k network address =
      Resolver.reach (source overlay k (Act.after (mark k) read)) >>= fun made => match made with
        | .error fault => pure (.failed address fault)
        | .ok r => r network address >>= fun result => match result with
          | .notFound _ => demanding mark overlay reads (k + 1) network address
          | result => pure result := rfl

/-- **A look-up on demand gives the first answer**, and reads, notes and keeps the sources that it reaches. -/
theorem demanding_run (mark : Nat → List Note) (overlay : Settings) (network address : Text) :
    ∀ {reads : List (Act (Option ConfigFile))} (k : Nat), (∀ r ∈ reads, r.IsReading) → ∀ s : Session,
    ∃ notes : List Note,
      demanding mark overlay reads k network address s =
        (Reading.firstAnswer (Reading.answer overlay network address s.environment s.tree) address
            (readingsIn reads k s.environment s.tree),
          { s with
            journal := s.journal ++ notes
            loaded := (Reading.reached (Reading.answer overlay network address s.environment s.tree)
              (readingsIn reads k s.environment s.tree)).foldl Reading.keep s.loaded }) ∧
      notes.filter (!·.isRemark) = ((Reading.reached (Reading.answer overlay network address s.environment s.tree)
        (readingsIn reads k s.environment s.tree)).flatMap fun r => mark r.1).filter (!·.isRemark)
  | [], k, _, s => ⟨[], by rw [List.append_nil]; rfl, rfl⟩
  | read :: reads, k, h, s => by
    obtain ⟨hread, hreads⟩ := List.forall_mem_cons.1 h
    obtain ⟨remarks, hreach⟩ := reach_source_run overlay hread (mark k) k s
    have hcons : readingsIn (read :: reads) k s.environment s.tree =
        (k, read.outcome s.environment s.tree) :: readingsIn reads (k + 1) s.environment s.tree := rfl
    rw [demanding_cons, Act.bind_run, hreach, hcons]
    unfold Reading.firstAnswer Reading.reached
    cases houtcome : read.outcome s.environment s.tree with
    | error fault =>
      refine ⟨mark k ++ remarks.map .remark, ?_, ?_⟩
      · rw [isNotFound_answer_error, if_neg Bool.false_ne_true, if_neg Bool.false_ne_true]
        simp only [Reading.answer]
        by_cases hfails : fault.failsLookup = true
        · rw [if_pos hfails, if_pos hfails]
          rfl
        · rw [if_neg hfails, if_neg hfails]
          rfl
      · rw [isNotFound_answer_error, if_neg Bool.false_ne_true]
        simp [filter_isRemark]
    | ok file =>
      rw [answer_ok]
      -- the source is asked in the session after its reading, and so are the ones after it
      have hreading : (answering overlay file network address).IsReading := isReading_answering file
      obtain ⟨asked, hask⟩ := ask_run hreading (demanding mark overlay reads (k + 1) network address)
        { s with journal := s.journal ++ (mark k ++ remarks.map .remark),
                 loaded := Reading.keep s.loaded (k, .ok file) }
      cases hleft : isNotFound ((answering overlay file network address).outcome s.environment s.tree) with
      | true =>
        obtain ⟨notes, hrun, hnotes⟩ := demanding_run mark overlay network address (k + 1) hreads
          { s with journal := s.journal ++ (mark k ++ remarks.map .remark) ++ asked.map .remark,
                   loaded := Reading.keep s.loaded (k, .ok file) }
        refine ⟨mark k ++ remarks.map .remark ++ asked.map .remark ++ notes, hask.trans ?_, ?_⟩
        · rw [hleft, if_pos rfl, hrun]
          simp only [List.append_assoc, if_true, List.foldl_cons]
        · simp [filter_isRemark, hnotes]
      | false =>
        refine ⟨mark k ++ remarks.map .remark ++ asked.map .remark, hask.trans ?_, ?_⟩
        · rw [hleft, if_neg Bool.false_ne_true]
          simp only [List.append_assoc, if_neg Bool.false_ne_true, List.foldl_cons, List.foldl_nil]
        · simp [filter_isRemark]

end Loader
end SshConfig
