import SshConfig.Proofs.Loader.Readings
import SshConfig.Proofs.Loader.Traces
/-!
# Turns — how far a chain goes

A chain, whether it has its resolvers or builds them, takes turns until one of them does not leave the address unfound
(`untilFound`).  What a turn comes to may depend on what the turns before it left behind, so each is looked at where
these leave off (`resultsFrom`).  The results tell how many turns are taken, and these are taken in order and once each
(`untilFound_run`).
-/
namespace SshConfig
namespace Resolver

variable {network address : Text}

/-- Takes turns until one of them does not leave the address unfound. -/
def untilFound (address : Text) : List (Act Resolution) → Act Resolution
  | [] => pure (.notFound address)
  | a :: rest => do
    match ← a with
    | .notFound _ => untilFound address rest
    | result => pure result

/-- Builds a resolver and asks it.  A fault of the configuration or of the system is the answer. -/
def turn (network address : Text) (make : Act Resolver) : Act Resolution := do
  match ← reach make with
  | .error fault => pure (.failed address fault)
  | .ok r => r network address

theorem chain_eq_untilFound (network address : Text) : ∀ rs : List Resolver,
    chain rs network address = untilFound address (rs.map fun r => r network address)
  | [] => rfl
  | r :: rs => by
    unfold chain
    rw [chain_eq_untilFound network address rs]
    rfl

/-- **A lazy chain is a chain of turns.** -/
theorem lazyChain_eq_untilFound (network address : Text) : ∀ makes : List (Act Resolver),
    lazyChain makes network address = untilFound address (makes.map (turn network address))
  | [] => rfl
  | make :: rest => by
    rw [lazyChain, lazyChain_eq_untilFound network address rest, List.map_cons, untilFound]
    unfold turn
    rw [bind_assoc]
    refine bind_congr fun made => ?_
    cases made <;> rfl

/-! ## Turns in order -/

/-- What comes of turns that are all taken: the last result, unless it leaves the address unfound. -/
def verdict (address : Text) (results : List Resolution) : Resolution :=
  match results.getLast? with
  | some (.notFound _) => .notFound address
  | some result => result
  | none => .notFound address

/-- Takes all turns, one after the other. -/
def inOrder (address : Text) (turns : List (Act Resolution)) : Act Resolution := do
  pure (verdict address (← turns.mapM id))

theorem verdict_cons_notFound (address a : Text) (results : List Resolution) :
    verdict address (.notFound a :: results) = verdict address results := by
  cases results with
  | nil => rfl
  | cons r rs =>
    unfold verdict
    rw [List.getLast?_cons_cons]

theorem inOrder_cons (address : Text) (a : Act Resolution) (turns : List (Act Resolution)) :
    inOrder address (a :: turns) = a >>= fun r => turns.mapM id >>= fun rs => pure (verdict address (r :: rs)) := by
  unfold inOrder
  rw [List.mapM_cons]
  simp only [bind_assoc, pure_bind, id_eq]

theorem inOrder_cons_notFound {a : Act Resolution} {s t : Session} {b : Text} (h : a s = (.ok (.notFound b), t))
    (turns : List (Act Resolution)) : inOrder address (a :: turns) s = inOrder address turns t := by
  rw [inOrder_cons, Act.bind_run, h]
  simp only [verdict_cons_notFound]
  rfl

theorem inOrder_singleton (address : Text) (a : Act Resolution) (s : Session) : inOrder address [a] s = match a s with
    | (.ok r, t) => (.ok (verdict address [r]), t)
    | (.error fault, t) => (.error fault, t) := by
  rw [inOrder_cons, Act.bind_run]
  simp only [List.mapM_nil, pure_bind]
  cases a s with
  | mk result t => cases result <;> rfl

/-- How many turns are taken that come to these results: those up to and including the first that does not leave the
address unfound, or all. -/
def turnsTaken (results : List (Except Fault Resolution)) : Nat :=
  results.findIdx (!isNotFound ·) + 1

/-- The first result that does not leave the address unfound. -/
def firstResult (address : Text) (results : List (Except Fault Resolution)) : Except Fault Resolution :=
  (results.find? (!isNotFound ·)).getD (.ok (.notFound address))

section
variable {x : Except Fault Resolution}

theorem turnsTaken_cons_left (h : isNotFound x = true) (results : List (Except Fault Resolution)) :
    turnsTaken (x :: results) = turnsTaken results + 1 := by
  unfold turnsTaken
  rw [List.findIdx_cons, h]
  rfl

theorem turnsTaken_cons_answered (h : isNotFound x = false) (results : List (Except Fault Resolution)) :
    turnsTaken (x :: results) = 1 := by
  unfold turnsTaken
  rw [List.findIdx_cons, h]
  rfl

theorem firstResult_cons_left (h : isNotFound x = true) (results : List (Except Fault Resolution)) :
    firstResult address (x :: results) = firstResult address results := by
  unfold firstResult
  rw [List.find?_cons_of_neg (by simp [h])]

theorem firstResult_cons_answered (h : isNotFound x = false) (results : List (Except Fault Resolution)) :
    firstResult address (x :: results) = x := by
  unfold firstResult
  rw [List.find?_cons_of_pos (by simp [h])]
  rfl

theorem exists_of_isNotFound (h : isNotFound x = true) : ∃ a, x = .ok (.notFound a) := by
  unfold isNotFound at h
  split at h
  · exact ⟨_, rfl⟩
  · cases h

end

/-- What the turns come to, each where the one before it leaves off. -/
def resultsFrom : List (Act Resolution) → Session → List (Except Fault Resolution)
  | [], _ => []
  | a :: rest, s => (a s).1 :: resultsFrom rest (a s).2

/-- **Turns are taken in order**, up to the first that does not leave the address unfound, and no further; that one
decides. -/
theorem untilFound_run (address : Text) : ∀ (turns : List (Act Resolution)) (s : Session),
    untilFound address turns s = inOrder address (turns.take (turnsTaken (resultsFrom turns s))) s ∧
      (untilFound address turns s).1 = firstResult address (resultsFrom turns s)
  | [], _ => ⟨rfl, rfl⟩
  | a :: turns, s => by
    rw [untilFound, Act.bind_run, resultsFrom]
    cases hleft : isNotFound (a s).1 with
    | true =>
      obtain ⟨b, hb⟩ := exists_of_isNotFound hleft
      have hrun : a s = (.ok (.notFound b), (a s).2) := Prod.ext hb rfl
      rw [turnsTaken_cons_left hleft, firstResult_cons_left hleft, List.take_succ_cons, inOrder_cons_notFound hrun,
        hrun]
      exact untilFound_run address turns (a s).2
    | false =>
      rw [turnsTaken_cons_answered hleft, firstResult_cons_answered hleft, List.take_succ_cons, List.take_zero,
        inOrder_singleton]
      cases hrun : a s with
      | mk x t =>
        rw [hrun] at hleft
        cases x with
        | error fault => exact ⟨rfl, rfl⟩
        | ok r =>
          cases r with
          | notFound b => cases hleft
          | found b e => exact ⟨rfl, rfl⟩
          | failed b fault => exact ⟨rfl, rfl⟩

/-! ## Factories -/

/-- **A turn with a factory** is a question to the resolver that it yields, in the session in which it yields it.  A
fault of the configuration or of the system that it raises is the answer. -/
theorem turn_run (network address : Text) (make : Act Resolver) (s : Session) :
    turn network address make s = match make s with
      | (.ok r, t) => r network address t
      | (.error fault, t) => (if fault.failsLookup then .ok (.failed address fault) else .error fault, t) := by
  unfold turn reach
  rw [Act.bind_run, Act.rescue_run, Act.map_run]
  cases make s with
  | mk made t =>
    cases made with
    | ok r => rfl
    | error fault => cases h : fault.failsLookup <;> simp [Except.map, h] <;> rfl

/-- How many of its factories a lazy chain calls in a look-up. -/
def called (network address : Text) (makes : List (Act Resolver)) (s : Session) : Nat :=
  turnsTaken (resultsFrom (makes.map (turn network address)) s)

/-- **These factories yield these resolvers**, when the lazy chain is asked in the session `s`, and each resolver comes
to the same there as when the chain of them is asked in the session `t`.  Nothing is said of the factories and resolvers
after the first resolver that does not leave the address unfound. -/
inductive Yields (network address : Text) : List (Act Resolver) → Session → List Resolver → Session → Prop where
  | nil (s t : Session) : Yields network address [] s [] t
  | cons {make : Act Resolver} {makes : List (Act Resolver)} {r : Resolver} {rs : List Resolver} {s u t : Session}
      (hmake : make s = (.ok r, u)) (hsame : (r network address u).1 = (r network address t).1)
      (hrest : isNotFound (r network address u).1 = true →
        Yields network address makes (r network address u).2 rs (r network address t).2) :
      Yields network address (make :: makes) s (r :: rs) t

theorem Yields.results {makes : List (Act Resolver)} {rs : List Resolver} {s t : Session}
    (h : Yields network address makes s rs t) :
    turnsTaken (resultsFrom (rs.map fun r => r network address) t) = called network address makes s ∧
      firstResult address (resultsFrom (rs.map fun r => r network address) t) =
        firstResult address (resultsFrom (makes.map (turn network address)) s) := by
  unfold called
  induction h with
  | nil s t => exact ⟨rfl, rfl⟩
  | @cons make makes r rs s u t hmake hsame _ ih =>
    have hturn : turn network address make s = r network address u := by rw [turn_run, hmake]
    rw [List.map_cons, List.map_cons, resultsFrom, resultsFrom, hturn, ← hsame]
    cases hleft : isNotFound (r network address u).1 with
    | true =>
      rw [turnsTaken_cons_left hleft, turnsTaken_cons_left hleft, firstResult_cons_left hleft,
        firstResult_cons_left hleft, (ih hleft).1, (ih hleft).2]
      exact ⟨rfl, rfl⟩
    | false =>
      rw [turnsTaken_cons_answered hleft, turnsTaken_cons_answered hleft, firstResult_cons_answered hleft,
        firstResult_cons_answered hleft]
      exact ⟨rfl, rfl⟩

/-- **A lazy chain builds no more than it needs.**  Whatever its factories and their resolvers do, a look-up is a turn
with each factory in order, up to and including the first that raises a fault or whose resolver does not leave the
address unfound, and nothing more.  The result of that turn is the answer: that of the resolver, or the fault as a
failure.  If the factories yield resolvers, the chain of these comes to the same result, and asks as many of them in
order. -/
theorem lazyChain_behaves (network address : Text) (makes : List (Act Resolver)) (s : Session) :
    lazyChain makes network address s =
      inOrder address ((makes.take (called network address makes s)).map (turn network address)) s ∧
    (lazyChain makes network address s).1 =
      firstResult address (resultsFrom (makes.map (turn network address)) s) ∧
    (∀ make ∈ makes, ∀ u, turn network address make u = match make u with
      | (.ok r, t) => r network address t
      | (.error fault, t) => (if fault.failsLookup then .ok (.failed address fault) else .error fault, t)) ∧
    ∀ rs t, Yields network address makes s rs t →
      (chain rs network address t).1 = (lazyChain makes network address s).1 ∧
      chain rs network address t =
        inOrder address ((rs.take (called network address makes s)).map fun r => r network address) t := by
  obtain ⟨hrun, hresult⟩ := untilFound_run address (makes.map (turn network address)) s
  rw [← lazyChain_eq_untilFound] at hrun hresult
  refine ⟨by rw [hrun, List.map_take, called], hresult, fun make _ u => turn_run network address make u,
    fun rs t h => ?_⟩
  obtain ⟨htaken, hfirst⟩ := h.results
  obtain ⟨hrun', hresult'⟩ := untilFound_run address (rs.map fun r => r network address) t
  rw [← chain_eq_untilFound] at hrun' hresult'
  exact ⟨hresult'.trans (hfirst.trans hresult.symm), by rw [hrun', List.map_take, htaken]⟩

/-! ## Sources that are read when they are reached -/

/-- Resolvers that only read come to the same in all sessions with the same surroundings and files. -/
theorem Yields.cons_isReading {make : Act Resolver} {makes : List (Act Resolver)} {r : Resolver} {rs : List Resolver}
    {s u t : Session} (hmake : make s = (.ok r, u)) (hr : (r network address).IsReading)
    (hsame : u.surroundings = t.surroundings)
    (hrest : ∀ u' t' : Session, u'.surroundings = u.surroundings → t'.surroundings = t.surroundings →
      Yields network address makes u' rs t') :
    Yields network address (make :: makes) s (r :: rs) t := by
  obtain ⟨henv, htree⟩ := Prod.mk.inj hsame
  obtain ⟨remarks, hu⟩ := hr u
  obtain ⟨remarks', ht⟩ := hr t
  refine .cons hmake ?_ fun _ => ?_
  · rw [hu, ht, henv, htree]
  · rw [hu, ht]
    exact hrest _ _ rfl rfl

/-- **Sources that can be read yield resolvers** that answer from what was read, whatever other factories come after
them. -/
theorem yields_sources (overlay : Settings) {makes : List (Act Resolver)} {rs : List Resolver} {env : Environment}
    {tree : FileTree} (hrest : ∀ u t : Session, u.surroundings = (env, tree) → t.surroundings = (env, tree) →
      Yields network address makes u rs t) :
    ∀ {reads : List (Act (Option ConfigFile))} {files : List (Option ConfigFile)} (k : Nat),
      (∀ r ∈ reads, r.IsReading) → List.Forall₂ (fun read file => read.outcome env tree = .ok file) reads files →
      ∀ s t : Session, s.surroundings = (env, tree) → t.surroundings = (env, tree) →
        Yields network address ((reads.zipIdx k).map (fun p => Loader.source overlay p.2 p.1) ++ makes) s
          (files.map (Loader.answering overlay) ++ rs) t
  | _, _, _, _, .nil, s, t, hs, ht => hrest s t hs ht
  | read :: reads, file :: files, k, hreading, .cons hread hfiles, s, t, hs, ht => by
    obtain ⟨hfirst, hreads⟩ := List.forall_mem_cons.1 hreading
    obtain ⟨henv, htree⟩ := Prod.mk.inj hs
    obtain ⟨remarks, hrun⟩ := hfirst s
    have hok : read.outcome s.environment s.tree = .ok file := by rw [henv, htree, hread]
    rw [hok] at hrun
    refine Yields.cons_isReading (Loader.source_run overlay k hrun) (Loader.isReading_answering file)
      (hs.trans ht.symm) fun u' t' hu' ht' => ?_
    exact yields_sources overlay hrest (k + 1) hreads hfiles u' t' (hu'.trans hs) (ht'.trans ht)

/-- A fault that stands for a source that cannot be read. -/
def unreadableSource : Fault :=
  .config (.general "unreadable" {})

/-- A factory that notes its call, and builds a resolver that notes that it is asked. -/
def noted (i : Nat) (name : Text) (result : Resolution) : Act Resolver := do
  Act.note (.built i)
  pure (noting name fun _ _ => pure result)

/-- The second of these factories raises a fault. -/
def stoppedMakes : List (Act Resolver) :=
  [noted 0 "x" (.notFound "h"), (do Act.note (.built 1); Act.fail unreadableSource), noted 2 "z" (.notFound "h")]

/-- Two files that have nothing for the address, the first of which is missing, come before a resolver that answers. -/
def answeredMakes : List (Act Resolver) :=
  ([Act.readOptionalFile "missing", Act.readOptionalFile "own"].zipIdx.map fun p =>
    Loader.source Settings.empty p.2 p.1) ++ [noted 2 "y" (.failed "h" unreadableSource), noted 3 "z" (.notFound "h")]

theorem lazyChain_behaves_stopped :
    (∀ s : Session, lazyChain stoppedMakes "tcp" "h" s = (.ok (.failed "h" unreadableSource),
      { s with journal := s.journal ++ [.built 0] ++ [.asked "x"] ++ [.built 1] })) ∧
    (lazyChain answeredMakes "tcp" "h" Loader.sampleSession).1 = .ok (.failed "h" unreadableSource) ∧
    ∃ rs, Yields "tcp" "h" answeredMakes Loader.sampleSession rs Loader.sampleSession ∧
      (chain rs "tcp" "h" Loader.sampleSession).1 = .ok (.failed "h" unreadableSource) := by
  refine ⟨fun s => ?_, ?_⟩
  · rw [(lazyChain_behaves "tcp" "h" stoppedMakes s).1]
    rfl
  · have hmissing : (Act.readOptionalFile "missing").outcome Loader.sampleSession.environment
        Loader.sampleSession.tree = .ok none := rfl
    have hown : ((Act.readOptionalFile "own").outcome Loader.sampleSession.environment
        Loader.sampleSession.tree).toOption.map (Option.map fun f => (f.lookup "h").isNone) = some (some true) := by
      decide +kernel
    obtain ⟨file, hread, hnone⟩ := Option.map_eq_some_iff.1 hown
    obtain ⟨f, rfl, hlookup⟩ := Option.map_eq_some_iff.1 hnone
    have hlast : ∀ u t : Session, Yields "tcp" "h"
        [noted 2 "y" (.failed "h" unreadableSource), noted 3 "z" (.notFound "h")] u
        [noting "y" fun _ _ => pure (.failed "h" unreadableSource)] t :=
      fun _ _ => .cons rfl rfl fun h => by cases h
    have hyields : Yields "tcp" "h" answeredMakes Loader.sampleSession _ Loader.sampleSession :=
      yields_sources Settings.empty (fun u t _ _ => hlast u t) 0 (by simp [Act.IsReading.readOptionalFile])
        (.cons hmissing (.cons (eq_ok_of_toOption hread) .nil)) Loader.sampleSession Loader.sampleSession rfl rfl
    obtain ⟨hsame, -⟩ := (lazyChain_behaves "tcp" "h" answeredMakes Loader.sampleSession).2.2.2 _ _ hyields
    have hchain : (chain ([none, some f].map (Loader.answering Settings.empty) ++
        [noting "y" fun _ _ => pure (.failed "h" unreadableSource)]) "tcp" "h" Loader.sampleSession).1 =
        .ok (.failed "h" unreadableSource) := by
      simp only [List.map, List.cons_append, List.nil_append, Loader.answering, Option.elim, chain, ofFile]
      rw [Option.isNone_iff_eq_none.1 hlookup]
      rfl
    exact ⟨hsame.symm.trans hchain, _, hyields, hchain⟩

end Resolver
end SshConfig
