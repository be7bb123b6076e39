import Mathlib.Data.List.Perm.Basic
import SshConfig.KeyLibrary.Plain
import SshConfig.Proofs.Session
import SshConfig.Proofs.Text.Pieces
/-!
# KeyLibrary — known-hosts texts that are read line by line

A library reads line by line (`KeyLibrary.ReadsLines`) if it takes a text exactly if it takes each of its rows, and
finds in it the keys of its rows.  An empty row has no key, so such a library takes texts that are joined by line feeds
exactly if it takes each of them (`ReadsLines.accepts_join_iff`), and finds the keys of each (`ReadsLines.keysIn_join`):
no entry reaches over the end of its text, whether a line feed ends it or not.  The plain library is one that reads line
by line (`readsLines_plain`).
-/
namespace SshConfig

/-! ## Rows that are not empty -/

namespace Text

/-- The rows of a text, without the empty ones. -/
def filledRows (t : Text) : List Text :=
  (rows t).filter (!·.isEmpty)

theorem filledRows_eq_pieces {t : Text} (h : '\r' ∉ t) :
    filledRows t = (pieces isLineBreak t).filter (!·.isEmpty) := by
  unfold filledRows rows
  rw [unifyBreaks_of_not_mem h]
  rcases pieces_eq_endedPieces isLineBreak t with hp | hp
  · rw [← hp]
  · rw [hp, List.filter_append]
    exact (List.append_nil _).symm

theorem filledRows_append_break {s t : Text} (hs : '\r' ∉ s) (ht : '\r' ∉ t) :
    filledRows (s ++ '\n' :: t) = filledRows s ++ filledRows t := by
  have hboth : '\r' ∉ s ++ '\n' :: t := by simp [hs, ht]
  rw [filledRows_eq_pieces hboth, filledRows_eq_pieces hs, filledRows_eq_pieces ht, pieces_append_sep (by decide),
    List.filter_append]

/-- **The filled rows of joined texts are those of each text**, in order. -/
theorem filledRows_join : ∀ {ts : List Text}, (∀ t ∈ ts, '\r' ∉ t) →
    filledRows (join ['\n'] ts) = ts.flatMap filledRows
  | [], _ => rfl
  | [t], _ => by rw [join_singleton, List.flatMap_singleton]
  | t :: u :: ts, h => by
    obtain ⟨ht, hrest⟩ := List.forall_mem_cons.1 h
    have hfree : '\r' ∉ join ['\n'] (u :: ts) := by
      intro hmem
      rcases eq_or_mem_of_mem_join hmem with hbreak | ⟨v, hv, hmem⟩
      · exact absurd hbreak (by decide)
      · exact hrest v hv hmem
    rw [join_cons_cons, filledRows_append_break ht hfree, filledRows_join hrest, List.flatMap_cons (x := t)]

/-- **A row is its own only row**, unless it is empty. -/
theorem rows_of_mem_rows {t row : Text} (h : row ∈ rows t) : rows row = [row].filter (!·.isEmpty) := by
  have hpiece : row ∈ pieces isLineBreak (unifyBreaks t) := by
    rcases pieces_eq_endedPieces isLineBreak (unifyBreaks t) with hp | hp
    · exact hp ▸ h
    · exact hp ▸ List.mem_append_left _ h
  have hfree : ∀ c ∈ row, isLineBreak c = false := eq_false_of_mem_pieces hpiece
  have hreturn : '\r' ∉ row := fun hmem => absurd (hfree _ hmem) (by decide)
  unfold rows endedPieces
  rw [unifyBreaks_of_not_mem hreturn, pieces_of_none hfree]
  cases row <;> rfl

end Text

namespace KeyLibrary

variable (library : KeyLibrary)

/-- **The library takes the text**: it makes a store of it. -/
def Accepts (t : Text) : Prop :=
  ∃ store, library.readHosts t = .ok store

/-- The keys that the library finds in a text for a host; a text that it does not take has none. -/
def keysIn (role : Role) (host t : Text) : List Text :=
  match library.readHosts t with
  | .ok store => store.keysFor role host
  | .error _ => []

/-- **The library reads known-hosts texts line by line**: a text is taken exactly if each of its rows is taken by
itself, and trusts the keys of its rows, whose order is left open. -/
structure ReadsLines : Prop where
  accepts_iff : ∀ t, library.Accepts t ↔ ∀ row ∈ Text.rows t, library.Accepts row
  keysIn_perm : ∀ t, library.Accepts t → ∀ role host,
    (library.keysIn role host t).Perm ((Text.rows t).flatMap (library.keysIn role host))

variable {library} {role : Role} {host : Text}

theorem keysIn_of_readHosts {t : Text} {store : TrustStore} (h : library.readHosts t = .ok store) :
    library.keysIn role host t = store.keysFor role host := by
  unfold keysIn
  rw [h]

theorem flatMap_keysIn_of_readHosts {ps : List (Text × Text)} {stores : List TrustStore}
    (h : List.Forall₂ (fun p store => library.readHosts p.2 = .ok store) ps stores) :
    (ps.flatMap fun p => library.keysIn role host p.2) = stores.flatMap fun store => store.keysFor role host := by
  induction h with
  | nil => rfl
  | cons hp _ ih => rw [List.flatMap_cons, List.flatMap_cons, keysIn_of_readHosts hp, ih]

theorem not_accepts_iff {t : Text} : ¬ library.Accepts t ↔ ∃ message, library.readHosts t = .error message := by
  unfold Accepts
  cases library.readHosts t <;> simp

theorem accepts_nil : library.Accepts [] :=
  ⟨_, library.readHosts_nil⟩

theorem keysIn_nil : library.keysIn role host [] = [] :=
  keysIn_of_readHosts library.readHosts_nil

theorem flatMap_keysIn_filled (ls : List Text) :
    (ls.filter (!·.isEmpty)).flatMap (library.keysIn role host) = ls.flatMap (library.keysIn role host) := by
  induction ls with
  | nil => rfl
  | cons l ls ih =>
    cases l with
    | nil => rw [List.filter_cons_of_neg (by simp), ih, List.flatMap_cons, keysIn_nil, List.nil_append]
    | cons c l => rw [List.filter_cons_of_pos (by simp), List.flatMap_cons, List.flatMap_cons, ih]

namespace ReadsLines

variable (h : library.ReadsLines)
include h

theorem accepts_iff_filled (t : Text) : library.Accepts t ↔ ∀ row ∈ Text.filledRows t, library.Accepts row := by
  rw [h.accepts_iff]
  refine ⟨fun hrows row hrow => hrows row (List.mem_of_mem_filter hrow), fun hrows row hrow => ?_⟩
  cases row with
  | nil => exact accepts_nil
  | cons c row => exact hrows _ (List.mem_filter.2 ⟨hrow, rfl⟩)

theorem keysIn_perm_filled {t : Text} (ht : library.Accepts t) :
    (library.keysIn role host t).Perm ((Text.filledRows t).flatMap (library.keysIn role host)) := by
  unfold Text.filledRows
  rw [flatMap_keysIn_filled]
  exact h.keysIn_perm t ht role host

variable {ts : List Text} (hfree : ∀ t ∈ ts, '\r' ∉ t)
include hfree

/-- **Joined texts are taken exactly if each of them is.** -/
theorem accepts_join_iff : library.Accepts (Text.join ['\n'] ts) ↔ ∀ t ∈ ts, library.Accepts t := by
  rw [h.accepts_iff_filled, Text.filledRows_join hfree]
  constructor
  · intro hrows t ht
    exact (h.accepts_iff_filled t).2 fun row hrow => hrows row (List.mem_flatMap.2 ⟨t, ht, hrow⟩)
  · intro hts row hrow
    obtain ⟨t, ht, hrow⟩ := List.mem_flatMap.1 hrow
    exact (h.accepts_iff_filled t).1 (hts t ht) row hrow

/-- **The keys of joined texts are the keys of each of them**, put together. -/
theorem keysIn_join (hts : ∀ t ∈ ts, library.Accepts t) :
    (library.keysIn role host (Text.join ['\n'] ts)).Perm (ts.flatMap (library.keysIn role host)) := by
  have hjoin : (library.keysIn role host (Text.join ['\n'] ts)).Perm _ :=
    h.keysIn_perm_filled ((h.accepts_join_iff hfree).2 hts)
  rw [Text.filledRows_join hfree, List.flatMap_assoc] at hjoin
  exact hjoin.trans (List.Perm.flatMap_left ts fun t ht => (h.keysIn_perm_filled (hts t ht)).symm)

end ReadsLines

end KeyLibrary

/-! ## The plain library -/

namespace KnownHosts

variable {keys : List PublicKey}

theorem ofLines_cons_ok_iff {line : Text} {ls : List Text} {es : KnownHosts} :
    ofLines keys (line :: ls) = .ok es ↔
      ∃ first rest, ofLines keys [line] = .ok first ∧ ofLines keys ls = .ok rest ∧ es = first ++ rest := by
  simp only [ofLines]
  cases entry keys line with
  | error fault => simp
  | ok e => cases ofLines keys ls <;> simp [Except.map, eq_comm]

theorem ofLines_filled (line : Text) : ofLines keys ([line].filter (!·.isEmpty)) = ofLines keys [line] := by
  cases line <;> rfl

theorem ofText_of_mem_rows {t row : Text} (h : row ∈ Text.rows t) : ofText keys row = ofLines keys [row] := by
  unfold ofText
  rw [Text.rows_of_mem_rows h, ofLines_filled]

theorem exists_ofLines_iff : ∀ {ls : List Text},
    (∃ es, ofLines keys ls = .ok es) ↔ ∀ l ∈ ls, ∃ es, ofLines keys [l] = .ok es
  | [] => iff_of_true ⟨[], rfl⟩ (by simp)
  | l :: ls => by
    rw [List.forall_mem_cons, ← exists_ofLines_iff]
    simp only [@ofLines_cons_ok_iff keys l ls]
    constructor
    · rintro ⟨-, first, rest, hfirst, hrest, -⟩
      exact ⟨⟨first, hfirst⟩, rest, hrest⟩
    · rintro ⟨⟨first, hfirst⟩, rest, hrest⟩
      exact ⟨_, first, rest, hfirst, hrest, rfl⟩

theorem entriesFor_append (es fs : KnownHosts) (host : Text) :
    (entriesFor (es ++ fs) host).Perm (entriesFor es host ++ entriesFor fs host) := by
  refine List.perm_iff_count.2 fun e => ?_
  unfold entriesFor
  simp only [List.flatMap_append, List.filter_append, List.count_append]
  omega

theorem keysFor_append (es fs : KnownHosts) (role : Role) (host : Text) :
    (keysFor (es ++ fs) role host).Perm (keysFor es role host ++ keysFor fs role host) := by
  unfold keysFor
  rw [← List.map_append, ← List.filter_append]
  exact ((entriesFor_append es fs host).filter _).map _

/-- **The entries of lines trust the keys that each line does by itself.** -/
theorem keysFor_ofLines {role : Role} {host : Text} {f : Text → List Text} : ∀ {ls : List Text} {es : KnownHosts},
    ofLines keys ls = .ok es → (∀ l ∈ ls, ∀ e, ofLines keys [l] = .ok e → f l = keysFor e role host) →
      (keysFor es role host).Perm (ls.flatMap f)
  | [], _, h, _ => by
    cases h
    exact .refl _
  | l :: ls, es, h, hf => by
    obtain ⟨first, rest, hfirst, hrest, rfl⟩ := ofLines_cons_ok_iff.1 h
    obtain ⟨hl, hls⟩ := List.forall_mem_cons.1 hf
    rw [List.flatMap_cons, hl first hfirst]
    exact (keysFor_append first rest role host).trans ((keysFor_ofLines hrest hls).append_left _)

end KnownHosts

namespace KeyLibrary

variable {keys : List PublicKey} {stored? : Text → Text → Option StoredKey}

theorem readHosts_plain_ok_iff {t : Text} {store : TrustStore} :
    (plain keys stored?).readHosts t = .ok store ↔ ∃ es, KnownHosts.ofText keys t = .ok es ∧ es.store = store := by
  unfold plain
  rw [mapError_eq_ok_iff, map_eq_ok_iff]

theorem accepts_plain_iff {t : Text} :
    (plain keys stored?).Accepts t ↔ ∃ es, KnownHosts.ofText keys t = .ok es := by
  unfold Accepts
  simp only [readHosts_plain_ok_iff]
  exact ⟨fun ⟨_, es, h, _⟩ => ⟨es, h⟩, fun ⟨es, h⟩ => ⟨_, es, h, rfl⟩⟩

theorem keysIn_plain {role : Role} {host t : Text} {es : KnownHosts} (h : KnownHosts.ofText keys t = .ok es) :
    (plain keys stored?).keysIn role host t = es.keysFor role host :=
  keysIn_of_readHosts (readHosts_plain_ok_iff.2 ⟨es, h, rfl⟩)

/-- **The plain library reads line by line.** -/
theorem readsLines_plain (keys : List PublicKey) (stored? : Text → Text → Option StoredKey) :
    (plain keys stored?).ReadsLines where
  accepts_iff t := by
    rw [accepts_plain_iff]
    refine KnownHosts.exists_ofLines_iff.trans (forall₂_congr fun row hrow => ?_)
    rw [accepts_plain_iff, KnownHosts.ofText_of_mem_rows hrow]
  keysIn_perm t ht role host := by
    obtain ⟨es, hes⟩ := accepts_plain_iff.1 ht
    rw [keysIn_plain hes]
    refine KnownHosts.keysFor_ofLines hes fun row hrow e he => keysIn_plain ?_
    rw [KnownHosts.ofText_of_mem_rows hrow, he]

end KeyLibrary
end SshConfig
