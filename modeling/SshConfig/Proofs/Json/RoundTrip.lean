import SshConfig.Proofs.Json.Members
import SshConfig.Proofs.Json.Scalar
/-!
# RoundTrip — values written and read again

Data have no doubles, only texts for strings and no name twice in an object (`Json.IsData`).  What is written of such a
value is read back as the value, whatever follows that does not go on with a number (`Json.IsData.readsBack`); so a line
that holds nothing else is read as the value (`Json.read_render`), and it is a line, for it is written in printable
ASCII (`Json.IsData.isAscii`).
-/
namespace SshConfig
namespace Json

/-- **Data**: a value without doubles whose strings are texts, whose integers have few enough digits, and whose objects
have no name twice. -/
inductive IsData : Json CodePoints → Prop where
  | null : IsData .null
  | bool (b : Bool) : IsData (.bool b)
  | int {n : Int} (h : Numeral.isWritable n = true) : IsData (.int n)
  | str {ns : CodePoints} (h : ns.IsText) : IsData (.str ns)
  | arr {items : List (Json CodePoints)} (h : ∀ v ∈ items, IsData v) : IsData (.arr items)
  | obj {members : List (CodePoints × Json CodePoints)} (hnames : ∀ m ∈ members, CodePoints.IsText m.1)
      (hnodup : (members.map Prod.fst).Nodup) (h : ∀ m ∈ members, IsData m.2) : IsData (.obj members)

/-! ## The first character -/

/-- A character that may start a value. -/
def starts (c : Char) : Bool :=
  c.isDigit || c == '-' || c == '"' || c == '[' || c == '\x7b' || c == 'n' || c == 't' || c == 'f'

theorem skip_of_starts {c : Char} (hc : starts c = true) (t : Text) : skip (c :: t) = c :: t := by
  refine List.dropWhile_cons_of_neg fun hblank => ?_
  simp only [Bool.or_eq_true, beq_iff_eq] at hblank
  rcases hblank with ((rfl | rfl) | rfl) | rfl <;> cases hc

theorem skip_blank (t : Text) : skip (' ' :: t) = skip t :=
  List.dropWhile_cons_of_pos (by rfl)

theorem exists_ofInt_eq (n : Int) : ∃ c t, Text.ofInt n = c :: t ∧ (c.isDigit = true ∨ c = '-') := by
  cases n with
  | ofNat n =>
    obtain ⟨c, t, ht⟩ := List.exists_cons_of_ne_nil (Text.ofNat_ne_nil n)
    exact ⟨c, t, ht, .inl (Text.isDigit_of_mem_ofNat (ht ▸ List.mem_cons_self))⟩
  | negSucc n => exact ⟨_, _, rfl, .inr rfl⟩

/-- **What is written of data starts with a character that may start a value.** -/
theorem exists_render_eq {v : Json CodePoints} (hv : IsData v) : ∃ c t, render v = c :: t ∧ starts c = true := by
  cases hv with
  | null => exact ⟨_, _, rfl, rfl⟩
  | bool b => cases b <;> exact ⟨_, _, rfl, rfl⟩
  | @int n =>
    obtain ⟨c, t, ht, hc⟩ := exists_ofInt_eq n
    refine ⟨c, t, ht, ?_⟩
    rcases hc with hc | rfl
    · simp [starts, hc]
    · rfl
  | str => exact ⟨_, _, rfl, rfl⟩
  | arr => exact ⟨_, _, rfl, rfl⟩
  | obj => exact ⟨_, _, rfl, rfl⟩

theorem value_scalar (fuel depth : Nat) {c : Char} (hlist : c ≠ '[') (hobject : c ≠ '\x7b') (t : Text) :
    value (fuel + 1) depth (c :: t) = scalar (c :: t) := by
  unfold value
  split
  · rename_i h; cases h
  · rename_i h; cases h; exact absurd rfl hlist
  · rename_i h; cases h; exact absurd rfl hobject
  · rename_i h; cases h; exact absurd rfl hlist
  · rename_i h; cases h; exact absurd rfl hobject
  · rfl

/-! ## Values -/

/-- **What is written of the value is read back as the value**, if there are steps enough and it is not nested too deep,
whatever follows that does not go on with a number. -/
def ReadsBack (v : Json CodePoints) : Prop :=
  ∀ (fuel depth : Nat) (rest : Text), (render v).length ≤ fuel → v.depth ≤ depth → Ends rest →
    value fuel depth (render v ++ rest) = .ok (v, rest)

theorem ends_cons {c : Char} (hdigit : Text.isPlainDigit c = false) (hdot : c ≠ '.') (he : c ≠ 'e') (hE : c ≠ 'E')
    (t : Text) : Ends (c :: t) := by
  intro d hd
  cases hd
  exact ⟨hdigit, hdot, he, hE⟩

/-- **A value that is neither a list nor an object reads back if it does so at once.** -/
theorem readsBack_of_scalar {v : Json CodePoints} {c : Char} {t : Text} (hv : render v = c :: t) (hlist : c ≠ '[')
    (hobject : c ≠ '\x7b') (hscalar : ∀ rest, Ends rest → scalar (render v ++ rest) = .ok (v, rest)) : ReadsBack v := by
  intro fuel depth rest hfuel _ hrest
  obtain ⟨fuel, rfl⟩ : ∃ n, fuel = n + 1 := ⟨fuel - 1, by rw [hv, List.length_cons] at hfuel; omega⟩
  rw [← hscalar rest hrest, hv, List.cons_append, value_scalar fuel depth hlist hobject]

theorem readsBack_str {ns : CodePoints} (h : ns.IsText) : ReadsBack (.str ns) := by
  refine readsBack_of_scalar (c := '"') rfl (by decide) (by decide) fun rest _ => ?_
  have hunits := units?_escapePoints rest h
  have hrender : render (.str ns) ++ rest = '"' :: (ns.flatMap escapePoint ++ '"' :: rest) := by
    rw [render, renderString, List.cons_append, List.cons_append, List.append_assoc, List.singleton_append]
  rw [hrender, scalar, hunits]
  exact congrArg (fun ns => Except.ok (Json.str ns, rest)) (ofUnits_flatMap h)

theorem renderItems_cons_cons (v w : Json CodePoints) (vs : List (Json CodePoints)) :
    renderItems (v :: w :: vs) = render v ++ (", " ++ renderItems (w :: vs)) := by
  rw [renderItems, List.append_assoc]
  exact nofun

theorem renderMembers_cons_cons (k : CodePoints) (v : Json CodePoints) (m : CodePoints × Json CodePoints)
    (ms : List (CodePoints × Json CodePoints)) :
    renderMembers ((k, v) :: m :: ms) = renderString k ++ (": " ++ (render v ++ (", " ++ renderMembers (m :: ms)))) := by
  rw [renderMembers]
  · simp only [List.append_assoc]
  · exact nofun

/-- **What is written of items starts as their first does.** -/
theorem exists_renderItems_eq {v : Json CodePoints} (hv : IsData v) (vs : List (Json CodePoints)) :
    ∃ c t, renderItems (v :: vs) = c :: t ∧ starts c = true := by
  obtain ⟨c, t, ht, hc⟩ := exists_render_eq hv
  cases vs with
  | nil => exact ⟨c, t, by rw [renderItems, ht], hc⟩
  | cons w vs => exact ⟨c, _, by rw [renderItems_cons_cons, ht, List.cons_append], hc⟩

/-! ## Items and members -/

section
variable {fuel depth : Nat} {v : Json CodePoints} {tail : Text} (hread : value fuel depth (render v ++ tail) = .ok (v, tail))
include hread

/-- **What is done after an item depends on what follows it.** -/
theorem items_first : items (fuel + 1) depth (render v ++ tail) =
    match skip tail with
    | ']' :: r => .ok ([v], r)
    | ',' :: r => (items fuel depth (skip r)).bind fun vs => .ok (v :: vs.1, vs.2)
    | _ => .error .malformed := by
  rw [items, hread]
  rfl

/-- **What is done after a member depends on what follows it.** -/
theorem members_first {k : CodePoints} (hk : k.IsText) (hv : IsData v) :
    members (fuel + 1) depth (renderString k ++ (": " ++ (render v ++ tail))) =
      match skip tail with
      | '\x7d' :: r => .ok ([(k, v)], r)
      | ',' :: r => (members fuel depth (skip r)).bind fun ms => .ok ((k, v) :: ms.1, ms.2)
      | _ => .error .malformed := by
  obtain ⟨c, t, ht, hc⟩ := exists_render_eq hv
  have hstart : renderString k ++ (": " ++ (render v ++ tail)) =
      '"' :: (k.flatMap escapePoint ++ '"' :: (": " ++ (render v ++ tail))) := by
    rw [renderString, List.cons_append, List.cons_append, List.append_assoc, List.singleton_append]
  have hcolon : skip (": " ++ (render v ++ tail)) = ':' :: ' ' :: (render v ++ tail) := rfl
  have hskip : skip (' ' :: (render v ++ tail)) = render v ++ tail := by
    rw [skip_blank, ht, List.cons_append, skip_of_starts hc]
  rw [hstart, members, units?_escapePoints _ hk]
  simp only [hcolon, hskip, hread, ofUnits_flatMap hk]
  rfl

end

theorem skip_next {c : Char} (hc : starts c = true) {t rest : Text} (ht : t = c :: rest) : skip (' ' :: t) = t := by
  rw [skip_blank, ht, skip_of_starts hc]

/-- **The items of a list are read up to its closing bracket.** -/
theorem items_render : ∀ {vs : List (Json CodePoints)}, vs ≠ [] → (∀ v ∈ vs, IsData v ∧ ReadsBack v) →
    ∀ (fuel depth : Nat) (rest : Text), (renderItems vs).length < fuel → itemsDepth vs ≤ depth →
      items fuel depth (renderItems vs ++ ']' :: rest) = .ok (vs, rest)
  | [], hne, _, _, _, _, _, _ => absurd rfl hne
  | _ :: _, _, _, 0, _, _, hfuel, _ => absurd hfuel (Nat.not_lt_zero _)
  | [v], _, h, fuel + 1, depth, rest, hfuel, hdepth => by
    have hread := (h v List.mem_cons_self).2 fuel depth (']' :: rest) (Nat.le_of_lt_succ hfuel)
      (le_trans (le_max_left _ _) hdepth) (ends_cons (by rfl) (by decide) (by decide) (by decide) rest)
    exact items_first hread
  | v :: w :: vs, _, h, fuel + 1, depth, rest, hfuel, hdepth => by
    have hlength : (renderItems (v :: w :: vs)).length = (render v).length + (2 + (renderItems (w :: vs)).length) := by
      rw [renderItems_cons_cons, List.length_append, List.length_append]
      rfl
    have hread := (h v List.mem_cons_self).2 fuel depth (", " ++ (renderItems (w :: vs) ++ ']' :: rest)) (by omega)
      (le_trans (le_max_left _ _) hdepth) (ends_cons (by rfl) (by decide) (by decide) (by decide) _)
    have hrest := items_render (List.cons_ne_nil w vs) (fun x hx => h x (List.mem_cons_of_mem v hx)) fuel depth rest
      (by omega) (le_trans (le_max_right _ _) hdepth)
    obtain ⟨c, t, ht, hc⟩ := exists_renderItems_eq (h w (List.mem_cons_of_mem v List.mem_cons_self)).1 vs
    have hskip : skip (' ' :: (renderItems (w :: vs) ++ ']' :: rest)) = renderItems (w :: vs) ++ ']' :: rest :=
      skip_next hc (by rw [ht, List.cons_append])
    have hcomma : skip (", " ++ (renderItems (w :: vs) ++ ']' :: rest)) =
        ',' :: ' ' :: (renderItems (w :: vs) ++ ']' :: rest) := rfl
    rw [renderItems_cons_cons, List.append_assoc, List.append_assoc, items_first hread, hcomma]
    simp only [hskip, hrest, Except.bind]

theorem exists_renderMembers_eq (k : CodePoints) (v : Json CodePoints) (ms : List (CodePoints × Json CodePoints)) :
    ∃ t, renderMembers ((k, v) :: ms) = '"' :: t := by
  cases ms with
  | nil => exact ⟨_, rfl⟩
  | cons m ms => exact ⟨_, by rw [renderMembers_cons_cons, renderString, List.cons_append, List.cons_append]⟩

/-- **The members of an object are read up to its closing brace.** -/
theorem members_render : ∀ {ms : List (CodePoints × Json CodePoints)}, ms ≠ [] →
    (∀ m ∈ ms, CodePoints.IsText m.1 ∧ IsData m.2 ∧ ReadsBack m.2) →
    ∀ (fuel depth : Nat) (rest : Text), (renderMembers ms).length < fuel → membersDepth ms ≤ depth →
      members fuel depth (renderMembers ms ++ '\x7d' :: rest) = .ok (ms, rest)
  | [], hne, _, _, _, _, _, _ => absurd rfl hne
  | _ :: _, _, _, 0, _, _, hfuel, _ => absurd hfuel (Nat.not_lt_zero _)
  | [(k, v)], _, h, fuel + 1, depth, rest, hfuel, hdepth => by
    obtain ⟨hk, hv, hback⟩ : k.IsText ∧ IsData v ∧ ReadsBack v := h (k, v) List.mem_cons_self
    have hrender : renderMembers [(k, v)] = renderString k ++ (": " ++ render v) := by
      rw [renderMembers, List.append_assoc]
    have hlength : (render v).length ≤ (renderMembers [(k, v)]).length := by
      simp only [hrender, List.length_append]
      omega
    have hread := hback fuel depth ('\x7d' :: rest) (by omega) (le_trans (le_max_left _ _) hdepth)
      (ends_cons (by rfl) (by decide) (by decide) (by decide) rest)
    rw [hrender, List.append_assoc, List.append_assoc]
    exact members_first hread hk hv
  | (k, v) :: (l, w) :: ms, _, h, fuel + 1, depth, rest, hfuel, hdepth => by
    obtain ⟨hk, hv, hback⟩ : k.IsText ∧ IsData v ∧ ReadsBack v := h (k, v) List.mem_cons_self
    have hlength : (render v).length + (renderMembers ((l, w) :: ms)).length <
        (renderMembers ((k, v) :: (l, w) :: ms)).length := by
      have hname : 0 < (renderString k).length := Nat.succ_pos _
      simp only [renderMembers_cons_cons k v, List.length_append]
      omega
    have hread := hback fuel depth (", " ++ (renderMembers ((l, w) :: ms) ++ '\x7d' :: rest)) (by omega)
      (le_trans (le_max_left _ _) hdepth) (ends_cons (by rfl) (by decide) (by decide) (by decide) _)
    have hrest := members_render (List.cons_ne_nil (l, w) ms) (fun m hm => h m (List.mem_cons_of_mem (k, v) hm)) fuel
      depth rest (by omega) (le_trans (le_max_right _ _) hdepth)
    obtain ⟨t, ht⟩ := exists_renderMembers_eq l w ms
    have hskip : skip (' ' :: (renderMembers ((l, w) :: ms) ++ '\x7d' :: rest)) =
        renderMembers ((l, w) :: ms) ++ '\x7d' :: rest :=
      skip_next (c := '"') (by rfl) (by rw [ht, List.cons_append])
    have hcomma : skip (", " ++ (renderMembers ((l, w) :: ms) ++ '\x7d' :: rest)) =
        ',' :: ' ' :: (renderMembers ((l, w) :: ms) ++ '\x7d' :: rest) := rfl
    rw [renderMembers_cons_cons]
    simp only [List.append_assoc]
    rw [members_first hread hk hv, hcomma]
    simp only [hskip, hrest, Except.bind]

/-! ## Data -/

theorem value_list {fuel depth : Nat} {c : Char} (hc : starts c = true) (t : Text) :
    value (fuel + 1) (depth + 1) ('[' :: c :: t) = (items fuel depth (c :: t)).map fun p => (.arr p.1, p.2) := by
  rw [value, skip_of_starts hc]
  split
  · rename_i h; cases h; cases hc
  · rfl

theorem value_object {fuel depth : Nat} {c : Char} (hc : starts c = true) (t : Text) :
    value (fuel + 1) (depth + 1) ('\x7b' :: c :: t) =
      (members fuel depth (c :: t)).map fun p => (.obj (putAll [] p.1), p.2) := by
  rw [value, skip_of_starts hc]
  split
  · rename_i h; cases h; cases hc
  · rfl

/-- **What is written of data is read back as the data**, by induction on the data. -/
theorem IsData.readsBack {v : Json CodePoints} (hv : IsData v) : ReadsBack v := by
  induction hv with
  | null => exact readsBack_of_scalar (c := 'n') rfl (by decide) (by decide) fun rest _ => rfl
  | bool b =>
    cases b with
    | false => exact readsBack_of_scalar (c := 'f') rfl (by decide) (by decide) fun rest _ => rfl
    | true => exact readsBack_of_scalar (c := 't') rfl (by decide) (by decide) fun rest _ => rfl
  | @int n h =>
    obtain ⟨c, t, ht, hc⟩ := exists_ofInt_eq n
    refine readsBack_of_scalar ht ?_ ?_ fun rest hrest => scalar_ofInt h hrest
    · rintro rfl
      rcases hc with hc | hc <;> cases hc
    · rintro rfl
      rcases hc with hc | hc <;> cases hc
  | str h => exact readsBack_str h
  | @arr items h ih =>
    intro fuel depth rest hfuel hdepth _
    have hrender : render (.arr items) ++ rest = '[' :: (renderItems items ++ ']' :: rest) := by
      rw [render, List.cons_append, List.cons_append, List.append_assoc]
      rfl
    have hlength : (render (.arr items)).length = (renderItems items).length + 2 := by
      rw [render, List.cons_append, List.length_cons, List.length_append]
      rfl
    obtain ⟨fuel, rfl⟩ : ∃ n, fuel = n + 1 := ⟨fuel - 1, by omega⟩
    obtain ⟨depth, rfl⟩ : ∃ n, depth = n + 1 := ⟨depth - 1, by rw [Json.depth] at hdepth; omega⟩
    rw [hrender]
    cases items with
    | nil => rfl
    | cons v vs =>
      have hread := items_render (List.cons_ne_nil v vs) (fun w hw => ⟨h w hw, ih w hw⟩) fuel depth rest (by omega)
        (Nat.le_of_succ_le_succ hdepth)
      obtain ⟨c, t, ht, hc⟩ := exists_renderItems_eq (h v List.mem_cons_self) vs
      rw [ht, List.cons_append] at hread ⊢
      rw [value_list hc, hread]
      rfl
  | @obj members hnames hnodup h ih =>
    intro fuel depth rest hfuel hdepth _
    have hrender : render (.obj members) ++ rest = '\x7b' :: (renderMembers members ++ '\x7d' :: rest) := by
      rw [render, List.cons_append, List.cons_append, List.append_assoc, List.singleton_append]
    have hlength : (render (.obj members)).length = (renderMembers members).length + 2 := by
      rw [render, List.cons_append, List.length_cons, List.length_append, List.length_singleton]
    obtain ⟨fuel, rfl⟩ : ∃ n, fuel = n + 1 := ⟨fuel - 1, by omega⟩
    obtain ⟨depth, rfl⟩ : ∃ n, depth = n + 1 := ⟨depth - 1, by rw [Json.depth] at hdepth; omega⟩
    rw [hrender]
    cases members with
    | nil => rfl
    | cons m ms =>
      have hread := members_render (List.cons_ne_nil m ms) (fun m hm => ⟨hnames m hm, h m hm, ih m hm⟩) fuel depth rest
        (by omega) (Nat.le_of_succ_le_succ hdepth)
      obtain ⟨t, ht⟩ := exists_renderMembers_eq m.1 m.2 ms
      have hput : putAll [] (m :: ms) = m :: ms := putAll_of_nodup hnodup
      rw [ht, List.cons_append] at hread ⊢
      rw [value_object (c := '"') (by rfl), hread, ← hput]
      simp only [Except.map, hput]

/-- **A line of data is read as the data**, if they are not nested too deep. -/
theorem read_render {v : Json CodePoints} (hv : IsData v) (hdepth : v.depth ≤ readDepth) : read (render v) = .ok v := by
  have hends : Ends [] := fun c hc => by cases hc
  have hread := hv.readsBack ((render v).length + 1) readDepth [] (Nat.le_succ _) hdepth hends
  obtain ⟨c, t, ht, hc⟩ := exists_render_eq hv
  have hskip : skip (render v) = render v := by rw [ht, skip_of_starts hc]
  rw [List.append_nil] at hread
  unfold read readWithin
  rw [hskip, hread]
  rfl

/-! ## The characters of a line -/

/-- Every character is a printable one of ASCII. -/
def IsAscii (t : Text) : Prop :=
  ∀ c ∈ t, 32 ≤ c.toNat ∧ c.toNat ≤ 126

instance (t : Text) : Decidable (IsAscii t) :=
  decidable_of_iff (t.all (fun c => decide (32 ≤ c.toNat ∧ c.toNat ≤ 126)) = true) (by simp [IsAscii])

theorem IsAscii.append {s t : Text} (hs : IsAscii s) (ht : IsAscii t) : IsAscii (s ++ t) := fun c hc =>
  (List.mem_append.1 hc).elim (hs c) (ht c)

theorem isAscii_ofNat (n : Nat) : IsAscii (Text.ofNat n) := by
  intro c hc
  obtain ⟨hfirst, hlast⟩ := Text.isDigit_iff_toNat.1 (Text.isDigit_of_mem_ofNat hc)
  omega

theorem isAscii_unitEscape (n : Nat) : IsAscii (unitEscape n) := by
  have hdigit : ∀ d < 16, 32 ≤ (Nat.digitChar d).toNat ∧ (Nat.digitChar d).toNat ≤ 126 := by decide
  have hlt : ∀ m, m % 16 < 16 := fun m => Nat.mod_lt m (by decide)
  refine IsAscii.append (by decide) fun c hc => ?_
  rw [hexadecimal_four] at hc
  simp only [List.mem_cons, List.not_mem_nil, or_false] at hc
  rcases hc with rfl | rfl | rfl | rfl <;> exact hdigit _ (hlt _)

theorem isAscii_escapePoint (n : Nat) : IsAscii (escapePoint n) := by
  unfold escapePoint
  iterate 7
    split
    · decide
  split
  · rename_i hplain
    simp only [Bool.and_eq_true, decide_eq_true_eq] at hplain
    intro c hc
    rw [List.mem_singleton.1 hc, toNat_ofNat (.inl (by omega))]
    exact hplain
  split
  · exact isAscii_unitEscape n
  · exact (isAscii_unitEscape _).append (isAscii_unitEscape _)

theorem isAscii_renderString (ns : CodePoints) : IsAscii (renderString ns) := by
  have hbody : IsAscii (ns.flatMap escapePoint) := fun c hc => by
    obtain ⟨n, -, hc⟩ := List.mem_flatMap.1 hc
    exact isAscii_escapePoint n c hc
  exact (IsAscii.append (s := ['"']) (by decide) hbody).append (by decide)

theorem isAscii_renderItems : ∀ {vs : List (Json CodePoints)}, (∀ v ∈ vs, IsAscii (render v)) → IsAscii (renderItems vs)
  | [], _ => by rw [renderItems]; decide
  | [v], h => by
    rw [renderItems]
    exact h v List.mem_cons_self
  | v :: w :: vs, h => by
    have hrest := isAscii_renderItems fun x hx => h x (List.mem_cons_of_mem v hx)
    rw [renderItems_cons_cons]
    exact (h v List.mem_cons_self).append (IsAscii.append (by decide) hrest)

theorem isAscii_renderMembers : ∀ {ms : List (CodePoints × Json CodePoints)}, (∀ m ∈ ms, IsAscii (render m.2)) →
    IsAscii (renderMembers ms)
  | [], _ => by rw [renderMembers]; decide
  | [(k, v)], h => by
    rw [renderMembers]
    exact ((isAscii_renderString k).append (by decide)).append (h (k, v) List.mem_cons_self)
  | (k, v) :: m :: ms, h => by
    have hrest := isAscii_renderMembers fun x hx => h x (List.mem_cons_of_mem (k, v) hx)
    rw [renderMembers_cons_cons]
    exact (isAscii_renderString k).append (IsAscii.append (by decide)
      (IsAscii.append (h (k, v) List.mem_cons_self) (IsAscii.append (by decide) hrest)))

/-- **Data are written in printable ASCII**, so that they stay on one line. -/
theorem IsData.isAscii {v : Json CodePoints} (hv : IsData v) : IsAscii (render v) := by
  induction hv with
  | null => decide
  | bool b => cases b <;> decide
  | @int n =>
    rw [render]
    cases n with
    | ofNat n => exact isAscii_ofNat n
    | negSucc n => exact IsAscii.append (s := ['-']) (by decide) (isAscii_ofNat (n + 1))
  | str => exact isAscii_renderString _
  | arr _ ih => exact (IsAscii.append (s := ['[']) (by decide) (isAscii_renderItems ih)).append (by decide)
  | obj _ _ _ ih => exact (IsAscii.append (s := ['\x7b']) (by decide) (isAscii_renderMembers ih)).append (by decide)

theorem IsAscii.not_mem_feed {t : Text} (ht : IsAscii t) : '\n' ∉ t := fun hmem =>
  absurd (ht '\n' hmem).1 (by decide)

/-! ## What data can be written -/

theorem itemsWritable_iff {σ : Type} : ∀ {vs : List (Json σ)},
    itemsWritable vs = true ↔ ∀ v ∈ vs, v.isWritable = true
  | [] => by simp [itemsWritable]
  | v :: vs => by rw [itemsWritable, Bool.and_eq_true, itemsWritable_iff, List.forall_mem_cons]

theorem membersWritable_iff {σ : Type} : ∀ {ms : List (σ × Json σ)},
    membersWritable ms = true ↔ ∀ m ∈ ms, m.2.isWritable = true
  | [] => by simp [membersWritable]
  | m :: ms => by rw [membersWritable, Bool.and_eq_true, membersWritable_iff, List.forall_mem_cons]

theorem IsData.isWritable {v : Json CodePoints} (hv : IsData v) : v.isWritable = true := by
  induction hv with
  | null => rfl
  | bool => rfl
  | int h => exact h
  | str => rfl
  | arr _ ih => exact itemsWritable_iff.2 ih
  | obj _ _ _ ih => exact membersWritable_iff.2 ih

end Json
end SshConfig
