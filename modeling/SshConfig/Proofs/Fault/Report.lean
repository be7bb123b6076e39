import SshConfig.Fault.Build
import SshConfig.Proofs.Json.Members
import SshConfig.Proofs.Session
/-!
# Report — what is told of a failure

A report is made of the kind and the wording of a failure, of what is known in its context, and of the reporter's own
members, which are set on top of the others.  No member of the reporter's own may take the name of a field of the
context, or there is no report (`report?_eq`).  The names of the kind and of the wording are not kept from them, so a
report holds all of the reporter's own members and all that is known, but the kind and the wording only where no such
member takes their place (`mem_reportOn_iff`).

What the parts of a failure are does not matter to this: a kind adds to the context that it is given, or to the
reporter's own members, before a report is made (`makesOnly_build`, `extra_context`).
-/
namespace SshConfig

theorem Json.isNull_eq_false_iff {v : Json} : v.isNull = false ↔ v ≠ .null := by
  cases v <;> simp [Json.isNull]

/-! ## The fields of a context -/

namespace Context

/-- **The fields of a context, each with its own name.** -/
inductive Field (c : Context) : Text → Json → Prop where
  | source : c.Field "source" c.source
  | lineno : c.Field "lineno" c.lineno
  | line : c.Field "line" c.line
  | address : c.Field "address" c.address
  | keyPath : c.Field "key_path" c.keyPath
  | underlyingError : c.Field "original_error" c.underlyingError

variable {c : Context}

theorem field_iff {name : Text} {v : Json} : c.Field name v ↔
    (name, v) ∈ names.zip [c.source, c.lineno, c.line, c.address, c.keyPath, c.underlyingError] := by
  have hzip : names.zip [c.source, c.lineno, c.line, c.address, c.keyPath, c.underlyingError] =
      [("source".toList, c.source), ("lineno".toList, c.lineno), ("line".toList, c.line), ("address".toList, c.address),
        ("key_path".toList, c.keyPath), ("original_error".toList, c.underlyingError)] := rfl
  rw [hzip]
  constructor
  · intro h
    cases h <;> simp
  · intro h
    simp only [List.mem_cons, Prod.mk.injEq, List.not_mem_nil, or_false] at h
    rcases h with ⟨rfl, rfl⟩ | ⟨rfl, rfl⟩ | ⟨rfl, rfl⟩ | ⟨rfl, rfl⟩ | ⟨rfl, rfl⟩ | ⟨rfl, rfl⟩
    · exact .source
    · exact .lineno
    · exact .line
    · exact .address
    · exact .keyPath
    · exact .underlyingError

theorem mem_fixed_iff {name : Text} {v : Json} : (name, v) ∈ c.fixed ↔ c.Field name v ∧ v ≠ .null := by
  unfold fixed
  rw [List.mem_filter, ← field_iff, Bool.not_eq_true', Json.isNull_eq_false_iff]

theorem map_fst_fixed_sublist (c : Context) : (c.fixed.map Prod.fst).Sublist names := by
  have hnames : (names.zip [c.source, c.lineno, c.line, c.address, c.keyPath, c.underlyingError]).map Prod.fst = names :=
    rfl
  have hsub := (List.filter_sublist (p := fun m : Text × Json => !m.2.isNull)
    (l := names.zip [c.source, c.lineno, c.line, c.address, c.keyPath, c.underlyingError])).map Prod.fst
  rwa [hnames] at hsub

theorem extra_withExtra {own : List (Text × Json)} (h : c.extra = .obj own) (name : Text) (v : Json) :
    (c.withExtra name v).extra = .obj (Json.put own name v) := by
  unfold withExtra
  rw [h]

theorem mem_collisions_iff {own : List (Text × Json)} {name : Text} :
    name ∈ collisions own ↔ name ∈ names ∧ name ∈ own.map Prod.fst := by
  unfold collisions
  rw [List.mem_filter, List.contains_iff_mem]

theorem collisions_isEmpty_iff {own : List (Text × Json)} :
    (collisions own).isEmpty = true ↔ ∀ name ∈ names, name ∉ own.map Prod.fst := by
  rw [List.isEmpty_iff, List.eq_nil_iff_forall_not_mem]
  simp only [mem_collisions_iff, not_and]

end Context

namespace ConfigError

/-! ## What a kind adds -/

/-- The context that a failure is given. -/
def given : ConfigError → Context
  | general _ c => c
  | refused _ c => c
  | merge _ c => c
  | notFound _ c => c
  | credentials _ c => c
  | noIdentity _ _ c => c
  | key failure => failure.context
  | trust _ _ c => c

/-- What the kind of a failure sets among the reporter's own members. -/
def added : ConfigError → List (Text × Json)
  | noIdentity paths _ _ => [("paths", Json.texts paths)]
  | key failure => if failure.reason.isVoid then [] else [("reason", failure.reason)]
  | _ => []

/-- **The reporter's own members of a failure** are those that it is given, and on top of them what its kind adds. -/
theorem extra_context {e : ConfigError} {own : List (Text × Json)} (h : e.given.extra = .obj own) :
    e.context.extra = .obj (Json.putAll own e.added) := by
  cases e with
  | noIdentity paths failures c => exact Context.extra_withExtra h _ _
  | key failure =>
    show failure.fullContext.extra = .obj (Json.putAll own (if failure.reason.isVoid then [] else _))
    unfold KeyFailure.fullContext
    by_cases hvoid : failure.reason.isVoid = true
    · rw [if_pos hvoid, if_pos hvoid]
      exact h
    · have hpath : ({ failure.context with keyPath := Json.ofOption .str failure.path } : Context).extra = .obj own := h
      rw [if_neg hvoid, if_neg hvoid]
      exact Context.extra_withExtra hpath _ _
  | general message c => exact h
  | refused error c => exact h
  | merge cause c => exact h
  | notFound address c => exact h
  | credentials message c => exact h
  | trust cause path c => exact h

/-- **All that is made is of the kind, and is given the context.** -/
def MakesOnly (kind : Text) (c : Context) (made : Except Fault ConfigError) : Prop :=
  ∀ e, made = .ok e → e.typeName = kind ∧ e.given = c

namespace MakesOnly

variable {kind : Text} {c : Context}

theorem pure {e : ConfigError} (hkind : e.typeName = kind) (hgiven : e.given = c) : MakesOnly kind c (.ok e) := by
  intro e' h
  cases h
  exact ⟨hkind, hgiven⟩

theorem bind {α : Type} {x : Except Fault α} {f : α → Except Fault ConfigError} (h : ∀ a, MakesOnly kind c (f a)) :
    MakesOnly kind c (x.bind f) := by
  intro e hbind
  obtain ⟨a, -, ha⟩ := exists_of_bind_ok hbind
  exact h a e ha

theorem ite {p : Prop} [Decidable p] {x y : Except Fault ConfigError} (hx : p → MakesOnly kind c x)
    (hy : MakesOnly kind c y) : MakesOnly kind c (if p then x else y) := by
  split
  · rename_i hp
    exact hx hp
  · exact hy

end MakesOnly

section
variable (parts : List (Text × Json)) (c : Context)

theorem makesOnly_buildStated {make : Text → Context → ConfigError} {kind : Text}
    (hkind : ∀ m, (make m c).typeName = kind) (hgiven : ∀ m, (make m c).given = c) :
    MakesOnly kind c (buildStated make parts c) :=
  .bind fun _ => .bind fun _ => .bind fun m => .pure (hkind m) (hgiven m)

theorem makesOnly_buildRefused (pattern : Bool) :
    MakesOnly (if pattern then "PatternError" else "ParseError") c (buildRefused pattern parts c) :=
  .bind fun _ => .bind fun _ => .bind fun _ => .pure rfl rfl

theorem makesOnly_buildNotFound : MakesOnly "ConfigNotFound" c (buildNotFound parts c) :=
  .bind fun _ => .bind fun _ => .pure rfl rfl

theorem makesOnly_buildNoIdentity : MakesOnly "NoAuthMethods" c (buildNoIdentity parts c) :=
  have hpaths : ∀ vs failures, MakesOnly "NoAuthMethods" c
      ((textsOf vs).bind fun paths => .ok (.noIdentity paths failures c)) := fun _ _ => .bind fun _ => .pure rfl rfl
  .bind fun _ => .bind fun _ => .bind fun _ => .bind fun _ =>
    .ite (fun _ => .bind fun _ => hpaths _ _) (.bind fun _ => hpaths _ _)

theorem makesOnly_buildKey : MakesOnly "KeyLoadError" c (buildKey parts c) :=
  have hmessage : ∀ (cause : Text → KeyCause) v path, MakesOnly "KeyLoadError" c
      ((messageOf v).bind fun m => .ok (.key ⟨cause m, path, c⟩)) := fun _ _ _ => .bind fun _ => .pure rfl rfl
  .bind fun _ => .bind fun _ => .bind fun _ => .ite (fun _ => hmessage _ _ _) (.bind fun _ => hmessage _ _ _)

theorem makesOnly_buildTrust : MakesOnly "KnownHostsError" c (buildTrust parts c) :=
  .bind fun _ => .bind fun _ => .bind fun _ => .pure rfl rfl

/-- **A failure that is made from its parts is of the kind that is asked for, and is given the context.** -/
theorem makesOnly_build (kind : Text) : MakesOnly kind c (build kind parts c) := by
  unfold build
  refine .ite (fun h => h ▸ makesOnly_buildStated parts c (fun _ => rfl) fun _ => rfl) ?_
  refine .ite (fun h => h ▸ makesOnly_buildRefused parts c false) ?_
  refine .ite (fun h => h ▸ makesOnly_buildRefused parts c true) ?_
  refine .ite (fun h => h ▸ makesOnly_buildStated parts c (fun _ => rfl) fun _ => rfl) ?_
  refine .ite (fun h => h ▸ makesOnly_buildNotFound parts c) ?_
  refine .ite (fun h => h ▸ makesOnly_buildStated parts c (fun _ => rfl) fun _ => rfl) ?_
  refine .ite (fun h => h ▸ makesOnly_buildNoIdentity parts c) ?_
  refine .ite (fun h => h ▸ makesOnly_buildKey parts c) ?_
  refine .ite (fun h => h ▸ makesOnly_buildTrust parts c) ?_
  intro e h
  cases h

end

/-! ## The report -/

/-- **The facts of a failure**: its kind, its wording, and what is known in its context, each under its own name. -/
inductive Fact (e : ConfigError) : Text → Json → Prop where
  | kind : e.Fact "error_type" (.str e.typeName)
  | message : e.Fact "message" (.str e.message)
  | known {name : Text} {v : Json} (hfield : e.context.Field name v) (hv : v ≠ .null) : e.Fact name v

/-- **The report tells all of a failure**: its facts and the reporter's own members, and no name twice. -/
structure TellsAll (e : ConfigError) (own report : List (Text × Json)) : Prop where
  facts : ∀ name v, e.Fact name v → (name, v) ∈ report
  members : ∀ m ∈ own, m ∈ report
  once : (report.map Prod.fst).Nodup

/-- The facts of a failure as members. -/
def facts (e : ConfigError) : List (Text × Json) :=
  ("error_type", .str e.typeName) :: ("message", .str e.message) :: e.context.fixed

/-- The report of a failure with the reporter's own members. -/
def reportOn (e : ConfigError) (own : List (Text × Json)) : List (Text × Json) :=
  Json.putAll e.facts own

variable {e : ConfigError} {own : List (Text × Json)}

theorem mem_facts_iff {name : Text} {v : Json} : (name, v) ∈ e.facts ↔ e.Fact name v := by
  unfold facts
  rw [List.mem_cons, List.mem_cons, Context.mem_fixed_iff, Prod.mk.injEq, Prod.mk.injEq]
  constructor
  · rintro (⟨rfl, rfl⟩ | ⟨rfl, rfl⟩ | ⟨hfield, hv⟩)
    · exact .kind
    · exact .message
    · exact .known hfield hv
  · rintro (_ | _ | ⟨hfield, hv⟩)
    · exact .inl ⟨rfl, rfl⟩
    · exact .inr (.inl ⟨rfl, rfl⟩)
    · exact .inr (.inr ⟨hfield, hv⟩)

theorem nodup_facts (e : ConfigError) : (e.facts.map Prod.fst).Nodup := by
  have hall : ("error_type".toList :: "message".toList :: Context.names).Nodup := by decide
  exact hall.sublist (((Context.map_fst_fixed_sublist e.context).cons_cons _).cons_cons _)

theorem report?_eq (h : e.context.extra = .obj own) :
    e.report? = if Json.copyDepth < e.context.depth then .error .tooDeep
      else if (Context.collisions own).isEmpty then .ok (e.reportOn own)
      else .error (.collision (Context.collisions own)) := by
  unfold report? Context.ownMembers?
  rw [h]
  rfl

/-- **A report holds the reporter's own members, and the facts whose names they do not take.** -/
theorem mem_reportOn_iff (hown : (own.map Prod.fst).Nodup) {name : Text} {v : Json} :
    (name, v) ∈ e.reportOn own ↔ (name, v) ∈ own ∨ name ∉ own.map Prod.fst ∧ e.Fact name v := by
  unfold reportOn
  rw [Json.mem_putAll_iff e.nodup_facts hown, mem_facts_iff]

theorem Fact.cases_name {name : Text} {v : Json} (h : e.Fact name v) :
    name = "error_type".toList ∧ v = .str e.typeName ∨ name = "message".toList ∧ v = .str e.message ∨
      name ∈ Context.names := by
  rcases h with _ | _ | ⟨hfield, -⟩
  · exact .inl ⟨rfl, rfl⟩
  · exact .inr (.inl ⟨rfl, rfl⟩)
  · exact .inr (.inr (List.of_mem_zip (Context.field_iff.1 hfield)).1)

/-- **A report tells all exactly if no member of the reporter's own gives another kind or another wording.** -/
theorem tellsAll_reportOn_iff (hown : (own.map Prod.fst).Nodup)
    (hfree : ∀ name ∈ Context.names, name ∉ own.map Prod.fst) :
    e.TellsAll own (e.reportOn own) ↔
      ∀ v, ((("error_type", v) : Text × Json) ∈ own → v = .str e.typeName) ∧
        ((("message", v) : Text × Json) ∈ own → v = .str e.message) := by
  have hmembers : ∀ m ∈ own, m ∈ e.reportOn own := fun m hm => (mem_reportOn_iff hown).2 (.inl hm)
  have honce : ((e.reportOn own).map Prod.fst).Nodup := Json.nodup_putAll e.nodup_facts
  constructor
  · intro h v
    -- two members of one name in a list that names nothing twice are the same
    have hsame : ∀ name : Text, ∀ w, (name, v) ∈ own → e.Fact name w → v = w := by
      intro name w hv hw
      have := List.inj_on_of_nodup_map h.once (h.members _ hv) (h.facts name w hw) rfl
      exact (Prod.mk.inj this).2
    exact ⟨fun hv => hsame _ _ hv .kind, fun hv => hsame _ _ hv .message⟩
  · intro h
    refine ⟨fun name v hfact => (mem_reportOn_iff hown).2 ?_, hmembers, honce⟩
    by_cases hname : name ∈ own.map Prod.fst
    · obtain ⟨⟨_, w⟩, hmem, rfl⟩ := List.mem_map.1 hname
      rcases hfact.cases_name with ⟨rfl, rfl⟩ | ⟨rfl, rfl⟩ | hfield
      · exact .inl ((h w).1 hmem ▸ hmem)
      · exact .inl ((h w).2 hmem ▸ hmem)
      · exact absurd hname (hfree _ hfield)
    · exact .inr ⟨hname, hfact⟩

/-- **What comes of reporting a failure.**  A failure that is made from its parts, with a context whose own members name
nothing twice, has the kind that was asked for and the context's own members with what the kind adds.  It has no report if
it is nested too deep, nor if one of these members takes the name of a field.  Otherwise its report is each of these
members and each fact whose name they do not take, and nothing else: it tells all of the failure exactly if they do not
give another kind or another wording. -/
theorem report_of_build {kind : Text} {parts : List (Text × Json)} {c : Context}
    (hextra : c.extra = .obj own) (hown : (own.map Prod.fst).Nodup) (hbuild : build kind parts c = .ok e) :
    ∃ members, e.typeName = kind ∧ members = Json.putAll own e.added ∧ e.context.extra = .obj members ∧
      (members.map Prod.fst).Nodup ∧
      (e.report? = .error .tooDeep ∧ Json.copyDepth < e.context.depth ∨
        (∃ names, e.report? = .error (.collision names) ∧ e.context.depth ≤ Json.copyDepth ∧
          (∀ name, name ∈ names ↔ name ∈ Context.names ∧ name ∈ members.map Prod.fst) ∧ names ≠ []) ∨
        ∃ report, e.report? = .ok report ∧ e.context.depth ≤ Json.copyDepth ∧
          (∀ name ∈ Context.names, name ∉ members.map Prod.fst) ∧
          (∀ name v, (name, v) ∈ report ↔ (name, v) ∈ members ∨ name ∉ members.map Prod.fst ∧ e.Fact name v) ∧
          (report.map Prod.fst).Nodup ∧
          (e.TellsAll members report ↔
            ∀ v, ((("error_type", v) : Text × Json) ∈ members → v = .str kind) ∧
              ((("message", v) : Text × Json) ∈ members → v = .str e.message))) := by
  obtain ⟨rfl, rfl⟩ := makesOnly_build parts c kind e hbuild
  have hmembers : ((Json.putAll own e.added).map Prod.fst).Nodup := Json.nodup_putAll hown
  refine ⟨Json.putAll own e.added, rfl, rfl, extra_context hextra, hmembers, ?_⟩
  rw [report?_eq (extra_context hextra)]
  by_cases hdeep : Json.copyDepth < e.context.depth
  · exact .inl ⟨if_pos hdeep, hdeep⟩
  have hdepth : e.context.depth ≤ Json.copyDepth := Nat.le_of_not_lt hdeep
  rw [if_neg hdeep]
  by_cases hfree : (Context.collisions (Json.putAll own e.added)).isEmpty = true
  · rw [if_pos hfree]
    have hfree := Context.collisions_isEmpty_iff.1 hfree
    exact .inr (.inr ⟨_, rfl, hdepth, hfree, fun _ _ => mem_reportOn_iff hmembers, Json.nodup_putAll e.nodup_facts,
      tellsAll_reportOn_iff hmembers hfree⟩)
  · rw [if_neg hfree]
    exact .inr (.inl ⟨_, rfl, hdepth, fun _ => Context.mem_collisions_iff, fun hnil => hfree (by rw [hnil]; rfl)⟩)

/-- A key that is not loaded, with a reason beside an older one and a kind given by the reporter. -/
theorem report_of_build_reason :
    ∃ c e report, c.extra = .obj [("reason", .str "old"), ("error_type", .str "fake"), ("z", .int 1)] ∧
      build "KeyLoadError" [("message", .str "m"), ("key_path", .str "k"), ("reason", .str "new")] c = .ok e ∧
      e.report? = .ok report ∧
      (("message", .str "m") : Text × Json) ∈ report ∧ (("key_path", .str "k") : Text × Json) ∈ report ∧
      (("reason", .str "new") : Text × Json) ∈ report ∧ (("z", .int 1) : Text × Json) ∈ report ∧
      (("error_type", .str "fake") : Text × Json) ∈ report := by
  have hbuild : build "KeyLoadError" [("message", .str "m"), ("key_path", .str "k"), ("reason", .str "new")]
      { lineno := .int 4, keyPath := .str "old",
        extra := .obj [("reason", .str "old"), ("error_type", .str "fake"), ("z", .int 1)] } =
      .ok (.key ⟨.stated "m" (.str "new"), some "k".toList, _⟩) := rfl
  obtain ⟨members, -, rfl, -, -, hreport⟩ := report_of_build rfl (by decide) hbuild
  obtain ⟨h, -⟩ | ⟨_, h, -⟩ | ⟨report, h, -, -, hmem, -⟩ := hreport
  · cases h
  · cases h
  refine ⟨_, _, report, rfl, hbuild, h, (hmem _ _).2 (.inr ⟨by decide, .message⟩),
    (hmem _ _).2 (.inr ⟨by decide, .known .keyPath nofun⟩), (hmem _ _).2 (.inl ?_), (hmem _ _).2 (.inl ?_),
    (hmem _ _).2 (.inl ?_)⟩
  · exact List.mem_cons_self
  · exact List.mem_cons_of_mem _ (List.mem_cons_of_mem _ List.mem_cons_self)
  · exact List.mem_cons_of_mem _ List.mem_cons_self

/-- **A reporter's own member can take the place of the wording**, and a report is made all the same. -/
theorem report_replaced :
    ∃ c e report, c.extra = .obj [("message", .str "m")] ∧
      build "SSHConfigError" [("message", .str "Test error")] c = .ok e ∧ e.report? = .ok report ∧
      e.message = "Test error".toList ∧ (("message", .str e.message) : Text × Json) ∉ report ∧
      ¬ e.TellsAll [("message", .str "m")] report := by
  have hno : (("message".toList, .str "Test error".toList) : Text × Json) ∉
      [("error_type".toList, .str "SSHConfigError".toList), ("message".toList, .str "m".toList)] := by
    simp
  exact ⟨{ extra := .obj [("message", .str "m")] }, .general "Test error" _, _, rfl, rfl, rfl, rfl, hno,
    fun h => hno (h.facts _ _ .message)⟩

end ConfigError
end SshConfig
