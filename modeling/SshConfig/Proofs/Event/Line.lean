import SshConfig.Event.Basic
import SshConfig.Proofs.Json.RoundTrip
/-!
# Line — an event and its line

An event with a positive integer for its time and with data (`Event.IsRecord`) is written on one line, unless its time
has too many digits (`Event.IsRecord.render_eq`), and the line is read as the event (`Event.IsRecord.read_render`).
-/
namespace SshConfig
namespace Event

/-- **An event that its line tells**: its time is a positive integer, and its data are nested no deeper than they are
copied. -/
structure IsRecord (e : Event) : Prop where
  time : ∃ n : Int, e.time = .int n ∧ 0 < n
  data : e.data.IsData
  depth : e.data.depth ≤ Json.copyDepth

variable {e : Event}

theorem IsRecord.isData (he : e.IsRecord) (htime : e.time.isWritable = true) : e.toJson.IsData := by
  obtain ⟨n, hn, -⟩ := he.time
  have hnames : [typeName.codePoints, timeName.codePoints, dataName.codePoints].Nodup := by decide
  refine .obj ?_ hnames ?_
  · intro m hm
    simp only [List.mem_cons, List.not_mem_nil, or_false] at hm
    rcases hm with rfl | rfl | rfl <;> exact Text.isText_codePoints _
  · intro m hm
    simp only [List.mem_cons, List.not_mem_nil, or_false] at hm
    rcases hm with rfl | rfl | rfl
    · exact .str (Text.isText_codePoints _)
    · rw [hn] at htime ⊢
      exact .int htime
    · exact he.data

theorem IsRecord.isWritable_toJson (he : e.IsRecord) : e.toJson.isWritable = e.time.isWritable := by
  have hdata := he.data.isWritable
  simp [toJson, Json.isWritable, Json.membersWritable, hdata]

/-- **An event is written unless its time has too many digits.** -/
theorem IsRecord.render_eq (he : e.IsRecord) :
    e.render = if e.time.isWritable then .ok e.toJson.render else .error .unwritable := by
  unfold render
  rw [if_neg (Nat.not_lt.2 he.depth), he.isWritable_toJson]

theorem IsRecord.depth_toJson_le (he : e.IsRecord) : e.toJson.depth ≤ Json.readDepth := by
  obtain ⟨n, hn, -⟩ := he.time
  have hdepth : e.toJson.depth = e.data.depth + 1 := by
    simp [toJson, Json.depth, Json.membersDepth, hn]
  have := he.depth
  rw [hdepth]
  unfold Json.copyDepth at this
  unfold Json.readDepth
  omega

theorem text?_name (k : EventType) : (CodePoints.text? k.name.codePoints).bind EventType.ofName? = some k := by
  cases k <;> decide

/-- **The line of an event is read as the event.** -/
theorem IsRecord.read_render (he : e.IsRecord) (htime : e.time.isWritable = true) : read e.toJson.render = .ok e := by
  obtain ⟨n, hn, hpositive⟩ := he.time
  have hread := Json.read_render (he.isData htime) he.depth_toJson_le
  have htype : need typeName [(typeName.codePoints, .str e.type.name.codePoints), (timeName.codePoints, e.time),
    (dataName.codePoints, e.data)] = .ok (.str e.type.name.codePoints) := rfl
  have htime : need timeName [(typeName.codePoints, .str e.type.name.codePoints), (timeName.codePoints, e.time),
    (dataName.codePoints, e.data)] = .ok e.time := rfl
  have hdata : Json.member? dataName.codePoints [(typeName.codePoints, .str e.type.name.codePoints),
    (timeName.codePoints, e.time), (dataName.codePoints, e.data)] = some e.data := rfl
  have hcheck : checkTime e.time = .ok () := by
    rw [hn]
    exact if_pos (by simpa using hpositive)
  have hmake : make (.str e.type.name.codePoints) e.time e.data = .ok e := by
    rw [make, text?_name]
    simp only [hcheck]
    rfl
  unfold read
  rw [hread, toJson]
  simp only [htype, htime, hdata, Option.getD_some]
  exact hmake

theorem IsRecord.not_mem_feed (he : e.IsRecord) (htime : e.time.isWritable = true) : '\n' ∉ e.toJson.render :=
  (he.isData htime).isAscii.not_mem_feed

end Event
end SshConfig
