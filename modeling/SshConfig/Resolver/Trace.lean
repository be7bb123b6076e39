import SshConfig.Resolver.Basic
/-!
# Resolver.Trace — traces that report to the journal

A trace may be silent, note the reports themselves, or record them as events.  Recorded events that are also written
need data that can be written.
-/
namespace SshConfig
namespace Trace

/-- Tells nobody. -/
def silent : Trace :=
  ⟨fun _ => pure (), fun _ => pure ()⟩

/-- Notes what it is told. -/
def noting : Trace :=
  ⟨fun file => Act.note (.fileConfig file), fun c => Act.note (.config c)⟩

/-- Records an event; if events are written, it has to be writable. -/
def record (written : Bool) (type : EventType) (members : List (Text × Json)) : Act Unit := do
  let e : Event := ⟨type, .int (← get).environment.now, (Json.obj members).codePoints⟩
  if written && !e.toJson.isWritable then Act.fail .unwritable else Act.note (.event e)

/-- Records what it is told as events. -/
def recording (written : Bool) : Trace :=
  ⟨fun file => record written .fileConfig ((file.map ConfigFile.members).getD []),
    fun c => record written .config c.members⟩

end Trace
end SshConfig
