import SshConfig.CommandLine.Run
/-!
# CommandLine.Places — the files that a call may come to read

A run sees files through a tree, so the files that it may come to read have to be in the tree before it starts.  They are
the configuration files, the known hosts and the keys that the call or the defaults name, and then the known hosts and the
keys that the options and those configuration files name.
-/
namespace SshConfig

/-- The paths that settings name, as they are given. -/
def Settings.paths (s : Settings) : List Text :=
  let listed (value : Option Text) : List Text :=
    match PathList.split (value.getD []) with
    | .ok paths => paths
    | .error _ => []
  let key : Option Text := s.get? .identityFile
  listed (s.get? .globalKnownHostsFile) ++ listed (s.get? .userKnownHostsFile) ++ key.toList

/-- The paths that a source names, as they are given. -/
def ConfigFile.paths (f : ConfigFile) : List Text :=
  f.globals.paths ++ f.entries.flatMap (·.settings.paths)

namespace Loader

/-- The configuration files. -/
def configPaths (l : Loader) : List Text :=
  l.configFile.toList ++ [l.defaults.userConfig, l.defaults.systemConfig]

/-- The known hosts and the keys that the call or the defaults name. -/
def statedPaths (l : Loader) : List Text :=
  [l.defaults.userKnownHosts, l.defaults.systemKnownHosts] ++ l.identity ++ l.defaults.identity

/-- The known hosts and the keys that the options name. -/
def optionPaths (l : Loader) : List Text :=
  match Settings.ofOptions l.options with
  | .ok s => s.paths
  | .error _ => []

end Loader

/-- The paths in full, without those that have no home directory. -/
def Environment.expandAll (env : Environment) (paths : List Text) : List Text :=
  paths.filterMap fun path => (env.expand path).toOption

/-- The path and the paths of the directories on its way, the topmost first. -/
def FilePath.way (path : Text) : List Text :=
  let p := FilePath.ofText path
  (List.range p.parts.length).map fun n => (FilePath.mk p.root (p.parts.take (n + 1))).text

namespace CommandLine

/-- The paths that a call names before a configuration file is read. -/
def firstPlaces (env : Environment) (l : Loader) : List Text :=
  l.configPaths ++ env.expandAll (l.statedPaths ++ l.optionPaths)

/-- The paths that the configuration files of a call name, as far as they can be read. -/
def laterPlaces (s : Session) (l : Loader) : List Text :=
  s.environment.expandAll (l.configPaths.flatMap fun path =>
    match (Act.configAt path s).1 with
    | .ok file => file.paths
    | .error _ => [])

end CommandLine
end SshConfig
