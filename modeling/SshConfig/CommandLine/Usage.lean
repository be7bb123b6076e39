import SshConfig.CommandLine.Run
/-!
# CommandLine.Usage — how the program is called

The lines that show the shape of a call, and the help that explains every argument.
-/
namespace SshConfig
namespace CommandLine

/-- The shape of a call. -/
def callLines : List Text :=
  ["usage: ssh-resolve [-h] [-F FILE] [-i FILE] [-o OPTION] [--lazy] [-v]",
    "                   host [host ...]"]

/-- The arguments of a call, one after the other. -/
def argumentLines : List Text :=
  ["positional arguments:",
    "  host                  Target host(s) to resolve",
    "",
    "options:",
    "  -h, --help            show this help message and exit",
    "  -F FILE, --config FILE",
    "                        Config file tried before the user and system files",
    "  -i FILE, --identity FILE",
    "                        Identity file offered for every host (repeatable)",
    "  -o OPTION, --option OPTION",
    "                        Option in ssh_config format, e.g. Port=2022",
    "                        (repeatable)",
    "  --lazy                Read config files only when an earlier one has no",
    "                        match",
    "  -v, --verbose         Debug logging and trace events on stderr"]

/-- What the program is for. -/
def purpose : Text :=
  "Resolve effective SSH client configuration per host"

/-- A call as an example. -/
def exampleLine : Text :=
  "Example: ssh-resolve -o Port=2022 db.example.com"

/-- The help. -/
def helpLines : List Text :=
  callLines ++ [[], purpose, []] ++ argumentLines ++ [[], exampleLine]

/-- What is told about a call whose arguments make no sense. -/
def usageLines (message : Text) : List Text :=
  callLines ++ [usageLine message]

end CommandLine
end SshConfig
