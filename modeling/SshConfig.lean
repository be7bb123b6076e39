import SshConfig.CommandLine.Arguments
import SshConfig.CommandLine.Places
import SshConfig.CommandLine.Run
import SshConfig.CommandLine.Usage
import SshConfig.ConfigFile.Basic
import SshConfig.ConfigFile.Load
import SshConfig.ConfigFile.Reader
import SshConfig.Defaults
import SshConfig.Duration
import SshConfig.Effective.Basic
import SshConfig.Effective.Build
import SshConfig.Event.Basic
import SshConfig.Event.Writer
import SshConfig.Fault.Basic
import SshConfig.Fault.Build
import SshConfig.Fault.ConfigError
import SshConfig.Fault.Context
import SshConfig.Files.Access
import SshConfig.Files.FilePath
import SshConfig.Files.FileTree
import SshConfig.Files.OsFault
import SshConfig.Files.PathList
import SshConfig.Files.Windows
import SshConfig.Flag
import SshConfig.Glob
import SshConfig.Identity.Basic
import SshConfig.Identity.Load
import SshConfig.Json.Basic
import SshConfig.Json.Printer
import SshConfig.Json.Reader
import SshConfig.KeyLibrary.Basic
import SshConfig.KeyLibrary.Digest
import SshConfig.KeyLibrary.HostName
import SshConfig.KeyLibrary.KeyText
import SshConfig.KeyLibrary.KnownHosts
import SshConfig.KeyLibrary.Network
import SshConfig.KeyLibrary.Plain
import SshConfig.KeyLibrary.Recognition
import SshConfig.Keyword
import SshConfig.Loader
import SshConfig.Main
import SshConfig.Numeral
import SshConfig.Proofs.CommandLine.Run
import SshConfig.Proofs.ConfigFile.Aliases
import SshConfig.Proofs.ConfigFile.Alike
import SshConfig.Proofs.ConfigFile.Append
import SshConfig.Proofs.ConfigFile.Delimiter
import SshConfig.Proofs.ConfigFile.Dump
import SshConfig.Proofs.ConfigFile.Layout
import SshConfig.Proofs.ConfigFile.LineEnds
import SshConfig.Proofs.ConfigFile.Load
import SshConfig.Proofs.ConfigFile.Refused
import SshConfig.Proofs.ConfigFile.Sections
import SshConfig.Proofs.ConfigFile.TrustLists
import SshConfig.Proofs.Duration
import SshConfig.Proofs.Duration.Segments
import SshConfig.Proofs.Effective.Build
import SshConfig.Proofs.Effective.Faults
import SshConfig.Proofs.Effective.Report
import SshConfig.Proofs.Effective.Verifier
import SshConfig.Proofs.Event.Line
import SshConfig.Proofs.Event.Writer
import SshConfig.Proofs.Fault.Letter
import SshConfig.Proofs.Fault.Report
import SshConfig.Proofs.Files.FileTree
import SshConfig.Proofs.Glob
import SshConfig.Proofs.Glob.Tokens
import SshConfig.Proofs.Identity
import SshConfig.Proofs.Json.Members
import SshConfig.Proofs.Json.RoundTrip
import SshConfig.Proofs.Json.Scalar
import SshConfig.Proofs.KeyLibrary
import SshConfig.Proofs.Loader
import SshConfig.Proofs.Loader.Agree
import SshConfig.Proofs.Loader.Calls
import SshConfig.Proofs.Loader.Combined
import SshConfig.Proofs.Loader.Completed
import SshConfig.Proofs.Loader.Entries
import SshConfig.Proofs.Loader.History
import SshConfig.Proofs.Loader.HostKeys
import SshConfig.Proofs.Loader.Readings
import SshConfig.Proofs.Loader.Returns
import SshConfig.Proofs.PathList
import SshConfig.Proofs.ReadsOn
import SshConfig.Proofs.Resolver
import SshConfig.Proofs.Resolver.Turns
import SshConfig.Proofs.Session
import SshConfig.Proofs.Settings.Interchange
import SshConfig.Proofs.Settings.KeyAndValue
import SshConfig.Proofs.Settings.LaterWins
import SshConfig.Proofs.Settings.OptionLine
import SshConfig.Proofs.Settings.Registers
import SshConfig.Proofs.Settings.Written
import SshConfig.Proofs.Text.Case
import SshConfig.Proofs.Text.Decimal
import SshConfig.Proofs.Text.Letters
import SshConfig.Proofs.Text.Pieces
import SshConfig.Proofs.Text.Trim
import SshConfig.Proofs.Text.Utf8
import SshConfig.Proofs.Trust
import SshConfig.Refusal
import SshConfig.Resolver.Basic
import SshConfig.Resolver.Trace
import SshConfig.Session
import SshConfig.Settings.Basic
import SshConfig.Settings.Codec
import SshConfig.Settings.OptionLine
import SshConfig.Settings.Registers
import SshConfig.Shortest
import SshConfig.Text.Base64
import SshConfig.Text.Basic
import SshConfig.Text.Blank
import SshConfig.Text.Case
import SshConfig.Text.Compatible
import SshConfig.Text.Digit
import SshConfig.Text.Direction
import SshConfig.Text.Punycode
import SshConfig.Text.Quoted
import SshConfig.Text.Utf8
import SshConfig.Trust.Load
import SshConfig.Trust.Verifier
import SshConfig.ValueFault
