import SshConfig.Text.Blank
import SshConfig.Text.Digit
import SshConfig.Text.Quoted
/-!
# CommandLine.Arguments — what is asked for on the command line

Options may stand anywhere before a double dash; all else are hosts, which have to stand together.  A long option may be
cut short as long as no other starts the same, and takes its argument after an equals sign or from the next word.  Short
options may share a dash, and the last of them takes the rest of its word as its argument.  A double dash is taken out of
what it stands in, so that an option with nothing but a double dash for its argument has lost it.
-/
namespace SshConfig

/-- The argument of an option. -/
inductive Argument where
  | given (t : Text)
  /-- The argument was a double dash. -/
  | lost
  deriving DecidableEq, Repr

namespace Argument

/-- The argument that a text in the option's own word is. -/
def ofText (t : Text) : Argument :=
  if t = ['-', '-'] then lost else given t

/-- The text of an argument; one that is lost is shown as an empty list. -/
def text : Argument → Text
  | given t => t
  | lost => "[]"

end Argument

/-- What is asked for. -/
structure Arguments where
  hosts : List Text := []
  configFile : Option Argument := none
  identity : List Argument := []
  options : List Argument := []
  onDemand : Bool := false
  verbose : Bool := false
  deriving DecidableEq, Repr

/-- Why nothing is run. -/
inductive Usage where
  /-- Help was asked for. -/
  | help
  /-- The arguments make no sense. -/
  | wrong (message : Text)
  deriving DecidableEq, Repr

/-- The options of the command line. -/
inductive Switch where
  | help
  | config
  | identity
  | option
  | onDemand
  | verbose
  deriving DecidableEq, Repr

namespace Switch

/-- The spellings of the options, in order. -/
def spellings : List (Text × Switch) :=
  [("-h", help), ("--help", help), ("-F", config), ("--config", config), ("-i", identity), ("--identity", identity),
    ("-o", option), ("--option", option), ("--lazy", onDemand), ("-v", verbose), ("--verbose", verbose)]

/-- The option of a spelling. -/
def ofSpelling? (t : Text) : Option Switch :=
  (spellings.find? fun s => s.1 == t).map (·.2)

/-- All spellings of an option. -/
def title (s : Switch) : Text :=
  Text.join ['/'] ((spellings.filter fun p => p.2 == s).map (·.1))

/-- The option takes an argument. -/
def takesArgument : Switch → Bool
  | config => true
  | identity => true
  | option => true
  | _ => false

end Switch

/-- What a word of the command line is taken for. -/
inductive Word where
  /-- A host, or the argument of an option. -/
  | plain
  /-- The double dash that ends the options. -/
  | ending
  /-- An option, in its short or in a long spelling, and the text after it in the same word. -/
  | option (switch : Switch) (short : Bool) (rest : Option Text)
  /-- An option that is not known. -/
  | unknown
  deriving DecidableEq, Repr

namespace Word

/-- An option, as the spelling says, with what follows in the same word. -/
def ofSwitch (spelling : Text) (rest : Option Text) (s : Switch) : Word :=
  option s ((spelling.drop 1).head? != some '-') rest

/-- A number with a minus sign, which is taken for a host. -/
def isNegativeNumber (t : Text) : Bool :=
  let body := (if t.getLast? = some '\n' then t.dropLast else t).drop 1
  let whole := body.takeWhile Text.isDigit
  match body.dropWhile Text.isDigit with
  | [] => !whole.isEmpty
  | '.' :: rest => !rest.isEmpty && rest.all Text.isDigit
  | _ => false

/-- The word and its argument at the first equals sign. -/
def atEquals (t : Text) : Text × Option Text :=
  match Text.cutAt '=' t with
  | some (name, argument) => (name, some argument)
  | none => (t, none)

/-- The options that a word may be short for, each with its spelling. -/
def candidates (t : Text) : List (Text × Word) :=
  match t with
  | '-' :: '-' :: _ =>
    let (name, argument) := atEquals t
    (Switch.spellings.filter fun s => name.isPrefixOf s.1).map fun s => (s.1, ofSwitch s.1 argument s.2)
  | _ =>
    Switch.spellings.filterMap fun s =>
      if s.1 = t.take 2 then some (s.1, ofSwitch s.1 (some (t.drop 2)) s.2)
      else if t.isPrefixOf s.1 then some (s.1, ofSwitch s.1 none s.2)
      else none

/-- What a word before the double dash is taken for. -/
def ofText (t : Text) : Except Usage Word :=
  if t.head? != some '-' then .ok .plain
  else
    match Switch.ofSpelling? t with
    | some s => .ok (ofSwitch t none s)
    | none =>
      if t.length = 1 then .ok .plain
      else
        match (atEquals t).2, Switch.ofSpelling? (atEquals t).1 with
        | some argument, some s => .ok (ofSwitch (atEquals t).1 (some argument) s)
        | _, _ =>
          match candidates t with
          | [c] => .ok c.2
          | [] => .ok (if isNegativeNumber t || t.contains ' ' then .plain else .unknown)
          | cs =>
            .error (.wrong ("ambiguous option: " ++ t ++ " could match " ++ Text.join ", " (cs.map (·.1))))

/-- What the words are taken for, in order. -/
def ofTexts : List Text → Except Usage (List (Word × Text))
  | [] => .ok []
  | t :: ts =>
    if t = ['-', '-'] then .ok ((.ending, t) :: ts.map fun u => (.plain, u))
    else
      match ofText t with
      | .error usage => .error usage
      | .ok w => (ofTexts ts).map ((w, t) :: ·)

/-- The word is no option. -/
def isOperand : Word → Bool
  | plain => true
  | ending => true
  | _ => false

end Word

namespace Arguments

/-- The complaint about an option. -/
def about (s : Switch) (complaint : Text) : Usage :=
  .wrong ("argument " ++ s.title ++ ": " ++ complaint)

/-- What one word with options comes to. -/
structure Bundle where
  /-- The options with their arguments. -/
  done : List (Switch × Option Argument)
  /-- The last option, if the next word may be its argument. -/
  last : Option Switch
  deriving DecidableEq, Repr

/-- The options of a word after an option `s` that is followed by a text in the same word.  The text is the argument of
`s` if it takes one; otherwise it is more short options, which only a short option may have after it. -/
def bundle (s : Switch) (short : Bool) : Text → Except Usage Bundle
  | [] =>
    if s.takesArgument then .ok ⟨[(s, some (.given []))], none⟩
    else .error (about s ("ignored explicit argument " ++ Text.quoted []))
  | c :: t =>
    if s.takesArgument then .ok ⟨[(s, some (.ofText (c :: t)))], none⟩
    else
      match (if short then Switch.ofSpelling? ['-', c] else none), t with
      | none, _ => .error (about s ("ignored explicit argument " ++ Text.quoted (c :: t)))
      | some next, [] => .ok ⟨[(s, none)], some next⟩
      | some next, d :: r => (bundle next true (d :: r)).map fun b => ⟨(s, none) :: b.done, b.last⟩

/-- What has been read of the command line. -/
structure Progress where
  arguments : Arguments := {}
  /-- The hosts have been read. -/
  hasHosts : Bool := false
  /-- What is not known. -/
  left : List Text := []
  deriving DecidableEq, Repr

/-- Notes an option and its argument. -/
def Progress.note (p : Progress) (s : Switch) (argument : Option Argument) : Except Usage Progress :=
  let a := p.arguments
  match s with
  | .help => .error .help
  | .config => .ok { p with arguments := { a with configFile := argument } }
  | .identity => .ok { p with arguments := { a with identity := a.identity ++ argument.toList } }
  | .option => .ok { p with arguments := { a with options := a.options ++ argument.toList } }
  | .onDemand => .ok { p with arguments := { a with onDemand := true } }
  | .verbose => .ok { p with arguments := { a with verbose := true } }

/-- Notes options one after the other. -/
def Progress.noteAll (p : Progress) : List (Switch × Option Argument) → Except Usage Progress
  | [] => .ok p
  | o :: os =>
    match p.note o.1 o.2 with
    | .ok p => p.noteAll os
    | .error usage => .error usage

/-- The words without the first double dash among them. -/
def withoutEnding : List Text → List Text
  | [] => []
  | t :: ts => if t = ['-', '-'] then ts else t :: withoutEnding ts

/-- Reads words that are no options: the first of them that hold a host are the hosts. -/
def Progress.operands (p : Progress) (words : List (Word × Text)) : Progress :=
  if !p.hasHosts && words.any (·.1 == .plain) then
    { p with arguments := { p.arguments with hosts := withoutEnding (words.map (·.2)) }, hasHosts := true }
  else { p with left := p.left ++ words.map (·.2) }

/-- Reads an option that may take its argument from the words after it; those that are left. -/
def Progress.pending (p : Progress) (s : Switch) (words : List (Word × Text)) :
    Except Usage (Progress × List (Word × Text)) :=
  if s.takesArgument then
    match words with
    | (.plain, t) :: rest => (p.note s (some (.given t))).map fun p => (p, rest)
    | _ => .error (about s "expected one argument")
  else (p.note s none).map fun p => (p, words)

/-- Reads the words; the fuel is more than their number. -/
def Progress.readOn (p : Progress) : Nat → List (Word × Text) → Except Usage Progress
  | 0, _ => .ok p
  | fuel + 1, words =>
    let p := p.operands (words.takeWhile (·.1.isOperand))
    match words.dropWhile (·.1.isOperand) with
    | [] => .ok p
    | (.option s _ none, _) :: rest =>
      match p.pending s rest with
      | .ok (p, rest) => p.readOn fuel rest
      | .error usage => .error usage
    | (.option s short (some text), _) :: rest =>
      match bundle s short text with
      | .error usage => .error usage
      | .ok b =>
        match b.last with
        | none =>
          match p.noteAll b.done with
          | .ok p => p.readOn fuel rest
          | .error usage => .error usage
        | some last =>
          if last.takesArgument && (rest.head?.map (·.1)) != some .plain then
            .error (about last "expected one argument")
          else
            match p.noteAll b.done with
            | .error usage => .error usage
            | .ok p =>
              match p.pending last rest with
              | .ok (p, rest) => p.readOn fuel rest
              | .error usage => .error usage
    | (_, t) :: rest => { p with left := p.left ++ [t] }.readOn fuel rest

/-- What the words of a command line ask for. -/
def ofWords (words : List Text) : Except Usage Arguments :=
  match Word.ofTexts words with
  | .error usage => .error usage
  | .ok marked =>
    match ({} : Progress).readOn (marked.length + 1) marked with
    | .error usage => .error usage
    | .ok p =>
      if !p.hasHosts then .error (.wrong "the following arguments are required: host")
      else if p.left.isEmpty then .ok p.arguments
      else .error (.wrong ("unrecognized arguments: " ++ Text.join [' '] p.left))

end Arguments
end SshConfig
