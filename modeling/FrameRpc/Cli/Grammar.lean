import FrameRpc.Wire.Kind
import FrameRpc.Text.Literal
import FrameRpc.Decimal.Read

/-!
The grammar of the command line, and the texts made from it.

A program has global options, accepted before and after a command, and commands, each
with options of its own and positional arguments. Every command also takes `-h`/`--help`;
the program itself takes `-V`/`--version`, and a `help` command that prints the help of the
commands named after it.

Help lists the description, the usage line, then the commands, the positional arguments
and the options, each in a section whose second column starts two places after its
longest first column. An option's note ends with the environment variable it falls back
to (with the variable's current value) and its default.

A usage error is printed as `error: ` and the message, then any tips, then the usage line
where the error concerns the shape of the command line, and last a pointer to `--help`.
-/

namespace FrameRpc.Cli

inductive ValueKind where
  | text
  | path
  | opcode
  | count
  | probability
  | channel
  deriving DecidableEq, Repr

inductive ArgValue where
  | text (s : String)
  | nat (n : Nat)
  | float (x : Float)
  | channel (c : Channel)

/-- Why a value was refused: it is empty where one is required, or it is invalid, shown
as given, with the reason. -/
inductive ValueError where
  | missing
  | invalid (shown reason : String)
  deriving DecidableEq, Repr

def ValueKind.read : ValueKind → String → Except ValueError ArgValue
  | .text, s => .ok (.text s)
  | .path, s => if s.isEmpty then .error .missing else .ok (.text s)
  | .opcode, s =>
    match Text.parseInt s (Nat.pow 2 63 - 1) (Nat.pow 2 63) with
    | .error e => .error (.invalid s e.text)
    | .ok v =>
      if 0 ≤ v ∧ v ≤ 65535 then .ok (.nat v.toNat)
      else .error (.invalid s (toString v ++ " is not in 0..=65535"))
  | .count, s =>
    match Text.parseNat s (Nat.pow 2 64 - 1) with
    | .error e => .error (.invalid s e.text)
    | .ok v => .ok (.nat v)
  | .probability, s =>
    match Decimal.readFloat s with
    | .error e => .error (.invalid s e.text)
    | .ok x => .ok (.float x)
  | .channel, s =>
    match Channel.parse s with
    | .error why => .error (.invalid s why)
    | .ok c => .ok (.channel c)

inductive Arity where
  | flag
  | single
  /-- One value each time, collected over every occurrence; a value may hold several,
  split at the delimiter. -/
  | repeated (delimiter : Option Char)
  deriving DecidableEq, Repr

structure Opt where
  id : String
  short : Option Char
  long : String
  valueName : String
  help : String
  kind : ValueKind
  arity : Arity
  default : Option String
  env : Option String
  deriving Repr

/-- A positional argument; all of them are optional. -/
structure Positional where
  id : String
  valueName : String
  help : String
  kind : ValueKind
  default : Option String
  deriving Repr

structure Command where
  name : String
  about : String
  options : List Opt
  positionals : List Positional
  deriving Repr

structure Program where
  name : String
  about : String
  version : String
  globals : List Opt
  commands : List Command
  deriving Repr

def helpOpt : Opt :=
  { id := "help", short := some 'h', long := "help", valueName := "", help := "Print help",
    kind := .text, arity := .flag, default := none, env := none }

def versionOpt : Opt :=
  { id := "version", short := some 'V', long := "version", valueName := "",
    help := "Print version", kind := .text, arity := .flag, default := none, env := none }

def Opt.takesValue (o : Opt) : Bool := o.arity != .flag

def Opt.display (o : Opt) : String :=
  "--" ++ o.long ++ (if o.takesValue then " <" ++ o.valueName ++ ">" else "")

def Positional.display (p : Positional) : String := "[" ++ p.valueName ++ "]"

def helpAbout : String := "Print this message or the help of the given subcommand(s)"

namespace Program

def commandNames (p : Program) : List String := p.commands.map (·.name) ++ ["help"]

def find? (p : Program) (name : String) : Option Command := p.commands.find? (·.name == name)

def visible (p : Program) : Option Command → List Opt
  | none => p.globals ++ [helpOpt, versionOpt]
  | some c => c.options ++ p.globals ++ [helpOpt]

def usage (p : Program) : Option Command → String
  | none => p.name ++ " [OPTIONS] <COMMAND>"
  | some c => p.name ++ " " ++ c.name ++ " [OPTIONS]" ++
      String.join (c.positionals.map fun a => " " ++ a.display)

/-- The usage line naming what was given: the program and command, the options given
(each once, in the order first given), every positional argument (in angle brackets if
given, else in square ones), and at the top level the command still to come. With
nothing given it is the usual usage line. -/
def smartUsage (p : Program) (level : Option Command) (used : List String) : String :=
  if used.isEmpty then p.usage level
  else
    let name := match level with
      | some c => p.name ++ " " ++ c.name
      | none => p.name
    let opts := (used.filterMap fun id => ((p.visible level).find? (·.id == id)).map Opt.display).eraseDups
    let args := match level with
      | some c => c.positionals.map fun a =>
        if used.contains a.id then "<" ++ a.valueName ++ ">" else a.display
      | none => []
    let rest := if level.isNone then ["<COMMAND>"] else []
    " ".intercalate (name :: opts ++ args ++ rest)

def helpUsage (p : Program) : String := p.name ++ " help [COMMAND]..."

end Program

/-- A section of help: a title and rows of two columns, the second aligned two places
after the longest first. -/
def helpSection (title : String) (rows : List (String × String)) : String :=
  let width := rows.foldl (fun w r => max w r.1.length) 2
  title ++ ":\n" ++ "\n".intercalate (rows.map fun (a, b) =>
    "  " ++ a ++ String.ofList (List.replicate (width + 2 - a.length) ' ') ++ b)

def Opt.column (o : Opt) : String :=
  (match o.short with
   | some c => "-" ++ c.toString ++ ", "
   | none => "    ") ++ o.display

/-- The note of an option: its help, the variable it falls back to with that variable's
current value, and its default. -/
def Opt.note (o : Opt) (env : String → Option String) : String :=
  o.help ++
    (match o.env with
     | some v => " [env: " ++ v ++ "=" ++ (env v).getD "" ++ "]"
     | none => "") ++
    (match o.default with
     | some d => " [default: " ++ d ++ "]"
     | none => "")

def Positional.note (a : Positional) : String :=
  a.help ++ (match a.default with
    | some d => " [default: " ++ d ++ "]"
    | none => "")

namespace Program

def helpText (p : Program) (env : String → Option String) (c : Option Command) : String :=
  let about := match c with
    | some c => c.about
    | none => p.about
  let commands := match c with
    | none => [helpSection "Commands" ((p.commands.map fun c => (c.name, c.about)) ++ [("help", helpAbout)])]
    | some _ => []
  let arguments := match c with
    | some c => if c.positionals.isEmpty then [] else
        [helpSection "Arguments" (c.positionals.map fun a => (a.display, a.note))]
    | none => []
  let options := [helpSection "Options" ((p.visible c).map fun o => (o.column, o.note env))]
  about ++ "\n\nUsage: " ++ p.usage c ++ "\n\n" ++ "\n\n".intercalate (commands ++ arguments ++ options) ++ "\n"

def helpCommandText (p : Program) : String :=
  helpAbout ++ "\n\nUsage: " ++ p.helpUsage ++ "\n\n" ++
    helpSection "Arguments" [("[COMMAND]...", "Print help for the subcommand(s)")] ++ "\n"

def versionText (p : Program) : String := p.name ++ " " ++ p.version ++ "\n"

end Program

structure UsageError where
  message : String
  tips : List String
  usage : Option String
  /-- Whether the error ends by pointing at `--help`; the help command has no such option. -/
  pointsToHelp : Bool := true
  deriving Repr

def UsageError.render (e : UsageError) : String :=
  "error: " ++ e.message ++
    (if e.tips.isEmpty then "" else "\n" ++ String.join (e.tips.map ("\n  tip: " ++ ·))) ++
    (match e.usage with
     | some u => "\n\nUsage: " ++ u
     | none => "") ++
    (if e.pointsToHelp then "\n\nFor more information, try '--help'." else "") ++ "\n"

end FrameRpc.Cli
