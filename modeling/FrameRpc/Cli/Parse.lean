import FrameRpc.Cli.Grammar
import FrameRpc.Text.Literal

/-!
Reading a command line against a program's grammar.

Words are read from the left. Up to the command's name, the global options apply; after
it, the command's own options and the global ones, each level keeping its own record of
what was given. A word is:

* `--`: every later word is positional;
* `--name` or `--name=value`: a long option;
* `-abc`: short options, the first that takes a value taking the rest of the word (after
  an optional `=`) as its value;
* otherwise a command name, the value of an option still waiting for one, or a
  positional argument. A command name counts as such only where no option waits.

An option given without a value waits for the next word. Its value is checked only when
the next option or argument is met, or at the end; the top level's last value is checked
after the command's words. An option that takes a value but got none, an option given
twice, and a value that does not read are errors, found in that order. Help and version
stop reading once the value before them is checked.

An unknown option is reported as soon as it is met, after settling the waiting value as
far as it goes without reporting its error. A long one is reported with the known option
it may be a mistyping of, else with the command that has such an option, else with the
way to pass it as a value where the command takes positional arguments; its usage line
names what was given at that level, and the option suggested.
-/

namespace FrameRpc.Cli

inductive Stop where
  | show (text : String)
  | fail (e : UsageError)
  deriving Repr

/-- What was given at one level of the command line: each option or argument present,
in the order first given, with its values. -/
structure Given where
  entries : List (String × List ArgValue)

namespace Given

def empty : Given := ⟨[]⟩

def has (g : Given) (id : String) : Bool := g.entries.any (·.1 == id)

def start (g : Given) (id : String) : Given :=
  if g.has id then g else ⟨g.entries ++ [(id, [])]⟩

def push (g : Given) (id : String) (v : ArgValue) : Given :=
  ⟨g.entries.map fun (k, vs) => if k == id then (k, vs ++ [v]) else (k, vs)⟩

def remove (g : Given) (id : String) : Given := ⟨g.entries.filter (·.1 != id)⟩

def lookup (g : Given) (id : String) : Option (List ArgValue) := g.entries.lookup id

def used (g : Given) : List String := g.entries.map (·.1)

end Given

structure Pending where
  opt : Opt
  words : List String

structure Reading where
  command : Option Command
  top : Given
  sub : Given
  pending : Option Pending
  deferred : Option Pending
  position : Nat
  trailing : Bool

def Reading.start : Reading := ⟨none, Given.empty, Given.empty, none, none, 0, false⟩

def Reading.given (r : Reading) : Given := if r.command.isSome then r.sub else r.top

def Reading.setGiven (r : Reading) (g : Given) : Reading :=
  if r.command.isSome then { r with sub := g } else { r with top := g }

def Reading.waiting (r : Reading) : Bool :=
  match r.pending with
  | some q => q.words.isEmpty
  | none => false

def valueError (display : String) : ValueError → UsageError
  | .missing =>
    { message := "a value is required for '" ++ display ++ "' but none was supplied", tips := [],
      usage := none }
  | .invalid shown reason =>
    { message := "invalid value '" ++ shown ++ "' for '" ++ display ++ "': " ++ reason, tips := [],
      usage := none }

def pushValues (o : Opt) : List String → Given → Given × Option UsageError
  | [], g => (g, none)
  | v :: vs, g =>
    match o.kind.read v with
    | .ok a => pushValues o vs (g.push o.id a)
    | .error e => (g, some (valueError o.display e))

/-- Records an option with the words given for it at a level, as far as it goes: what
was given afterwards, and the error that stopped it. An option that takes a value needs
one; one given before is forgotten and refused unless it collects values; a collecting
option's words are split at its delimiter. -/
def record (p : Program) (level : Option Command) (o : Opt) (words : List String) (g : Given) :
    Given × Option UsageError :=
  if o.takesValue && words.isEmpty then (g, some (valueError o.display .missing))
  else
    let collects := match o.arity with
      | .repeated _ => true
      | _ => false
    if !collects && g.has o.id then
      (g.remove o.id, some { message := "the argument '" ++ o.display ++ "' cannot be used multiple times",
                             tips := [], usage := some (p.usage level) })
    else
      let pieces := match o.arity with
        | .repeated (some d) => words.flatMap fun (v : String) => v.splitOn d.toString
        | _ => words
      let g := g.start o.id
      if o.takesValue then pushValues o pieces g else (g.push o.id (.text "true"), none)

def settle (p : Program) (r : Reading) : Reading × Option UsageError :=
  match r.pending with
  | none => (r, none)
  | some q =>
    let (g, err) := record p r.command q.opt q.words r.given
    ({ r.setGiven g with pending := none }, err)

def resolve (p : Program) (r : Reading) : Except Stop Reading :=
  match settle p r with
  | (r, none) => .ok r
  | (_, some e) => .error (.fail e)

def resolveDeferred (p : Program) (r : Reading) : Except Stop Reading :=
  match r.deferred with
  | none => .ok r
  | some q =>
    match record p none q.opt q.words r.top with
    | (g, none) => .ok { r with top := g, deferred := none }
    | (_, some e) => .error (.fail e)

/-- Acts on an option met with its words: the waiting value is checked first; help and
version stop reading, any other option is recorded. -/
def react (p : Program) (env : String → Option String) (r : Reading) (o : Opt)
    (words : List String) : Except Stop Reading := do
  let r ← resolve p r
  if o.id == helpOpt.id then throw (.show (p.helpText env r.command))
  if o.id == versionOpt.id then throw (.show p.versionText)
  match record p r.command o words r.given with
  | (g, none) => return r.setGiven g
  | (_, some e) => throw (.fail e)

def findLong (p : Program) (r : Reading) (name : String) : Option Opt :=
  (p.visible r.command).find? (·.long == name)

def findShort (p : Program) (r : Reading) (c : Char) : Option Opt :=
  (p.visible r.command).find? (·.short == some c)

def Reading.hasPositionals (r : Reading) : Bool :=
  match r.command with
  | some c => !c.positionals.isEmpty
  | none => false

def asValueTip (word : String) : String :=
  "to pass '" ++ word ++ "' as a value, use '-- " ++ word ++ "'"

/-- A command named among the words to come that has a long option similar to `name`,
with that option; of several, the one named first. -/
def commandWithLong (p : Program) (name : String) (rest : List String) : Option (String × String) :=
  let found := p.commands.filterMap fun c =>
    match (Text.suggestions name ((p.visible (some c)).map (·.long))).getLast?,
          rest.findIdx? (· == c.name) with
    | some s, some place => some (place, c.name, s)
    | _, _ => none
  let best := found.foldl (fun acc x => match acc with
    | some y => if x.1 < y.1 then some x else some y
    | none => some x) none
  best.map (·.2)

def unknownLong (p : Program) (r : Reading) (name : String) (rest : List String) :
    Except Stop Reading :=
  let r := (settle p r).1
  let message := "unexpected argument '--" ++ name ++ "' found"
  match (Text.suggestions name ((p.visible r.command).map (·.long))).getLast? with
  | some s =>
    let g := match findLong p r s with
      | some o => r.given.start o.id
      | none => r.given
    .error (.fail { message, tips := ["a similar argument exists: '--" ++ s ++ "'"],
                    usage := some (p.smartUsage r.command g.used) })
  | none =>
    let fromCommand := if r.command.isSome then none else commandWithLong p name rest
    let tips := (if fromCommand.isNone && r.hasPositionals && !r.trailing then
        [asValueTip ("--" ++ name)] else []) ++
      (match fromCommand with
       | some (c, s) => ["'" ++ c ++ " --" ++ s ++ "' exists"]
       | none => [])
    .error (.fail { message, tips, usage := some (p.smartUsage r.command r.given.used) })

def helpFor (p : Program) (env : String → Option String) : List String → Stop
  | [] => .show (p.helpText env none)
  | name :: rest =>
    let unknown := fun (word usage : String) (pointsToHelp : Bool) =>
      Stop.fail { message := "unrecognized subcommand '" ++ word ++ "'", tips := [],
                  usage := some usage, pointsToHelp }
    if name == "help" then
      match rest with
      | [] => .show p.helpCommandText
      | extra :: _ => unknown extra p.helpUsage false
    else match p.find? name with
      | none => unknown name (p.usage none) true
      | some c =>
        match rest with
        | [] => .show (p.helpText env (some c))
        | extra :: _ => unknown extra (p.usage (some c)) true

def readLong (p : Program) (env : String → Option String) (r : Reading) (name : String)
    (attached : Option String) (rest : List String) : Except Stop Reading := do
  match findLong p r name with
  | none => unknownLong p r name rest
  | some o =>
    if o.takesValue then
      match attached with
      | some v => react p env r o [v]
      | none =>
        let r ← resolve p r
        return { r with pending := some ⟨o, []⟩ }
    else
      match attached with
      | some v =>
        let message := "unexpected value '" ++ v ++ "' for '" ++ o.display ++ "' found; no more were expected"
        throw (.fail { message, tips := [], usage := some (p.smartUsage r.command (r.given.used ++ [o.id])) })
      | none => react p env r o []

def readShort (p : Program) (env : String → Option String) : List Char → Reading → Except Stop Reading
  | [], r => .ok r
  | c :: more, r =>
    match findShort p r c with
    | none =>
      let r := (settle p r).1
      let word := "-" ++ c.toString
      .error (.fail { message := "unexpected argument '" ++ word ++ "' found",
                      tips := if r.hasPositionals && !r.trailing then [asValueTip word] else [],
                      usage := some (p.usage r.command) })
    | some o =>
      if o.takesValue then
        let attached := match more with
          | [] => none
          | '=' :: v => some v
          | v => some v
        match attached with
        | some v => react p env r o [String.ofList v]
        | none => do
          let r ← resolve p r
          return { r with pending := some ⟨o, []⟩ }
      else do
        let r ← react p env r o []
        readShort p env more r

/-- The error for a word where a command is expected, with the commands it may be a
mistyping of. -/
def notACommand (p : Program) (r : Reading) (w : String) : Except Stop Reading :=
  if r.trailing && p.commandNames.contains w then
    .error (.fail { message := "unexpected argument '--' found",
                    tips := ["subcommand '" ++ w ++ "' exists; to use it, remove the '--' before it"],
                    usage := some (p.usage none) })
  else
    let message := "unrecognized subcommand '" ++ w ++ "'"
    let tips := match Text.suggestions w p.commandNames with
      | [] => []
      | [s] => ["a similar subcommand exists: '" ++ s ++ "'"]
      | names => ["some similar subcommands exist: " ++ ", ".intercalate (names.map fun s => "'" ++ s ++ "'")]
    .error (.fail { message, tips, usage := some (p.usage none) })

def readPositional (p : Program) (r : Reading) (w : String) : Except Stop Reading :=
  match r.command with
  | none => notACommand p (settle p r).1 w
  | some c =>
    match c.positionals[r.position]? with
    | none =>
      .error (.fail { message := "unexpected argument '" ++ w ++ "' found", tips := [],
                      usage := some (p.usage r.command) })
    | some a => do
      let r ← resolve p r
      match a.kind.read w with
      | .error e => throw (.fail (valueError a.display e))
      | .ok v => return { r.setGiven ((r.given.start a.id).push a.id v) with position := r.position + 1 }

def readWord (p : Program) (env : String → Option String) (r : Reading) (w : String)
    (rest : List String) : Except Stop Reading := do
  if !r.trailing then
    if !r.waiting && r.command.isNone && p.commandNames.contains w then
      if w == "help" then throw (helpFor p env rest)
      return { r with command := p.find? w, deferred := r.pending, pending := none, position := 0 }
    if w == "--" then return { r with trailing := true }
    if w.startsWith "--" then
      let body := String.ofList (w.toList.drop 2)
      match body.splitOn "=" with
      | n :: v :: vs => return ← readLong p env r n (some ("=".intercalate (v :: vs))) rest
      | _ => return ← readLong p env r body none rest
    if w.startsWith "-" && w.length > 1 then return ← readShort p env (w.toList.drop 1) r
    match r.pending with
    | some q =>
      if q.words.isEmpty then return { r with pending := some { q with words := [w] } }
    | none => pure ()
  readPositional p r w

/-- Reads every word, checks the values still waiting, and checks that a command was
named. -/
def readAll (p : Program) (env : String → Option String) : Reading → List String → Except Stop Reading
  | r, [] => do
    let r ← resolve p r
    let r ← resolveDeferred p r
    if r.command.isNone then
      let message := "'" ++ p.name ++ "' requires a subcommand but one was not provided\n  [subcommands: " ++
        ", ".intercalate p.commandNames ++ "]"
      throw (.fail { message, tips := [], usage := some (p.usage none) })
    return r
  | r, w :: rest => do
    let r ← readWord p env r w rest
    readAll p env r rest

/-- The values of an option or argument: from the command's level, then the top level,
then the environment variable it falls back to, then its default. -/
def Reading.valuesOf (r : Reading) (env : String → Option String) (id : String)
    (kind : ValueKind) (fallback : Option String) (default : Option String) : List ArgValue :=
  match r.sub.lookup id <|> r.top.lookup id with
  | some vs => vs
  | none =>
    match (fallback.bind env) <|> default with
    | some t => (kind.read t).toOption.toList
    | none => []

def Reading.optValues (r : Reading) (env : String → Option String) (o : Opt) : List ArgValue :=
  r.valuesOf env o.id o.kind o.env o.default

def Reading.argValues (r : Reading) (env : String → Option String) (a : Positional) :
    List ArgValue :=
  r.valuesOf env a.id a.kind none a.default

def Reading.flag (r : Reading) (o : Opt) : Bool :=
  (r.sub.lookup o.id <|> r.top.lookup o.id).isSome

end FrameRpc.Cli
