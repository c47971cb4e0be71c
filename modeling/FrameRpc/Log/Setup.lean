import FrameRpc.Log.Line
import FrameRpc.Log.Filter
import FrameRpc.Disk.Tree

/-!
Setting logging up for a program.

One filter decides which records are kept: the directives in the environment when every
one of them reads, otherwise the configured default level, read leniently. Kept records
go as JSON lines to a log file (by default `.emcdi/logs/emcdi.jsonl` under the home
directory) and, when asked or when the file cannot be opened, as one-line text to
standard error. Setting up reports itself with one record: a warning naming why the file
could not be opened, or a debug record naming the service and the file.

A filter is made for each place records go. Each time one is made from the default
level, it prints a line to standard error for every directive that does not read, with
why.

Only the first setup in a program takes effect; a later one still opens the log file,
which makes its directories, and makes its filters, and is otherwise ignored. The JSON lines leave out the time
and the process id, which this model does not have.
-/

namespace FrameRpc.Log

open Disk

structure Settings where
  service : String
  defaultLevel : String
  logPath : Option String
  jsonFile : Bool
  alsoStderr : Bool
  deriving DecidableEq, Repr

def Settings.default : Settings := ⟨"unknown", "info", none, true, false⟩

/-- Installed logging: the service written in every record, the filter, the file that
takes JSON lines, and whether lines also go to standard error. -/
structure Logger where
  service : String
  filter : Filter
  file : Option String
  stderr : Bool

/-- How many filters a setup makes: one for the file and one for standard error, for
each of them that is used. -/
def Logger.filtersMade (l : Logger) : Nat :=
  (if l.file.isSome then 1 else 0) + (if l.stderr then 1 else 0)

/-- A filter as it is made: the filter, the lines printed while making it, and the cut
inside a character that stops the program instead, if any. -/
structure FilterMade where
  filter : Filter
  notices : List String
  fault : Option Text.MidChar

/-- Makes the filter: the environment's directives when all of them read, else the default
level read leniently, printing a line for each of its directives that does not read. -/
def makeFilter (fromEnv : Option String) (defaultLevel : String) : FilterMade :=
  match fromEnv.map Filter.strict? with
  | some (.error m) => { filter := Filter.silent, notices := [], fault := some m }
  | some (.ok (some f)) => { filter := f, notices := [], fault := none }
  | _ =>
    let (f, skipped) := Filter.lossy defaultLevel
    { filter := f,
      notices := (skipped.filter (·.2.fault?.isNone)).map fun (d, e) =>
        "ignoring `" ++ d ++ "`: " ++ e.text,
      fault := skipped.findSome? (·.2.fault?) }

def filterFor (fromEnv : Option String) (defaultLevel : String) : Filter :=
  (makeFilter fromEnv defaultLevel).filter

def filterNotices (fromEnv : Option String) (defaultLevel : String) : List String :=
  (makeFilter fromEnv defaultLevel).notices

def defaultLogPath (home : String) : String :=
  join (join (join home ".emcdi") "logs") "emcdi.jsonl"


def inspectPath : Option String → String
  | some p => "Some(" ++ Text.debugQuote p ++ ")"
  | none => "None"

def setupEvent (s : Settings) (path : Option String) : Option IoError → Event
  | some e =>
    { level := .warn, target := "observability",
      message := some "Structured log file unavailable, using stderr",
      fields := [("error", .failure e.text)], unset := [], spans := [] }
  | none =>
    { level := .debug, target := "observability", message := some "Observability initialized",
      fields := [("service", .shown s.service), ("log_path", .inspected (inspectPath path))],
      unset := [], spans := [] }

/-- Sets logging up: the disk after opening the log file, the logger, and the kept
setup record, if any. -/
def Settings.install (s : Settings) (home fromEnv : Option String) (d : Disk.Tree) :
    Disk.Tree × Logger × Option Record :=
  let path := s.logPath <|> home.map defaultLogPath
  let filter := filterFor fromEnv s.defaultLevel
  let opened : Option (Except IoError Disk.Tree) := if s.jsonFile then path.map d.openAppend else none
  let (d, file, failure) := match opened, path with
    | some (.ok d'), some p => (d', some p, none)
    | some (.error e), _ => (d, none, some e)
    | _, _ => (d, none, none)
  let logger : Logger := { service := s.service, filter, file, stderr := s.alsoStderr || file.isNone }
  (d, logger, filter.keep (setupEvent s path failure))

/-- Writes kept records: JSON lines appended to the log file, and the one-line forms for
standard error. -/
def Logger.publish (l : Logger) (stamp : String) (d : Disk.Tree) (records : List Record) :
    Disk.Tree × List String :=
  let d := match l.file with
    | some p =>
      let text := String.join (records.map fun r => (r.toValue l.service).compact ++ "\n")
      (d.append p text).toOption.getD d
    | none => d
  (d, if l.stderr then records.map (·.line stamp) else [])

def Logger.notices (l : Logger) (fromEnv : Option String) (defaultLevel : String) : List String :=
  (List.replicate l.filtersMade (filterNotices fromEnv defaultLevel)).flatten

/-- How a program that sets logging up ends: the disk after, the lines written to
standard error, and the exit code. -/
structure SessionEnd where
  disk : Disk.Tree
  stderr : List String
  code : Nat

def faultCode : Nat := 101

/-- A program that sets logging up `times` times and then raises `events`. Every setup
makes its filters again; only the first is installed and reports itself. When making a
filter meets a cut inside a character, the program stops there, during its first setup,
with the log file already opened. -/
def Settings.session (s : Settings) (times : Nat) (home fromEnv : Option String)
    (stamp : String) (d : Disk.Tree) (events : List Event) : SessionEnd :=
  match times with
  | 0 => { disk := d, stderr := [], code := 0 }
  | n + 1 =>
    let (d, logger, setup) := s.install home fromEnv d
    let made := makeFilter fromEnv s.defaultLevel
    match made.fault with
    | some m => { disk := d, stderr := made.notices ++ [m.text], code := faultCode }
    | none =>
      let path := s.logPath <|> home.map defaultLogPath
      let d := (List.range n).foldl (fun d _ =>
        if s.jsonFile then (path.map fun p => ((d.openAppend p).toOption.getD d)).getD d else d) d
      let notices := logger.notices fromEnv s.defaultLevel
      let (d, setupLines) := logger.publish stamp d setup.toList
      let (d, eventLines) := logger.publish stamp d (events.filterMap logger.filter.keep)
      { disk := d, stderr := notices ++ setupLines ++ (List.replicate n notices).flatten ++ eventLines,
        code := 0 }

end FrameRpc.Log
