import FrameRpc.Config.Parse
import FrameRpc.Disk.Tree

/-!
Where the tools keep their files, and loading and saving the settings there.

Everything lives under one base directory: the settings in `config.json`, the log in
`logs/emcdi.jsonl`. Loading reads the settings file when it exists and takes the
defaults otherwise, then applies the environment's overrides and checks the engine's
settings. Saving makes the base and log directories and writes the settings as indented
JSON, without a final newline.
-/

namespace FrameRpc

open Disk

structure Paths where
  base : String
  deriving DecidableEq, Repr

namespace Paths

def ofHome (home : String) : Paths := ⟨join home ".emcdi"⟩

def configFile (p : Paths) : String := join p.base "config.json"

def logsDir (p : Paths) : String := join p.base "logs"

def logFile (p : Paths) : String := join p.logsDir "emcdi.jsonl"

/-- The paths, as text, that loading the settings and logging may see or change: each
directory from the top down to the base, then the settings file, the log directory and
the log file. -/
def touched (p : Paths) : List String :=
  let parts := components p.base
  let lead := if p.base.startsWith "/" then "/" else ""
  let above := (List.range parts.length).map fun i => lead ++ "/".intercalate (parts.take (i + 1))
  above ++ [p.configFile, p.logsDir, p.logFile]

def ensureDirs (p : Paths) (d : Disk.Tree) : Except IoError Disk.Tree := do
  let d ← d.createDirAll p.base
  d.createDirAll p.logsDir

end Paths

inductive StoreError where
  | invalid (reason : String)
  | io (e : IoError)
  | json (e : Json.ReadError)

namespace StoreError

def tag : StoreError → String
  | .invalid _ => "Config"
  | .io _ => "Io"
  | .json _ => "Json"

def text : StoreError → String
  | .invalid r => "Configuration error: " ++ r
  | .io e => "IO error: " ++ e.text
  | .json e => "JSON error: " ++ e.text

def structural : StoreError → String
  | .invalid r => "Config(" ++ Text.debugQuote r ++ ")"
  | .io e => "Io(" ++ e.structural ++ ")"
  | .json e =>
    let (line, column) := e.place.getD (0, 0)
    "Json(Error(" ++ Text.debugQuote e.problem.text ++ ", line: " ++ toString line ++
      ", column: " ++ toString column ++ "))"

end StoreError

namespace Config

def loadFile (d : Disk.Tree) (path : String) : Except StoreError Config :=
  match d.read path with
  | .error e => .error (.io e)
  | .ok text =>
    match Config.parse text with
    | .error e => .error (.json e)
    | .ok c => .ok c

/-- The settings in effect: the settings file when it exists, else the defaults, with the
environment's overrides, checked. -/
def load (d : Disk.Tree) (p : Paths) (env : String → Option String) : Except StoreError Config := do
  let c ← if d.exists? p.configFile then loadFile d p.configFile
    else pure Config.default
  let c := c.applyOverrides env
  match c.engine.validate with
  | some r => throw (.invalid r)
  | none => return c

def fileText (c : Config) : String := c.toValue.pretty

def save (c : Config) (d : Disk.Tree) (p : Paths) : Except StoreError Disk.Tree := do
  let d ← (p.ensureDirs d).mapError .io
  (d.write p.configFile c.fileText).mapError .io

end Config

end FrameRpc
