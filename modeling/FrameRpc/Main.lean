import FrameRpc.Cli.Run

/-!
The `emcdi` program on the real file system.

The files the tool may see or change are known once its command line is read: the
directories down to the base directory, the settings file, the log directory and the
log file. Their state is read into a disk tree, the tool runs on the tree, and what it
changed is carried back: directories it made are made, and text it added to a file is
appended to it. What the tool printed goes to standard output and standard error, and
its exit code is the program's.

Log lines on standard error are stamped with the seconds since the program started.
-/

namespace FrameRpc.Cli

open Disk

def knownVariables : List String :=
  ["EMCDI_LOG_LEVEL", "EMCDI_ATTEMPT_TIMEOUT_MS", "EMCDI_RETRY_BUDGET", "RUST_LOG"]

def probe (path : String) : IO (Option Node) := do
  match ← (IO.FS.readFile path).toBaseIO with
  | .ok text => return some (.file text)
  | .error (.inappropriateType _ code _) => return if code == 21 then some .dir else none
  | .error _ => return none

def snapshot (paths : List String) : IO Disk.Tree :=
  paths.foldlM (fun d s => do
    match ← probe s with
    | some n => return d.put (Path.lexical s) n
    | none => return d) Disk.Tree.empty

def appendText (path text : String) : IO Unit := do
  let h ← IO.FS.Handle.mk path .append
  h.putStr text
  h.flush

/-- Carries the changes between two trees back to the given paths: a directory that was
not there is made, and text added at the end of a file is appended to it. -/
def writeBack (paths : List String) (before after : Disk.Tree) : IO Unit := do
  for s in paths do
    let p := Path.lexical s
    match before.node? p, after.node? p with
    | some .dir, _ => pure ()
    | _, some .dir => IO.FS.createDirAll s
    | some (.file old), some (.file new) =>
      if new.length > old.length then appendText s (String.ofList (new.toList.drop old.length))
    | none, some (.file new) => appendText s new
    | _, _ => pure ()

def uptimeStamp (ms : Nat) : String :=
  let frac := toString (ms % 1000)
  toString (ms / 1000) ++ "." ++ String.ofList (List.replicate (3 - frac.length) '0') ++ frac ++ "s"

end FrameRpc.Cli

open FrameRpc FrameRpc.Cli in
def main (args : List String) : IO UInt32 := do
  let started ← IO.monoMsNow
  let env ← knownVariables.filterMapM fun k => do return (← IO.getEnv k).map (k, ·)
  let home := (← IO.getEnv "HOME").filter (!·.isEmpty)
  let host : Host := { disk := Disk.Tree.empty, env, home, stamp := "" }
  let paths := match Invocation.read host.var args with
    | .ok inv => ((host.paths inv.globals).map Paths.touched).getD []
    | .error _ => []
  let disk ← snapshot paths
  let stamp := uptimeStamp ((← IO.monoMsNow) - started)
  let exit := { host with disk, stamp }.run args
  try writeBack paths disk exit.disk catch _ => pure ()
  (← IO.getStdout).putStr exit.stdout
  (← IO.getStderr).putStr exit.stderr
  return exit.code.toUInt32
