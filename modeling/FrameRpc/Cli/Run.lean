import FrameRpc.Cli.Tool
import FrameRpc.Bench.Ping
import FrameRpc.Bench.Report
import FrameRpc.Config.Store
import FrameRpc.Log.Setup
import FrameRpc.Text.Utf8

/-!
Running the `emcdi` tool on a host: a disk, environment variables and a home directory.

A command line that does not read prints the usage error and ends with code 2; help and
version print and end with 0. Otherwise the settings are loaded from the base directory
(`--base-dir`, else `.emcdi` under the home directory); a missing home directory or
settings that cannot be loaded end the run with code 1 before logging is set up.
Logging is then set up with the log level from the command line, the environment or the
settings, writing to the base directory's log file, and the command runs; a filter that
stops the program while it is made ends the run there. A command that fails prints `Error: ` and
the error's structure on standard error and ends with code 1.

`ping` prints the channel, the opcode in hexadecimal, the size of the answer, the time
taken and the answer read as UTF-8; `soak` prints its report and `config` the settings,
both as indented JSON.
-/

namespace FrameRpc.Cli

open Disk Bench

structure Host where
  disk : Disk.Tree
  env : List (String × String)
  home : Option String
  stamp : String

def Host.var (h : Host) (name : String) : Option String := h.env.lookup name

structure Exit where
  code : Nat
  stdout : String
  stderr : String
  disk : Disk.Tree

def pingLine (c : Channel) (opcode : UInt16) (reply : List UInt8) (ms : Nat) : String :=
  c.name ++ " opcode=" ++ Hex.prefixed 6 opcode.toNat ++ " " ++ toString reply.length ++
    " bytes in " ++ toString ms ++ ".000 ms: " ++ Text.decodeLossy reply ++ "\n"

/-- How an action ends: with what it prints, with the structure of the error it fails
with, or stopped by a fault. -/
inductive Ending where
  | printed (out : String)
  | failed (why : String)
  | stopped (fault : String)

/-- Runs an action with the loaded settings, keeping the records the filter allows: how it
ends, and the records. -/
def Action.perform (config : Config) (filter : Log.Filter) : Action → Ending × List Log.Record
  | .showConfig => (.printed (config.toValue.pretty ++ "\n"), [])
  | .ping c opcode payload =>
    match runPing config.engine c opcode payload.toUTF8.toList (some filter) tool.name with
    | .error e => (.failed e.structural, [])
    | .ok (.ok (.ok reply, ms), records) => (.printed (pingLine c opcode reply ms), records)
    | .ok (.ok (.error e, _), records) => (.failed e.structural, records)
    | .ok (.error fault, records) => (.stopped fault, records)
  | .soak plan =>
    match runSoak config.engine plan (some filter) tool.name with
    | .error e => (.failed e.structural, [])
    | .ok (report, records) => (.printed (report.toValue.pretty ++ "\n"), records)

def logSettings (g : Globals) (config : Config) (paths : Paths) : Log.Settings :=
  { service := "emcdi", defaultLevel := g.logLevel.getD config.logLevel,
    logPath := some paths.logFile, jsonFile := true, alsoStderr := g.verbose }

def Host.perform (h : Host) (inv : Invocation) (paths : Paths) : Exit :=
  match Config.load h.disk paths h.var with
  | .error e => { code := 1, stdout := "", stderr := "Error: " ++ e.structural ++ "\n", disk := h.disk }
  | .ok config =>
    let settings := logSettings inv.globals config paths
    let (d, logger, setup) := settings.install h.home (h.var "RUST_LOG") h.disk
    let made := Log.makeFilter (h.var "RUST_LOG") settings.defaultLevel
    match made.fault with
    | some m =>
      { code := Log.faultCode, stdout := "",
        stderr := String.join ((made.notices ++ [m.text]).map (· ++ "\n")), disk := d }
    | none =>
      let (result, records) := inv.action.perform config logger.filter
      let (d, lines) := logger.publish h.stamp d (setup.toList ++ records)
      let notices := logger.notices (h.var "RUST_LOG") settings.defaultLevel
      let logged := String.join ((notices ++ lines).map (· ++ "\n"))
      match result with
      | .printed out => { code := 0, stdout := out, stderr := logged, disk := d }
      | .failed why =>
        { code := 1, stdout := "", stderr := logged ++ "Error: " ++ why ++ "\n", disk := d }
      | .stopped fault =>
        { code := Log.faultCode, stdout := "", stderr := logged ++ fault ++ "\n", disk := d }

def Host.paths (h : Host) (g : Globals) : Option Paths :=
  match g.baseDir with
  | some b => some ⟨b⟩
  | none => h.home.map Paths.ofHome

def Host.run (h : Host) (args : List String) : Exit :=
  match Invocation.read h.var args with
  | .error (.show text) => { code := 0, stdout := text, stderr := "", disk := h.disk }
  | .error (.fail e) => { code := 2, stdout := "", stderr := e.render, disk := h.disk }
  | .ok inv =>
    match h.paths inv.globals with
    | some paths => h.perform inv paths
    | none =>
      { code := 1, stdout := "", stderr := "Error: Path(\"Could not determine home directory\")\n",
        disk := h.disk }

end FrameRpc.Cli
