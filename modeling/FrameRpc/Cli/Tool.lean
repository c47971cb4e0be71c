import FrameRpc.Cli.Parse
import FrameRpc.Bench.Soak

/-!
The command line of the `emcdi` tool.

Three commands drive the engine against the simulated peer: `ping` sends one command and
prints the answer, `soak` runs many calls with injected faults and prints per-channel
counters, and `config` prints the effective settings. Before or after the command, `-l`
picks the log level (else `EMCDI_LOG_LEVEL`, else the configured one), `--base-dir` the
directory holding settings and logs, and `-v` copies log lines to standard error.
-/

namespace FrameRpc.Cli

open Bench

def logLevelOpt : Opt :=
  { id := "log_level", short := some 'l', long := "log-level", valueName := "LOG_LEVEL",
    help := "Log level (trace, debug, info, warn, error). Defaults to the configured level",
    kind := .text, arity := .single, default := none, env := some "EMCDI_LOG_LEVEL" }

def baseDirOpt : Opt :=
  { id := "base_dir", short := none, long := "base-dir", valueName := "BASE_DIR",
    help := "Base directory for config and logs. Defaults to ~/.emcdi",
    kind := .path, arity := .single, default := none, env := none }

def verboseOpt : Opt :=
  { id := "verbose", short := some 'v', long := "verbose", valueName := "",
    help := "Mirror log lines to stderr", kind := .text, arity := .flag, default := none,
    env := none }

def valued (id : String) (short : Option Char) (long valueName help : String) (kind : ValueKind)
    (default : Option String) : Opt :=
  { id, short, long, valueName, help, kind, arity := .single, default, env := none }

def pingChannelOpt : Opt :=
  valued "channel" (some 'c') "channel" "CHANNEL"
    "Channel to use (control, counter, upgrade, spawn, logger)" .channel (some "control")

def opcodeOpt : Opt :=
  valued "opcode" (some 'o') "opcode" "OPCODE" "Opcode to send" .opcode (some "1")

def payloadArg : Positional :=
  { id := "payload", valueName := "PAYLOAD", help := "Payload text", kind := .text,
    default := some "ping" }

def soakChannelOpt : Opt :=
  { id := "channel", short := some 'c', long := "channel", valueName := "CHANNEL",
    help := "Channels to exercise; repeat or comma-separate. Defaults to all",
    kind := .channel, arity := .repeated (some ','), default := none, env := none }

def callsOpt : Opt := valued "calls" (some 'n') "calls" "CALLS" "Calls per channel" .count (some "1000")

def concurrencyOpt : Opt :=
  valued "concurrency" (some 'j') "concurrency" "CONCURRENCY" "Concurrent callers per channel"
    .count (some "4")

def payloadLenOpt : Opt :=
  valued "payload_len" none "payload-len" "PAYLOAD_LEN" "Payload size in bytes" .count (some "64")

def busyOpt : Opt :=
  valued "busy" none "busy" "BUSY" "Probability that a transmit is refused as busy" .probability
    (some "0")

def lossOpt : Opt :=
  valued "loss" none "loss" "LOSS" "Probability that a request is never answered" .probability
    (some "0")

def queueFullOpt : Opt :=
  valued "queue_full" none "queue-full" "QUEUE_FULL"
    "Probability that a request is answered with queue-full" .probability (some "0")

def latencyOpt : Opt :=
  valued "latency_ms" none "latency-ms" "LATENCY_MS" "Simulated response latency in milliseconds"
    .count (some "1")

def pingCommand : Command :=
  { name := "ping", about := "Send one command and print the response",
    options := [pingChannelOpt, opcodeOpt], positionals := [payloadArg] }

def soakCommand : Command :=
  { name := "soak", about := "Run concurrent calls with injected faults and print per-channel counters",
    options := [soakChannelOpt, callsOpt, concurrencyOpt, payloadLenOpt, busyOpt, lossOpt,
      queueFullOpt, latencyOpt],
    positionals := [] }

def configCommand : Command :=
  { name := "config", about := "Print the effective configuration", options := [], positionals := [] }

def tool : Program :=
  { name := "emcdi",
    about := "Drive the eMCDI command/response engine against a simulated companion processor",
    version := "0.1.0", globals := [logLevelOpt, baseDirOpt, verboseOpt],
    commands := [pingCommand, soakCommand, configCommand] }

structure Globals where
  logLevel : Option String
  baseDir : Option String
  verbose : Bool
  deriving Repr

inductive Action where
  | ping (channel : Channel) (opcode : UInt16) (payload : String)
  | soak (plan : SoakPlan)
  | showConfig

structure Invocation where
  globals : Globals
  action : Action

namespace ArgValue

def text? : ArgValue → Option String
  | .text s => some s
  | _ => none

def nat? : ArgValue → Option Nat
  | .nat n => some n
  | _ => none

def float? : ArgValue → Option Float
  | .float x => some x
  | _ => none

def channel? : ArgValue → Option Channel
  | .channel c => some c
  | _ => none

end ArgValue

/-- What was read, as an invocation. Options always have a value here, from the line or
from their defaults; the fallbacks below are never reached. -/
def Reading.invocation (r : Reading) (env : String → Option String) : Invocation :=
  let one {α : Type} (o : Opt) (f : ArgValue → Option α) : Option α :=
    (r.optValues env o).head?.bind f
  let globals : Globals :=
    { logLevel := one logLevelOpt ArgValue.text?, baseDir := one baseDirOpt ArgValue.text?,
      verbose := r.flag verboseOpt }
  let action := match r.command with
    | some c =>
      if c.name == "ping" then
        .ping ((one pingChannelOpt ArgValue.channel?).getD .control)
          ((one opcodeOpt ArgValue.nat?).getD 1).toUInt16
          (((r.argValues env payloadArg).head?.bind ArgValue.text?).getD "")
      else if c.name == "soak" then
        let chosen := (r.optValues env soakChannelOpt).filterMap ArgValue.channel?
        .soak { channels := if chosen.isEmpty then Channel.all else chosen,
                calls := (one callsOpt ArgValue.nat?).getD 0,
                concurrency := (one concurrencyOpt ArgValue.nat?).getD 0,
                payloadLen := (one payloadLenOpt ArgValue.nat?).getD 0,
                faults := { busy := (one busyOpt ArgValue.float?).getD 0,
                            loss := (one lossOpt ArgValue.float?).getD 0,
                            queueFull := (one queueFullOpt ArgValue.float?).getD 0,
                            latency := (one latencyOpt ArgValue.nat?).getD 0 } }
      else .showConfig
    | none => .showConfig
  { globals, action }

/-- Reads a command line (without the program's name): what to do, or the text to print
and stop with. -/
def Invocation.read (env : String → Option String) (args : List String) : Except Stop Invocation :=
  (readAll tool env Reading.start args).map (·.invocation env)

end FrameRpc.Cli
