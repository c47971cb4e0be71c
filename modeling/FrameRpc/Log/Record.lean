import FrameRpc.Json.Value
import FrameRpc.Text.Literal

/-!
Log records.

A record has a level, a target (the module that raised it), an optional message and
named fields in the order they were written. A field keeps how its value was given,
because the two renderings differ: in JSON, texts of every kind are strings and numbers
stay numbers; in the one-line human form, a plain string is shown quoted and escaped,
while shown and inspected values stand as they are.
-/

namespace FrameRpc.Log

inductive Level where
  | trace
  | debug
  | info
  | warn
  | error
  deriving DecidableEq, Repr

namespace Level

/-- Verbosity: 5 for `trace` down to 1 for `error`. A filter at verbosity `v` lets through
the levels of verbosity at most `v`. -/
def verbosity : Level → Nat
  | .trace => 5
  | .debug => 4
  | .info => 3
  | .warn => 2
  | .error => 1

def name : Level → String
  | .trace => "TRACE"
  | .debug => "DEBUG"
  | .info => "INFO"
  | .warn => "WARN"
  | .error => "ERROR"

def ofName? : String → Option Level
  | "trace" => some .trace
  | "debug" => some .debug
  | "info" => some .info
  | "warn" => some .warn
  | "error" => some .error
  | _ => none

end Level

inductive FieldValue where
  | text (s : String)
  | shown (s : String)
  | inspected (s : String)
  | nat (n : Nat)
  | int (n : Int)
  | bool (b : Bool)
  | failure (s : String)
  deriving DecidableEq, Repr

def FieldValue.toValue : FieldValue → Json.Value
  | .text s | .shown s | .inspected s | .failure s => .str s
  | .nat n => .nat n
  | .int n => .int n
  | .bool b => .bool b

def FieldValue.inline : FieldValue → String
  | .text s => Text.debugQuote s
  | .shown s | .inspected s | .failure s => s
  | .nat n => toString n
  | .int n => toString n
  | .bool b => toString b

/-- One log record. `spans` are the spans it was raised in, outermost first. -/
structure Record where
  level : Level
  target : String
  message : Option String
  fields : List (String × FieldValue)
  spans : List String
  deriving DecidableEq, Repr

def Record.plain (level : Level) (target message : String) (fields : List (String × FieldValue)) :
    Record :=
  { level, target, message := some message, fields, spans := [] }

def insertSorted (key : String) (v : Json.Value) : List (String × Json.Value) → List (String × Json.Value)
  | [] => [(key, v)]
  | (k, w) :: rest =>
    if key < k then (key, v) :: (k, w) :: rest
    else if key = k then (key, v) :: rest
    else (k, w) :: insertSorted key v rest

/-- The fields as a JSON object with sorted keys; a key written twice keeps its last value. -/
def fieldsValue (fields : List (String × FieldValue)) : List (String × Json.Value) :=
  fields.foldl (fun acc (k, v) => insertSorted k v.toValue acc) []

/-- The record as JSON: level, service, target, message (empty when absent), the fields
when there are any, and the innermost span when there is one. Time and process id are
left out. -/
def Record.toValue (service : String) (r : Record) : Json.Value :=
  let fs := fieldsValue r.fields
  .obj ([("level", .str r.level.name), ("service", .str service), ("target", .str r.target),
    ("message", .str (r.message.getD ""))] ++
    (if fs.isEmpty then [] else [("fields", .obj fs)]) ++
    (match r.spans.getLast? with
     | some s => [("span", .str s)]
     | none => []))

end FrameRpc.Log
