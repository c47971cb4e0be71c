import FrameRpc.Log.Record
import FrameRpc.Pattern.Check
import FrameRpc.Text.Chars
import FrameRpc.Text.Literal
import FrameRpc.Text.Utf8

/-!
Filter directives.

A directive is a level alone, or a target (a prefix of module paths), then optionally a
span name in brackets with field names in braces, then optionally `=` and a level; a
directive that names no level, or ends in `=` with nothing after it, lets every level
through. A word that reads as a level is
that level when it stands alone, and a target when `=` or `[` follows it.

A level is a number from 0 (off) to 5 (trace), in decimal with an optional `+` and any
leading zeros, or a level name in any case; read as a level on its own, the empty text
is `error`.

A field may ask for a value: `true` or `false`, a number, or else a pattern, which must
be usable (see `Pattern.check`).

Reading goes character by character over the directive with blanks trimmed from both
ends, while the pieces it cuts out are taken from the directive as given at the same byte
offsets: leading blanks shift every piece, and trailing blanks stay on the last one. When
such an offset falls inside a character of the directive as given, the program stops.
-/

namespace FrameRpc.Log

abbrev Bound := Nat

/-- The bound a level text names: decimal digits for 0 to 5, a level name in any case,
or the empty text for `error`. -/
def Bound.parse? (s : String) : Option Bound :=
  match Text.parseNat s (Nat.pow 2 64 - 1) with
  | .ok n => if n ≤ 5 then some n else none
  | .error _ =>
    match s.toLower with
    | "" | "error" => some 1
    | "off" => some 0
    | "warn" => some 2
    | "info" => some 3
    | "debug" => some 4
    | "trace" => some 5
    | _ => none

inductive DirectiveError where
  | malformed
  | badLevel
  | badField (e : Pattern.PatternError)
  | midChar (m : Text.MidChar)
  deriving DecidableEq, Repr

def DirectiveError.text : DirectiveError → String
  | .malformed => "invalid filter directive"
  | .badLevel =>
    "error parsing level filter: expected one of \"off\", \"error\", \"warn\", \"info\", " ++
      "\"debug\", \"trace\", or a number 0-5"
  | .badField e => "invalid field filter: " ++ e.text
  | .midChar m => m.text

def DirectiveError.fault? : DirectiveError → Option Text.MidChar
  | .midChar m => some m
  | _ => none

structure FieldMatch where
  name : String
  value : Option String
  deriving DecidableEq, Repr

def isPlainValue (v : String) : Bool :=
  v == "true" || v == "false" || Text.isFloatText v

/-- Reads `name` or `name=value`, where anything after a second `=` is dropped; a value
that is not a boolean or a number must be a usable pattern. -/
def FieldMatch.parse (s : String) : Except DirectiveError FieldMatch :=
  match s.splitOn "=" with
  | name :: value :: _ =>
    if isPlainValue value then .ok { name, value := some value }
    else
      match Pattern.check value with
      | some e => .error (.badField e)
      | none => .ok { name, value := some value }
  | _ => .ok { name := s, value := none }

structure Directive where
  target : Option String
  span : Option String
  fields : List FieldMatch
  bound : Bound
  deriving DecidableEq, Repr

def Directive.isDynamic (d : Directive) : Bool := d.span.isSome || !d.fields.isEmpty

def Directive.blank : Directive := { target := none, span := none, fields := [], bound := 5 }

/-- Where reading a directive stands; positions are byte offsets where a piece starts. -/
inductive Phase where
  | start
  | word (pos : Nat)
  | span (pos : Nat)
  | field (pos : Nat)
  | fieldsEnd
  | spanEnd
  | level (pos : Nat)
  deriving DecidableEq, Repr

def startsTarget (c : Char) : Bool :=
  Text.isAlphanumeric c || c == '-' || c == ':' || c == '_'

def Phase.step (cut : Nat → Nat → Except Text.MidChar String) (d : Directive) :
    Phase → Nat → Char → Except DirectiveError (Phase × Directive)
  | .start, i, '[' => .ok (.span (i + 1), d)
  | .start, i, c => if startsTarget c then .ok (.word i, d) else .error .malformed
  | .word p, i, '=' => do
    let t ← (cut p i).mapError .midChar
    .ok (.level (i + 1), { d with target := some t })
  | .word p, i, '[' => do
    let t ← (cut p i).mapError .midChar
    .ok (.span (i + 1), { d with target := some t })
  | .word p, _, _ => .ok (.word p, d)
  | .spanEnd, i, '=' => .ok (.level (i + 1), d)
  | .span p, i, ']' => do
    let name ← (cut p i).mapError .midChar
    .ok (.spanEnd, { d with span := some name })
  | .span p, i, '\x7b' => do
    let name ← (cut p i).mapError .midChar
    .ok (.field (i + 1), { d with span := if name.isEmpty then none else some name })
  | .span p, _, _ => .ok (.span p, d)
  | .field p, i, '\x7d' => do
    let f ← (cut p i).mapError .midChar
    if f.isEmpty then .error .malformed
    else
      let m ← FieldMatch.parse f
      .ok (.fieldsEnd, { d with fields := d.fields ++ [m] })
  | .field p, _, _ => .ok (.field p, d)
  | .fieldsEnd, _, ']' => .ok (.spanEnd, d)
  | .level p, _, _ => .ok (.level p, d)
  | _, _, _ => .error .malformed

def Phase.finish (rest : Nat → Except Text.MidChar String) (d : Directive) :
    Phase → Except DirectiveError Directive
  | .word p => do
    let w ← (rest p).mapError .midChar
    match Bound.parse? w with
    | some b => .ok { d with bound := b }
    | none => .ok { d with target := some w }
  | .level p => do
    let w ← (rest p).mapError .midChar
    if w.isEmpty then .ok { d with bound := 5 }
    else
      match Bound.parse? w with
      | some b => .ok { d with bound := b }
      | none => .error .badLevel
  | .spanEnd => .ok d
  | _ => .error .malformed

def Directive.parse (s : String) : Except DirectiveError Directive :=
  let cs := s.toList
  let cut : Nat → Nat → Except Text.MidChar String := Text.cutBytes cs
  let trimmed := (cs.dropWhile Text.isSpace).reverse.dropWhile Text.isSpace |>.reverse
  match (Text.charOffsets trimmed).foldlM (fun (ph, d) (i, c) => ph.step cut d i c)
      (Phase.start, blank) with
  | .error e => .error e
  | .ok (ph, d) => ph.finish (fun p => cut p s.utf8ByteSize) d

end FrameRpc.Log
