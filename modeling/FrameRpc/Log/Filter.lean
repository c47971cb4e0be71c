import FrameRpc.Log.Directive

/-!
Which log records are kept.

A filter is a comma-separated list of directives. Directives without a span and without
field values are static: for an event, the most specific one that applies decides, where
a directive applies when its target is a prefix of the event's target and the event
names each of its fields (a longer target is more specific, then more fields; a later
directive replaces one with the same target and fields). When none applies, the event
is dropped. Directives with a span or with fields are dynamic: a span they name is
tracked, and while it is entered it lets through every event up to the highest level
they give it.

A span is entered when the static directives let its level through, or while a tracked
span lets it through, or when a dynamic directive names it and its level is within the
filter's reach; the reach is the highest level any directive ever added gave, and every
level when a directive asks for a field value. A record names the spans that were
entered.

Read leniently, a filter with no directive that reads keeps only errors; read strictly
from the environment, a filter with no directive at all keeps nothing. Either way, a directive whose pieces
would be cut inside a character stops the program.
-/

namespace FrameRpc.Log

structure StaticDirective where
  target : Option String
  fieldNames : List String
  bound : Bound
  deriving DecidableEq, Repr

/-- The static part of a directive: none when it names a span or a field value. -/
def Directive.toStatic? (d : Directive) : Option StaticDirective :=
  if d.span.isNone && d.fields.all (·.value.isNone) then
    some { target := d.target, fieldNames := d.fields.map (·.name), bound := d.bound }
  else none

def compareOption {α : Type} [Ord α] : Option α → Option α → Ordering
  | none, none => .eq
  | none, some _ => .lt
  | some _, none => .gt
  | some a, some b => compare a b

def compareLex {α : Type} [Ord α] : List α → List α → Ordering
  | [], [] => .eq
  | [], _ :: _ => .lt
  | _ :: _, [] => .gt
  | a :: as, b :: bs =>
    match compare a b with
    | .eq => compareLex as bs
    | o => o

/-- Specificity order of static directives, most specific first: a longer target (any
target before none), then more field names, then the greater target and field names. -/
def StaticDirective.rank (a b : StaticDirective) : Ordering :=
  (compareOption (a.target.map String.length) (b.target.map String.length)
    |>.then (compare a.fieldNames.length b.fieldNames.length)
    |>.then (compareOption a.target b.target)
    |>.then (compareLex a.fieldNames b.fieldNames)).swap

def insertRanked {α : Type} (cmp : α → α → Ordering) (x : α) : List α → List α
  | [] => [x]
  | y :: ys =>
    match cmp x y with
    | .lt => x :: y :: ys
    | .eq => x :: ys
    | .gt => y :: insertRanked cmp x ys

/-- Whether two dynamic directives have the same target, span and fields, so that the
later replaces the earlier. -/
def Directive.sameScope (a b : Directive) : Bool :=
  a.target == b.target && a.span == b.span && a.fields == b.fields

def addDynamic (d : Directive) (ds : List Directive) : List Directive :=
  if ds.any (·.sameScope d) then ds.map fun e => if e.sameScope d then d else e else ds ++ [d]

/-- A filter: static directives, most specific first, dynamic directives, and the highest
bounds ever added to each. -/
structure Filter where
  statics : List StaticDirective
  dynamics : List Directive
  staticMax : Bound
  dynamicMax : Bound
  deriving DecidableEq, Repr

def Filter.build (ds : List Directive) : Filter :=
  let dyns := ds.filter (·.isDynamic)
  let stats := (ds.filter (!·.isDynamic)).filterMap (·.toStatic?) ++ dyns.filterMap (·.toStatic?)
  { statics := stats.foldl (fun acc d => insertRanked StaticDirective.rank d acc) [],
    dynamics := dyns.foldl (fun acc d => addDynamic d acc) [],
    staticMax := stats.foldl (fun m d => max m d.bound) 0,
    dynamicMax := dyns.foldl (fun m d => max m d.bound) 0 }

def Filter.errorsOnly : Filter := Filter.build [{ Directive.blank with bound := 1 }]

def Filter.silent : Filter := Filter.build []

/-- The filter of a list of directives; with none at all it keeps only errors. -/
def Filter.ofDirectives (ds : List Directive) : Filter :=
  if ds.isEmpty then Filter.errorsOnly else Filter.build ds

def pieces (s : String) : List String := (s.splitOn ",").filter (!·.isEmpty)

/-- Reads pieces in order, stopping after the first that would be cut inside a
character. -/
def readPieces : List String → List (String × Except DirectiveError Directive)
  | [] => []
  | p :: ps =>
    match Directive.parse p with
    | .error (.midChar m) => [(p, .error (.midChar m))]
    | r => (p, r) :: readPieces ps

/-- A filter from text, skipping directives that do not read; the skipped ones are
returned too, each with why, in order. A directive that would be cut inside a character
ends the reading: it is the last one returned, and the program stops there. -/
def Filter.lossy (s : String) : Filter × List (String × DirectiveError) :=
  let read := readPieces (pieces s)
  (Filter.ofDirectives (read.filterMap fun (_, r) => r.toOption),
   read.filterMap fun (p, r) => match r with
     | .error e => some (p, e)
     | .ok _ => none)

/-- The cut inside a character at which reading a filter text leniently stops the
program, if any. -/
def Filter.lossyFault? (s : String) : Option Text.MidChar :=
  (Filter.lossy s).2.findSome? (·.2.fault?)

/-- A filter from the environment's text: `none` when a directive does not read, or the
cut that stops the program when reading meets one first. A text without directives, such
as the empty text or commas alone, keeps nothing. -/
def Filter.strict? (s : String) : Except Text.MidChar (Option Filter) :=
  match (pieces s).mapM Directive.parse with
  | .ok ds => .ok (some (Filter.build ds))
  | .error (.midChar m) => .error m
  | .error _ => .ok none

structure Span where
  name : String
  level : Level
  target : String
  deriving DecidableEq, Repr

/-- An event as it is raised: its level, the module that raises it, its message, the
fields given a value in the order written, the fields its call site names but left
without a value, and the spans it is raised in, outermost first. -/
structure Event where
  level : Level
  target : String
  message : Option String
  fields : List (String × FieldValue)
  unset : List String
  spans : List Span

def Event.declared (e : Event) : List String := "message" :: e.fields.map (·.1) ++ e.unset

/-- Whether a static directive applies to a target; for an event, given the names of its
fields, the event must name each field of the directive. -/
def StaticDirective.covers (d : StaticDirective) (target : String) (names : Option (List String)) :
    Bool :=
  (match d.target with
   | some t => t.isPrefixOf target
   | none => true) &&
  (match names with
   | some ns => d.fieldNames.all ns.contains
   | none => true)

def Filter.staticAllows (f : Filter) (target : String) (level : Level)
    (names : Option (List String)) : Bool :=
  match f.statics.find? (·.covers target names) with
  | some d => level.verbosity ≤ d.bound
  | none => false

/-- The highest level of every directive the filter was made of, or every level when a
directive asks for a field value. -/
def Filter.reach (f : Filter) : Bound :=
  if f.dynamics.any (·.fields.any (·.value.isSome)) then 5 else max f.staticMax f.dynamicMax

def Directive.names (d : Directive) (s : Span) : Bool :=
  (match d.target with
   | some t => t.isPrefixOf s.target
   | none => true) &&
  d.span == some s.name && d.fields.isEmpty

def Filter.spanBound? (f : Filter) (s : Span) : Option Bound :=
  (f.dynamics.filter (·.names s)).foldl (fun acc d => some (max (acc.getD 0) d.bound)) none

def Filter.entersSpan (f : Filter) (scope : List Bound) (s : Span) : Bool :=
  ((f.spanBound? s).isSome && s.level.verbosity ≤ f.reach) ||
    f.staticAllows s.target s.level none || scope.any (s.level.verbosity ≤ ·)

/-- Enters spans in order, outermost first: the names of the spans entered, and the
bounds of the tracked ones among them. -/
def Filter.enter (f : Filter) (spans : List Span) : List String × List Bound :=
  spans.foldl (fun (names, scope) s =>
    if f.entersSpan scope s then (names ++ [s.name], scope ++ (f.spanBound? s).toList)
    else (names, scope)) ([], [])

def Filter.allows (f : Filter) (scope : List Bound) (e : Event) : Bool :=
  f.staticAllows e.target e.level (some e.declared) || scope.any (e.level.verbosity ≤ ·)

/-- The record kept for an event, when the filter lets it through: it names the spans
that were entered. -/
def Filter.keep (f : Filter) (e : Event) : Option Record :=
  let (names, scope) := f.enter e.spans
  if f.allows scope e then
    some { level := e.level, target := e.target, message := e.message, fields := e.fields,
           spans := names }
  else none

def Filter.upTo (level : Level) : Filter :=
  Filter.build [{ Directive.blank with bound := level.verbosity }]

end FrameRpc.Log
