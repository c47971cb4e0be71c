import FrameRpc.Text.Chars
import FrameRpc.Text.Literal

/-!
Which texts are usable patterns for field values.

A pattern is read as a regular expression over UTF-8 text. It does not read when a group
is left open or closed without being opened, a repetition (`?`, `*`, `+`, `{n}`, `{n,}`,
`{n,m}` with `n ≤ m`, each optionally followed by `?`) has nothing before it, a brace
starts no repetition, a bracketed class is left open or has a range running backwards or
between non-characters, an escape is unknown (letters and digits are reserved, other
ASCII characters stand for themselves), a hexadecimal escape is no character, a
`\p{…}` class names no property, a group name is empty, repeated or badly spelled, or a
flag group is empty, repeats a flag or ends in `-`.

Flags `(?flags)` hold to the end of the enclosing group, `(?flags:…)` inside its group.
With `x`, blanks and `#` comments are skipped. With `u` turned off, the pattern works on
bytes, and then may not match what is not UTF-8: no `.`, no `\B`, no character above
`7F`, and no class that reaches beyond ASCII, where every bracketed class, every named
class such as `[:^alpha:]` and every `\D`, `\S` or `\W` is looked at by itself, after
its own negation.

The matcher carries no Unicode tables: no `\p` class is known, `\d`, `\s` and `\w` (and
their negations) are refused with `u` on, and so is any character or class item that
would have to be matched without regard to case (`i`) with `u` on.

Nesting is bounded: counting each group, repetition, alternation, concatenation of two
or more items, bracketed class, union of two or more class items and class set operation
that encloses a part of the pattern, no part may sit more than 250 deep.

A pattern that reads may still ask for a word boundary in the Unicode sense (`\b`, `\B`,
`\b{start}`, `\<` and the like with `u` on), which the matcher cannot check, unless the
boundary sits under a repetition of at most zero times, which drops it.
-/

namespace FrameRpc.Pattern

inductive PatternError where
  | unreadable
  | unicodeWordBoundary
  deriving DecidableEq, Repr

def PatternError.text : PatternError → String
  | .unreadable => "error building NFA"
  | .unicodeWordBoundary =>
    "unsupported regex feature for DFAs: cannot build DFAs for regexes with Unicode word " ++
      "boundaries; switch to ASCII word boundaries, or heuristically enable Unicode word " ++
      "boundaries or use a different regex engine"

/-- The flags that change how a pattern reads: Unicode mode, blanks skipped, and matching
without regard to case. -/
structure Flags where
  unicode : Bool
  spaced : Bool
  caseless : Bool
  deriving DecidableEq, Repr

/-- What the expression being read ends with: nothing yet, a flag group, or an item, with
whether it holds a Unicode word boundary. -/
inductive Last where
  | nothing
  | flags
  | item (wordBoundary : Bool)
  deriving DecidableEq, Repr

def Last.wordBoundary : Last → Bool
  | .item b => b
  | _ => false

/-- How deep the expression being read nests: the items of the current concatenation,
the deepest of them, the depth of the last one, and, once a `|` was seen, the deepest
alternative before the current one. -/
structure Shape where
  items : Nat
  deepest : Nat
  lastDepth : Nat
  branches : Option Nat
  deriving DecidableEq, Repr

def Shape.empty : Shape := ⟨0, 0, 0, none⟩

/-- The depth of the current concatenation: with two or more items it is one level above
the deepest, with one it is that item, with none it is nothing. -/
def Shape.concatDepth (s : Shape) : Nat := if s.items ≥ 2 then s.deepest + 1 else s.deepest

def Shape.depth (s : Shape) : Nat :=
  match s.branches with
  | none => s.concatDepth
  | some m => max m s.concatDepth + 1

def Shape.push (s : Shape) (d : Nat) : Shape :=
  { s with items := s.items + 1, deepest := max s.deepest d, lastDepth := d }

def Shape.repeatLast (s : Shape) : Shape :=
  { s with deepest := max s.deepest (s.lastDepth + 1), lastDepth := s.lastDepth + 1 }

def Shape.alternate (s : Shape) : Shape :=
  ⟨0, 0, 0, some (max (s.branches.getD 0) s.concatDepth)⟩

def nestLimit : Nat := 250

structure Frame where
  saved : Flags
  done : Bool
  last : Last
  shape : Shape
  deriving DecidableEq, Repr

/-- Where reading stands: the characters left, the flags, the open groups, whether a
Unicode word boundary was seen before the last item, the last item, the group names, and
how deep the expression of the innermost open group nests. -/
structure Reading where
  rest : List Char
  flags : Flags
  frames : List Frame
  done : Bool
  last : Last
  names : List String
  shape : Shape

abbrev Reader := StateT Reading (Except PatternError)

def fail {α : Type} : Reader α := throw .unreadable

def current : Reader (Option Char) := return (← get).rest.head?

def following : Reader (Option Char) := return (← get).rest.tail.head?

def atEnd : Reader Bool := return (← get).rest.isEmpty

def fuelHere : Reader Nat := return (← get).rest.length + 1

def bump : Reader Bool := do
  modify fun r => { r with rest := r.rest.drop 1 }
  return !(← atEnd)

def skipSpace (spaced : Bool) (inComment : Bool) : List Char → List Char
  | [] => []
  | c :: r =>
    if inComment then skipSpace spaced (c != '\n') r
    else if spaced && Text.isSpace c then skipSpace spaced false r
    else if spaced && c == '#' then skipSpace spaced true r
    else c :: r

def skipBlanks : Reader Unit :=
  modify fun r => { r with rest := skipSpace r.flags.spaced false r.rest }

def bumpAndSkip : Reader Bool := do
  discard bump
  skipBlanks
  return !(← atEnd)

def bumpIf (w : String) : Reader Bool := do
  let r ← get
  if w.toList.isPrefixOf r.rest then
    set { r with rest := r.rest.drop w.length }
    return true
  else return false

/-- The first character after the one at hand that is no blank (one `#` is passed over
too), or the one right after it when there is none such. -/
def peekSpacedIn : List Char → Bool → Option Char
  | [], _ => none
  | c :: r, seenHash =>
    if Text.isSpace c then peekSpacedIn r seenHash
    else if !seenHash && c == '#' then peekSpacedIn r true
    else some c

def peekSpaced : Reader (Option Char) := do
  let r ← get
  if !r.flags.spaced then return r.rest.tail.head?
  match r.rest with
  | [] => return none
  | _ :: after => return peekSpacedIn after false <|> after.head?

def pushItem (wordBoundary : Bool) (depth : Nat) : Reader Unit :=
  modify fun r => { r with done := r.done || r.last.wordBoundary, last := .item wordBoundary,
                           shape := r.shape.push depth }

/-! Repetitions -/

def skipWhile (p : Char → Bool) (skip : Reader Bool) : Nat → Reader Unit
  | 0 => pure ()
  | fuel + 1 => do
    match ← current with
    | some c => if p c then discard skip; skipWhile p skip fuel else pure ()
    | none => pure ()

def digitsLoop : Nat → List Char → Reader (List Char)
  | 0, acc => return acc
  | fuel + 1, acc => do
    match ← current with
    | some c =>
      if c.isDigit then
        discard bumpAndSkip
        digitsLoop fuel (acc ++ [c])
      else return acc
    | none => return acc

def decimal : Reader Nat := do
  skipWhile Text.isSpace bump (← fuelHere)
  let ds ← digitsLoop (← fuelHere) []
  skipWhile Text.isSpace bumpAndSkip (← fuelHere)
  if ds.isEmpty then fail
  let v := ds.foldl (fun n c => n * 10 + (c.toNat - '0'.toNat)) 0
  if v ≥ Nat.pow 2 32 then fail
  return v

def repeated : Reader Bool := do
  match (← get).last with
  | .item b => return b
  | _ => fail

def simpleRepeat : Reader Unit := do
  let b ← repeated
  if ← bump then
    if (← current) == some '?' then discard bump
  modify fun r => { r with last := .item b, shape := r.shape.repeatLast }

/-- `{n}`, `{n,}` or `{n,m}`, optionally followed by `?`; a repetition of at most zero
times drops what it repeats. -/
def countedRepeat : Reader Unit := do
  let b ← repeated
  if !(← bumpAndSkip) then fail
  let lo ← decimal
  if ← atEnd then fail
  let hi ← if (← current) == some ',' then do
      if !(← bumpAndSkip) then fail
      if (← current) != some '\x7d' then some <$> decimal else pure none
    else pure (some lo)
  if (← current) != some '\x7d' then fail
  if ← bumpAndSkip then
    if (← current) == some '?' then discard bump
  match hi with
  | some h => if lo > h then fail
  | none => pure ()
  modify fun r => { r with last := .item (b && hi != some 0), shape := r.shape.repeatLast }

/-! Groups -/

inductive FlagItem where
  | negation
  | flag (c : Char)
  deriving DecidableEq, Repr

def Flags.apply (f : Flags) (items : List FlagItem) : Flags :=
  (items.foldl (fun (acc : Flags × Bool) it =>
    match it with
    | .negation => (acc.1, true)
    | .flag 'u' => ({ acc.1 with unicode := !acc.2 }, acc.2)
    | .flag 'x' => ({ acc.1 with spaced := !acc.2 }, acc.2)
    | .flag 'i' => ({ acc.1 with caseless := !acc.2 }, acc.2)
    | .flag _ => acc) (f, false)).1

def isFlagLetter (c : Char) : Bool := ['i', 'm', 's', 'U', 'u', 'R', 'x'].contains c

/-- Reads flag items up to `:` or `)`: known letters, each at most once, at most one
`-`, and not ending in `-`. -/
def flagsLoop : Nat → List FlagItem → Bool → Reader (List FlagItem)
  | 0, _, _ => fail
  | fuel + 1, items, lastNegation => do
    match ← current with
    | none => fail
    | some c =>
      if c == ':' || c == ')' then
        if lastNegation then fail
        return items
      let item := if c == '-' then FlagItem.negation else .flag c
      if c != '-' && !(isFlagLetter c) then fail
      if items.contains item then fail
      if !(← bump) then fail
      flagsLoop fuel (items ++ [item]) (c == '-')

/-- Characters of a group name: a letter or `_` first, then letters, digits, `_`, `.`,
`[` and `]`. -/
def isNameChar (c : Char) (first : Bool) : Bool :=
  if first then c == '_' || Text.isAlphabetic c
  else c == '_' || c == '.' || c == '[' || c == ']' || Text.isAlphanumeric c

def nameLoop : Nat → List Char → Reader (List Char)
  | 0, acc => return acc
  | fuel + 1, acc => do
    match ← current with
    | none => return acc
    | some c =>
      if c == '>' then return acc
      if !isNameChar c acc.isEmpty then fail
      if !(← bump) then return acc ++ [c]
      nameLoop fuel (acc ++ [c])

/-- A group name and its closing `>`; names are not empty and not repeated. -/
def groupName : Reader Unit := do
  let cs ← nameLoop (← fuelHere) []
  if ← atEnd then fail
  discard bump
  let name := String.ofList cs
  if cs.isEmpty || (← get).names.contains name then fail
  modify fun r => { r with names := r.names ++ [name] }

def enterGroup (flags : Flags) : Reader Unit :=
  modify fun r => { r with frames := ⟨r.flags, r.done, r.last, r.shape⟩ :: r.frames, flags,
                           done := false, last := .nothing, shape := Shape.empty }

/-- After `(`: a named or plain group, a group with flags, or a flag group for the rest of
the enclosing group; look-around is not supported. -/
def openGroup : Reader Unit := do
  discard bump
  skipBlanks
  let rest := (← get).rest
  if ["?=", "?!", "?<=", "?<!"].any fun p => p.toList.isPrefixOf rest then fail
  let named ← do if ← bumpIf "?P<" then pure true else bumpIf "?<"
  if named then
    groupName
    enterGroup (← get).flags
  else if ← bumpIf "?" then
    if ← atEnd then fail
    let items ← flagsLoop (← fuelHere) [] false
    let closing ← current
    discard bump
    let flags := (← get).flags.apply items
    if closing == some ')' then
      if items.isEmpty then fail
      modify fun r => { r with flags, done := r.done || r.last.wordBoundary, last := .flags,
                               shape := r.shape.push 0 }
    else enterGroup flags
  else enterGroup (← get).flags

/-- After `)`: the group becomes one item of the expression around it, one level deeper
than what it holds. -/
def closeGroup : Reader Unit := do
  match (← get).frames with
  | [] => fail
  | f :: fs =>
    discard bump
    modify fun r => { r with frames := fs, flags := f.saved, done := f.done || f.last.wordBoundary,
                             last := .item (r.done || r.last.wordBoundary),
                             shape := f.shape.push (r.shape.depth + 1) }

def alternate : Reader Unit := do
  discard bump
  modify fun r => { r with done := r.done || r.last.wordBoundary, last := .nothing,
                           shape := r.shape.alternate }

/-! Escapes -/

inductive Assertion where
  | anchor
  | wordBoundary
  | notWordBoundary
  | wordEdge
  deriving DecidableEq, Repr

/-- A single item: a character, a class of digits, blanks or word characters, or an
assertion. -/
inductive Prim where
  | literal (c : Char)
  | perl (c : Char)
  | assertion (a : Assertion)
  deriving DecidableEq, Repr

def isHexDigit (c : Char) : Bool :=
  c.isDigit || ('a' ≤ c && c ≤ 'f') || ('A' ≤ c && c ≤ 'F')

def hexBraceLoop : Nat → List Char → Reader (List Char)
  | 0, acc => return acc
  | fuel + 1, acc => do
    if !(← bumpAndSkip) then return acc
    match ← current with
    | some c =>
      if c == '\x7d' then return acc
      if !isHexDigit c then fail
      hexBraceLoop fuel (acc ++ [c])
    | none => return acc

def hexFixedLoop : Nat → List Char → Reader (List Char)
  | 0, acc => return acc
  | n + 1, acc => do
    if !acc.isEmpty then
      if !(← bumpAndSkip) then fail
    match ← current with
    | some c => if isHexDigit c then hexFixedLoop n (acc ++ [c]) else fail
    | none => fail

/-- After `\x`, `\u` or `\U`: two, four or eight hexadecimal digits, or any number in
braces, naming a character. -/
def hexEscape : Reader Prim := do
  let kind ← current
  let width := match kind with
    | some 'x' => 2
    | some 'u' => 4
    | _ => 8
  if !(← bumpAndSkip) then fail
  let ds ← if (← current) == some '\x7b' then do
      let ds ← hexBraceLoop (← fuelHere) []
      if ← atEnd then fail
      discard bumpAndSkip
      if ds.isEmpty then fail
      pure ds
    else do
      let ds ← hexFixedLoop width []
      discard bumpAndSkip
      pure ds
  let v := Text.hexValue ds
  if v ≥ Nat.pow 2 32 || (0xD800 ≤ v && v ≤ 0xDFFF) || v > 0x10FFFF then fail
  return .literal (Char.ofNat v)

def isMetaChar (c : Char) : Bool :=
  ['\\', '.', '+', '*', '?', '(', ')', '|', '[', ']', '\x7b', '\x7d', '^', '$', '#', '&', '-',
    '~'].contains c

/-- Characters that may be escaped: the special ones, and ASCII characters other than
letters, digits, `<` and `>`. -/
def isEscapable (c : Char) : Bool :=
  isMetaChar c || (c.toNat < 128 && !c.isAlphanum && c != '<' && c != '>')

def edgeNameLoop : Nat → List Char → Reader (List Char)
  | 0, acc => return acc
  | fuel + 1, acc => do
    match ← current with
    | some c =>
      if c.isAlpha || c == '-' then
        discard bumpAndSkip
        edgeNameLoop fuel (acc ++ [c])
      else return acc
    | none => return acc

/-- After `\b` at a brace: `{start}`, `{end}`, `{start-half}` or `{end-half}`; `false`,
leaving the brace to a repetition, when no letter or hyphen follows it. -/
def wordEdgeSuffix : Reader Bool := do
  let saved := (← get).rest
  if !(← bumpAndSkip) then fail
  match ← current with
  | none => fail
  | some c =>
    if !(c.isAlpha || c == '-') then
      modify fun r => { r with rest := saved }
      return false
    let name ← edgeNameLoop (← fuelHere) []
    if (← current) != some '\x7d' then fail
    discard bump
    if ["start", "end", "start-half", "end-half"].contains (String.ofList name) then return true
    else fail

def letterEscape : Char → Char
  | 'a' => '\x07'
  | 'f' => '\x0c'
  | 't' => '\t'
  | 'n' => '\n'
  | 'r' => '\r'
  | _ => '\x0b'

def escape : Reader Prim := do
  if !(← bump) then fail
  match ← current with
  | none => fail
  | some c =>
    if c.isDigit then fail
    else if c == 'x' || c == 'u' || c == 'U' then hexEscape
    else if c == 'p' || c == 'P' then fail
    else if ['d', 's', 'w', 'D', 'S', 'W'].contains c then
      discard bump
      return .perl c
    else
      discard bump
      if isEscapable c then return .literal c
      if ['a', 'f', 't', 'n', 'r', 'v'].contains c then return .literal (letterEscape c)
      if c == 'A' || c == 'z' then return .assertion .anchor
      if c == 'b' then
        if (← current) == some '\x7b' then
          if ← wordEdgeSuffix then return .assertion .wordEdge
        return .assertion .wordBoundary
      if c == 'B' then return .assertion .notWordBoundary
      if c == '<' || c == '>' then return .assertion .wordEdge
      fail

/-- Whether a character can be matched under the flags: with `u` on only when case
matters, and with `u` off only within ASCII. -/
def literalUsable (f : Flags) (c : Char) : Bool :=
  if f.unicode then !f.caseless else c.toNat ≤ 0x7F

/-- Whether a class of digits, blanks or word characters can be matched under the flags:
only with `u` off, and then only when it stays within ASCII, so not negated. -/
def perlUsable (f : Flags) (c : Char) : Bool := !f.unicode && !c.isUpper

def primitive : Reader Bool := do
  let flags := (← get).flags
  match ← current with
  | some '\\' =>
    match ← escape with
    | .literal c => if literalUsable flags c then return false else fail
    | .perl c => if perlUsable flags c then return false else fail
    | .assertion .anchor => return false
    | .assertion .notWordBoundary => if flags.unicode then return true else fail
    | .assertion _ => return flags.unicode
  | some '.' =>
    discard bump
    if !flags.unicode then fail
    return false
  | some c =>
    discard bump
    if c == '^' || c == '$' || literalUsable flags c then return false else fail
  | none => fail

/-! Bracketed classes

Outside Unicode mode a class is a set of bytes, kept as a 256-bit mask, and each bracketed
class in it must stay within ASCII once negated; in Unicode mode only its spelling, its
items and its nesting are checked. -/

def bitSpan (a b : Nat) : Nat := Nat.pow 2 (b + 1) - Nat.pow 2 a

def allBytes : Nat := bitSpan 0 255

def complement (m : Nat) : Nat := Nat.xor allBytes m

def isAscii (m : Nat) : Bool := m < Nat.pow 2 128

def perlMask (c : Char) : Nat :=
  match c with
  | 'd' => bitSpan 48 57
  | 's' => Nat.lor (bitSpan 9 13) (bitSpan 32 32)
  | _ => Nat.lor (Nat.lor (bitSpan 48 57) (bitSpan 65 90)) (Nat.lor (bitSpan 97 122) (bitSpan 95 95))

def asciiClassMask? : String → Option Nat
  | "alnum" => some (Nat.lor (bitSpan 48 57) (Nat.lor (bitSpan 65 90) (bitSpan 97 122)))
  | "alpha" => some (Nat.lor (bitSpan 65 90) (bitSpan 97 122))
  | "ascii" => some (bitSpan 0 127)
  | "blank" => some (Nat.lor (bitSpan 9 9) (bitSpan 32 32))
  | "cntrl" => some (Nat.lor (bitSpan 0 31) (bitSpan 127 127))
  | "digit" => some (bitSpan 48 57)
  | "graph" => some (bitSpan 33 126)
  | "lower" => some (bitSpan 97 122)
  | "print" => some (bitSpan 32 126)
  | "punct" => some (Nat.lor (Nat.lor (bitSpan 33 47) (bitSpan 58 64))
      (Nat.lor (bitSpan 91 96) (bitSpan 123 126)))
  | "space" => some (Nat.lor (bitSpan 9 13) (bitSpan 32 32))
  | "upper" => some (bitSpan 65 90)
  | "word" => some (Nat.lor (Nat.lor (bitSpan 48 57) (bitSpan 65 90))
      (Nat.lor (bitSpan 97 122) (bitSpan 95 95)))
  | "xdigit" => some (Nat.lor (bitSpan 48 57) (Nat.lor (bitSpan 65 70) (bitSpan 97 102)))
  | _ => none

/-- A named ASCII class `[:name:]` or `[:^name:]` at the front of the text, with the text
after it. -/
def asciiClassAt : List Char → Option (Nat × List Char)
  | '[' :: ':' :: r =>
    let (negated, r) := match r with
      | '^' :: r' => (true, r')
      | _ => (false, r)
    match r.dropWhile (· != ':') with
    | ':' :: ']' :: rest =>
      (asciiClassMask? (String.ofList (r.takeWhile (· != ':')))).map fun m =>
        (if negated then complement m else m, rest)
    | _ => none
  | _ => none

/-- Reads a named ASCII class if one is at hand. With `u` off it must stay within ASCII
once negated; with `u` on it cannot be matched without regard to case. -/
def asciiClass : Reader (Option Nat) := do
  match asciiClassAt (← get).rest with
  | some (m, rest) =>
    modify fun r => { r with rest }
    let f := (← get).flags
    if f.unicode && f.caseless then fail
    if !f.unicode && !isAscii m then fail
    return some m
  | none => return none

def itemMask (f : Flags) : Prim → Reader Nat
  | .literal c => do
    if !literalUsable f c then fail
    return if f.unicode then 0 else bitSpan c.toNat c.toNat
  | .perl c => if perlUsable f c then return perlMask c else fail
  | .assertion _ => fail

def classItem : Reader Prim := do
  match ← current with
  | some '\\' => escape
  | some c =>
    discard bump
    return .literal c
  | none => fail

/-- An item or a range `a-b` of a class; a `-` before `]` or `-` stands for itself. -/
def classRange : Reader Nat := do
  let flags := (← get).flags
  let first ← classItem
  skipBlanks
  let c ← current
  if c.isNone then fail
  let ahead ← peekSpaced
  if c != some '-' || ahead == some ']' || ahead == some '-' then
    itemMask flags first
  else
    if !(← bumpAndSkip) then fail
    let second ← classItem
    match first, second with
    | .literal a, .literal b =>
      if a > b then fail
      if !literalUsable flags a || !literalUsable flags b then fail
      return if flags.unicode then 0 else bitSpan a.toNat b.toNat
    | _, _ => fail

inductive SetOp where
  | intersect
  | minus
  | symmetric
  deriving DecidableEq, Repr

def SetOp.apply : SetOp → Nat → Nat → Nat
  | .intersect, a, b => Nat.land a b
  | .minus, a, b => Nat.land a (complement b)
  | .symmetric, a, b => Nat.xor a b

structure ClassItems where
  count : Nat
  deepest : Nat
  deriving DecidableEq, Repr

def ClassItems.empty : ClassItems := ⟨0, 0⟩

def ClassItems.add (u : ClassItems) (d : Nat) : ClassItems := ⟨u.count + 1, max u.deepest d⟩

def ClassItems.depth (u : ClassItems) : Nat := if u.count ≥ 2 then u.deepest + 1 else u.deepest

/-- What encloses the class being read: an open bracket, with the bytes and items before
it and whether it is negated, or a set operation with its left side and how deep that
nests. -/
inductive ClassFrame where
  | opened (outer : Nat) (outerItems : ClassItems) (negated : Bool)
  | operator (op : SetOp) (lhs : Nat) (lhsDepth : Nat)
  deriving DecidableEq, Repr

/-- Ends a pending set operation with its right side: the bytes, and how deep the
operation nests, one level above its deeper side. -/
def popOperator : List ClassFrame → Nat → Nat → List ClassFrame × Nat × Nat
  | .operator op lhs ld :: rest, rhs, rd => (rest, op.apply lhs rhs, max ld rd + 1)
  | stack, rhs, rd => (stack, rhs, rd)

def dashLoop : Nat → Nat → Reader Nat
  | 0, seen => return seen
  | fuel + 1, seen => do
    if (← current) == some '-' then
      if !(← bumpAndSkip) then fail
      dashLoop fuel (seen + 1)
    else return seen

/-- After `[`: whether the class is negated, and its leading items, with their bytes and
how many: `-` characters, or a `]` first, which stands for itself. -/
def classOpen : Reader (Bool × Nat × Nat) := do
  if !(← bumpAndSkip) then fail
  let negated ← if (← current) == some '^' then do
      if !(← bumpAndSkip) then fail
      pure true
    else pure false
  let dashes ← dashLoop (← fuelHere) 0
  let flags := (← get).flags
  if dashes == 0 && (← current) == some ']' then
    if !(← bumpAndSkip) then fail
    if !literalUsable flags ']' then fail
    return (negated, bitSpan 93 93, 1)
  if dashes > 0 && !literalUsable flags '-' then fail
  return (negated, if dashes > 0 then bitSpan 45 45 else 0, dashes)

def classLoop : Nat → List ClassFrame → Nat → ClassItems → Reader (Nat × Nat)
  | 0, _, _, _ => fail
  | fuel + 1, stack, items, seen => do
    skipBlanks
    match ← current with
    | none => fail
    | some '[' =>
      let ascii ← if stack.isEmpty then pure none else asciiClass
      match ascii with
      | some m => classLoop fuel stack (Nat.lor items m) (seen.add 0)
      | none =>
        let (negated, first, count) ← classOpen
        classLoop fuel (.opened items seen negated :: stack) first ⟨count, 0⟩
    | some ']' =>
      match popOperator stack items seen.depth with
      | (.opened outer outerSeen negated :: rest, set, depth) =>
        discard bump
        let set := if negated then complement set else set
        if !(← get).flags.unicode && !isAscii set then fail
        if rest.isEmpty then return (set, depth + 1)
        classLoop fuel rest (Nat.lor outer set) (outerSeen.add (depth + 1))
      | _ => fail
    | some c =>
      let op? : Option SetOp :=
        if c == '&' then some .intersect else if c == '-' then some .minus
        else if c == '~' then some .symmetric else none
      match op? with
      | some op =>
        if (← following) == some c then
          discard bump
          discard bump
          let (stack, lhs, lhsDepth) := popOperator stack items seen.depth
          classLoop fuel (.operator op lhs lhsDepth :: stack) 0 ClassItems.empty
        else classLoop fuel stack (Nat.lor items (← classRange)) (seen.add 0)
      | none => classLoop fuel stack (Nat.lor items (← classRange)) (seen.add 0)

def bracketClass : Reader Unit := do
  let (_, depth) ← classLoop (← fuelHere) [] 0 ClassItems.empty
  pushItem false depth

/-! The whole pattern -/

def patternLoop : Nat → Reader Unit
  | 0 => fail
  | fuel + 1 => do
    skipBlanks
    match ← current with
    | none => pure ()
    | some c =>
      if c == '(' then openGroup
      else if c == ')' then closeGroup
      else if c == '|' then alternate
      else if c == '[' then bracketClass
      else if c == '?' || c == '*' || c == '+' then simpleRepeat
      else if c == '\x7b' then countedRepeat
      else pushItem (← primitive) 0
      patternLoop fuel

/-- Why a text is no usable pattern, or `none` when it is one. -/
def check (s : String) : Option PatternError :=
  let start : Reading :=
    { rest := s.toList, flags := ⟨true, false, false⟩, frames := [], done := false,
      last := .nothing, names := [], shape := Shape.empty }
  match (patternLoop (s.length + 1)).run start with
  | .error e => some e
  | .ok res =>
    if !res.2.frames.isEmpty || res.2.shape.depth > nestLimit then some .unreadable
    else if res.2.done || res.2.last.wordBoundary then some .unicodeWordBoundary
    else none

end FrameRpc.Pattern
