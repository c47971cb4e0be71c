import FrameRpc.Text.Literal

/-!
A directory tree held in memory, with the failures an operating system reports.

Paths are text, read as the system reads them: the pieces between the separators `/` are
its components, empty ones left out. The components before the last are walked from the
root: `.` stays, `..` steps back to the directory above (the root is its own parent), and
a name must be a directory that exists (a missing one fails with "not found", a file with
"not a directory"), so `a/../b` needs `a` to be a directory. How the path ends then
decides what it names: a name; a name followed by `/`, which must be a directory; `.` or
`..`, the directory reached or the one above it; or nothing, the root. The empty path
names nothing. A name looked up must fit in 255 bytes and a whole path in fewer than
4096 ("file name too long"), and a path holding NUL is refused outright. Then:

* making a directory fails when anything stands at the path, and for a path ending in
  `.` or `..`, which always name a directory that is there;
* reading fails for a missing entry and for a directory;
* opening a file to write or append creates it when it is missing, and fails for a
  directory and for any path that must name a directory;
* making a directory with its parents makes the directory; when that fails because a
  component above is missing, it makes the parent path the same way and tries once more,
  and any other failure is none when a directory can be reached at the path. The parent
  path is the text without its last component and without the separators and `.`
  components that then end it, so the parent of `a/b/.` is `a`.
-/

namespace FrameRpc.Disk

/-- Why a file operation failed: one of the operating system's errors, or a path holding
a NUL character, which cannot be handed to the system at all. -/
inductive IoError where
  | notFound
  | alreadyExists
  | notADirectory
  | isADirectory
  | nameTooLong
  | nulInPath
  deriving DecidableEq, Repr

namespace IoError

/-- The operating system's error number; none for a path the system never saw. -/
def code? : IoError → Option Nat
  | notFound => some 2
  | alreadyExists => some 17
  | notADirectory => some 20
  | isADirectory => some 21
  | nameTooLong => some 36
  | nulInPath => none

def kind : IoError → String
  | notFound => "NotFound"
  | alreadyExists => "AlreadyExists"
  | notADirectory => "NotADirectory"
  | isADirectory => "IsADirectory"
  | nameTooLong => "InvalidFilename"
  | nulInPath => "InvalidInput"

def description : IoError → String
  | notFound => "No such file or directory"
  | alreadyExists => "File exists"
  | notADirectory => "Not a directory"
  | isADirectory => "Is a directory"
  | nameTooLong => "File name too long"
  | nulInPath => "file name contained an unexpected NUL byte"

def text (e : IoError) : String :=
  match e.code? with
  | some n => e.description ++ " (os error " ++ toString n ++ ")"
  | none => e.description

def structural (e : IoError) : String :=
  match e.code? with
  | some n =>
    "Os \x7b code: " ++ toString n ++ ", kind: " ++ e.kind ++ ", message: " ++
      Text.debugQuote e.description ++ " \x7d"
  | none =>
    "Error \x7b kind: " ++ e.kind ++ ", message: " ++ Text.debugQuote e.description ++ " \x7d"

end IoError

def nameMax : Nat := 255

def pathMax : Nat := 4096

def checkName (name : String) : Except IoError Unit :=
  if name.utf8ByteSize > nameMax then .error .nameTooLong else .ok ()

abbrev Path := List String

/-- The components of a path written as text: the pieces between its separators, the
empty ones left out. -/
def components (s : String) : List String := (s.splitOn "/").filter (!·.isEmpty)

/-- The place a path written as text names when every `..` is taken back against the name
before it, without looking at the tree. -/
def Path.lexical (s : String) : Path :=
  (components s).foldl (fun acc part =>
    if part == ".." then acc.dropLast else if part == "." then acc else acc ++ [part]) []

inductive Ending where
  /-- A name; `dirOnly` when a separator follows it, so that it must name a directory. -/
  | name (n : String) (dirOnly : Bool)
  | here
  | up
  | root
  deriving DecidableEq, Repr

/-- A path written as text as the system reads it: the components walked through, then
how it ends. -/
structure Route where
  steps : List String
  ending : Ending
  deriving DecidableEq, Repr

def Route.ofText (s : String) : Option Route :=
  if s.isEmpty then none
  else
    match (components s).getLast? with
    | none => some ⟨[], .root⟩
    | some last =>
      some ⟨(components s).dropLast,
        if last == "." then .here
        else if last == ".." then .up
        else .name last (s.endsWith "/")⟩

def join (base name : String) : String :=
  if base.isEmpty || base.endsWith "/" then base ++ name else base ++ "/" ++ name

/-- Whether a piece between separators is no component after the start of a path:
empty, or `.`. -/
def isFiller (piece : String) : Bool := piece.isEmpty || piece == "."

def dropFillers (pieces : List String) : List String :=
  (pieces.reverse.dropWhile isFiller).reverse

/-- The parent of a path written as text: the text up to its last component, without the
separators and `.` components that end what is left. The root and the empty path have
none; a path of one component below no root has the empty path, and one below the root
has the root. A path that starts with `.` keeps it. -/
def parentText (s : String) : Option String :=
  match s.splitOn "/" with
  | [] => none
  | first :: rest =>
    if s.isEmpty then none
    else if first.isEmpty then
      match dropFillers rest with
      | [] => none
      | body => some ("/" ++ "/".intercalate (dropFillers body.dropLast))
    else if first == "." then
      match dropFillers rest with
      | [] => some ""
      | body =>
        match dropFillers body.dropLast with
        | [] => some "."
        | kept => some ("./" ++ "/".intercalate kept)
    else some ("/".intercalate (dropFillers (dropFillers (first :: rest)).dropLast))

inductive Node where
  | dir
  | file (text : String)
  deriving DecidableEq, Repr

structure Tree where
  entries : List (Path × Node)
  deriving Repr

namespace Tree

def empty : Tree := ⟨[]⟩

/-- The node at a place; the root is a directory. -/
def node? (d : Tree) (p : Path) : Option Node :=
  if p.isEmpty then some .dir else d.entries.lookup p

/-- Walks components from a place: `.` stays, `..` goes up, and a name no longer than a
directory allows goes down into a directory that exists. -/
def walk (d : Tree) (here : Path) : List String → Except IoError Path
  | [] => .ok here
  | name :: rest =>
    if name == "." then d.walk here rest
    else if name == ".." then d.walk here.dropLast rest
    else if name.utf8ByteSize > nameMax then .error .nameTooLong
    else
      match d.node? (here ++ [name]) with
      | some .dir => d.walk (here ++ [name]) rest
      | some (.file _) => .error .notADirectory
      | none => .error .notFound

/-- The directory a path's walk reaches, and how the path ends. A path holding NUL is
refused before the system sees it, and one of `pathMax` bytes or more by the system. -/
def reach (d : Tree) (s : String) : Except IoError (Path × Ending) :=
  if s.toList.contains (Char.ofNat 0) then .error .nulInPath
  else if s.utf8ByteSize ≥ pathMax then .error .nameTooLong
  else
    match Route.ofText s with
    | none => .error .notFound
    | some r => (d.walk [] r.steps).map (·, r.ending)

def lookup (d : Tree) (s : String) : Except IoError (Path × Node) := do
  let (q, ending) ← d.reach s
  match ending with
  | .root | .here => return (q, .dir)
  | .up => return (q.dropLast, .dir)
  | .name n dirOnly =>
    checkName n
    match d.node? (q ++ [n]) with
    | none => throw .notFound
    | some .dir => return (q ++ [n], .dir)
    | some (.file t) => if dirOnly then throw .notADirectory else return (q ++ [n], .file t)

def stat (d : Tree) (s : String) : Except IoError Node := (d.lookup s).map (·.2)

def exists? (d : Tree) (s : String) : Bool := (d.stat s).toBool

def isDir (d : Tree) (s : String) : Bool :=
  match d.stat s with
  | .ok .dir => true
  | _ => false

def put (d : Tree) (p : Path) (n : Node) : Tree :=
  if d.entries.any (·.1 == p) then ⟨d.entries.map fun e => if e.1 == p then (p, n) else e⟩
  else ⟨d.entries ++ [(p, n)]⟩

def mkdir (d : Tree) (s : String) : Except IoError Tree := do
  let (q, ending) ← d.reach s
  match ending with
  | .name n _ =>
    checkName n
    match d.node? (q ++ [n]) with
    | some _ => throw .alreadyExists
    | none => return d.put (q ++ [n]) .dir
  | _ => throw .alreadyExists

/-- Makes a directory and the missing ones above it, going up at most `fuel` parents; the
empty path needs nothing. -/
def createDirAllUpTo (fuel : Nat) (d : Tree) (s : String) : Except IoError Tree :=
  if s.isEmpty then .ok d
  else
    match d.mkdir s with
    | .ok d' => .ok d'
    | .error .notFound =>
      match fuel, parentText s with
      | fuel + 1, some p =>
        match createDirAllUpTo fuel d p with
        | .error e => .error e
        | .ok d' =>
          match d'.mkdir s with
          | .ok d'' => .ok d''
          | .error e => if d'.isDir s then .ok d' else .error e
      | _, _ => .error .notFound
    | .error e => if d.isDir s then .ok d else .error e

/-- Makes a directory and the missing ones above it. Each parent is shorter than its
path, so the text's length bounds how far up this goes. -/
def createDirAll (d : Tree) (s : String) : Except IoError Tree :=
  d.createDirAllUpTo s.length s

def read (d : Tree) (s : String) : Except IoError String := do
  match ← d.stat s with
  | .file t => return t
  | .dir => throw .isADirectory

/-- Where opening a file to write leads, creating it when missing: the place must not be
a directory, and the path must not be one that names a directory. -/
def writable (d : Tree) (s : String) : Except IoError Path := do
  let (q, ending) ← d.reach s
  match ending with
  | .name n false =>
    checkName n
    match d.node? (q ++ [n]) with
    | some .dir => throw .isADirectory
    | _ => return q ++ [n]
  | _ => throw .isADirectory

def write (d : Tree) (s : String) (text : String) : Except IoError Tree := do
  let q ← d.writable s
  return d.put q (.file text)

/-- Opens a file for appending, creating it empty when missing. -/
def touch (d : Tree) (s : String) : Except IoError Tree := do
  let q ← d.writable s
  match d.node? q with
  | some (.file _) => return d
  | _ => return d.put q (.file "")

def append (d : Tree) (s : String) (text : String) : Except IoError Tree := do
  let q ← d.writable s
  match d.node? q with
  | some (.file t) => return d.put q (.file (t ++ text))
  | _ => return d.put q (.file text)

def openAppend (d : Tree) (s : String) : Except IoError Tree := do
  let d ← match parentText s with
    | some p => d.createDirAll p
    | none => pure d
  d.touch s

/-- A tree holding the given directories and then the given files, each with the
directories above it; entries that cannot be made are left out. -/
def prepare (d : Tree) (dirs : List String) (files : List (String × String)) : Tree :=
  let d := dirs.foldl (fun d s => (d.createDirAll s).toOption.getD d) d
  files.foldl (fun d (s, text) =>
    let d := match parentText s with
      | some p => (d.createDirAll p).toOption.getD d
      | none => d
    (d.write s text).toOption.getD d) d

end Tree

end FrameRpc.Disk
