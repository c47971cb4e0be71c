import FrameRpc.Text.Chars
import FrameRpc.Decimal.Shortest

/-!
JSON values and their text.

Objects keep their members in the order given, which is the order in which records are
written. Integers are exact at any size; floats are binary64 and are written in their
shortest form, or as `null` when not finite. Two layouts are provided: compact (no
blanks) and pretty (two-space indentation, `": "` after a key, empty containers as `[]`
and `{}`). Strings escape the quote, the backslash and control characters; `\b`, `\f`,
`\n`, `\r`, `\t` have short forms and other control characters are written `\u00xx`.
-/

namespace FrameRpc.Json

inductive Value where
  | null
  | bool (b : Bool)
  | int (n : Int)
  | float (x : Float)
  | str (s : String)
  | arr (items : List Value)
  | obj (members : List (String × Value))

instance : Inhabited Value := ⟨.null⟩

def Value.nat (n : Nat) : Value := .int n

def Value.opt {α : Type} (f : α → Value) : Option α → Value
  | some a => f a
  | none => .null

def escapeChar (c : Char) : String :=
  match c with
  | '"' => "\\\""
  | '\\' => "\\\\"
  | '\n' => "\\n"
  | '\r' => "\\r"
  | '\t' => "\\t"
  | c =>
    if c.toNat == 8 then "\\b"
    else if c.toNat == 12 then "\\f"
    else if c.toNat < 0x20 then "\\u00" ++ Hex.byte c.toNat.toUInt8
    else c.toString

def quote (s : String) : String :=
  "\"" ++ String.join (s.toList.map escapeChar) ++ "\""

def numberText : Value → String
  | .int n => toString n
  | .float x => (Decimal.render Decimal.Style.json x).getD "null"
  | _ => ""

mutual

def Value.compact : Value → String
  | .null => "null"
  | .bool b => if b then "true" else "false"
  | .int n => numberText (.int n)
  | .float x => numberText (.float x)
  | .str s => quote s
  | .arr items => "[" ++ ",".intercalate (compactItems items) ++ "]"
  | .obj members => "\x7b" ++ ",".intercalate (compactMembers members) ++ "\x7d"

def compactItems : List Value → List String
  | [] => []
  | v :: vs => v.compact :: compactItems vs

def compactMembers : List (String × Value) → List String
  | [] => []
  | (k, v) :: ms => (quote k ++ ":" ++ v.compact) :: compactMembers ms

end

def indent (depth : Nat) : String := String.ofList (List.replicate (2 * depth) ' ')

mutual

def Value.prettyAt (depth : Nat) : Value → String
  | .arr [] => "[]"
  | .obj [] => "\x7b\x7d"
  | .arr items =>
    "[\n" ++ ",\n".intercalate (prettyItems (depth + 1) items) ++ "\n" ++ indent depth ++ "]"
  | .obj members =>
    "\x7b\n" ++ ",\n".intercalate (prettyMembers (depth + 1) members) ++ "\n" ++ indent depth ++ "\x7d"
  | v => v.compact

def prettyItems (depth : Nat) : List Value → List String
  | [] => []
  | v :: vs => (indent depth ++ v.prettyAt depth) :: prettyItems depth vs

def prettyMembers (depth : Nat) : List (String × Value) → List String
  | [] => []
  | (k, v) :: ms => (indent depth ++ quote k ++ ": " ++ v.prettyAt depth) :: prettyMembers depth ms

end

def Value.pretty (v : Value) : String := v.prettyAt 0

def Value.get? (v : Value) (key : String) : Option Value :=
  match v with
  | .obj members => members.lookup key
  | _ => none

end FrameRpc.Json
