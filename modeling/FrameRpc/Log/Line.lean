import FrameRpc.Log.Record

/-!
The one-line human-readable form of a record, as written to a terminal.

After the time stamp come the level, right-aligned in five columns, the spans the record
was raised in, each followed by a colon, then the target and a colon, and last the
message and the fields as `name=value`, all separated by blanks. Plain strings among the
fields are shown quoted; other values stand as they are. Characters that would make a
terminal act (escape, bell, backspace, form feed, delete and the C1 controls) are written
as escapes in the message and in errors; quoted and inspected values have them escaped
by their debug form already, and displayed values are written as given.
-/

namespace FrameRpc.Log

def Level.padded : Level → String
  | .trace => "TRACE"
  | .debug => "DEBUG"
  | .info => " INFO"
  | .warn => " WARN"
  | .error => "ERROR"

/-- The spans part of a line: each span name followed by a colon, then a blank; nothing
outside any span. -/
def spansText (spans : List String) : String :=
  if spans.isEmpty then "" else String.join (spans.map (· ++ ":")) ++ " "

/-- The escape written for a character a terminal would act on, or the character itself:
`\x1b`, `\x07`, `\x08`, `\x0c` and `\x7f` for escape, bell, backspace, form feed and
delete, `\u{hex}` for the C1 controls; tabs, line ends and other controls stay. -/
def terminalChar (c : Char) : String :=
  match c with
  | '\x1b' => "\\x1b"
  | '\x07' => "\\x07"
  | '\x08' => "\\x08"
  | '\x0c' => "\\x0c"
  | '\x7f' => "\\x7f"
  | c =>
    if 0x80 ≤ c.toNat && c.toNat ≤ 0x9f then Text.unicodeEscape c.toNat
    else c.toString

def terminalSafe (s : String) : String := String.join (s.toList.map terminalChar)

/-- How a field value is written on a line. An error's message has what a terminal would
act on escaped; strings and inspected values need nothing more, since their debug form
escapes every control character; displayed values are written as they are. -/
def FieldValue.lineText : FieldValue → String
  | .failure s => terminalSafe s
  | v => v.inline

def Record.line (stamp : String) (r : Record) : String :=
  let fields := r.fields.map fun (k, v) => k ++ "=" ++ v.lineText
  let parts := (r.message.map terminalSafe).toList ++ fields
  stamp ++ " " ++ r.level.padded ++ " " ++ spansText r.spans ++ r.target ++ ": " ++
    " ".intercalate parts

end FrameRpc.Log
