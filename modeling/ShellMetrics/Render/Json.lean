import ShellMetrics.Summary
import ShellMetrics.Text.Quoted

/-!
# JSON

The report as a JSON text in ASCII, indented by two spaces a level.  Characters outside ASCII are
written as the escapes of their UTF-16 units.
-/

namespace ShellMetrics.Render

/-- The JSON values that a report is made of. -/
inductive Json where
  | text (value : Text)
  | whole (value : Int)
  | array (items : List Json)
  | object (members : List (Text × Json))

namespace Json

/-- The escape of one UTF-16 unit. -/
def escapeUnit (unit : Nat) : Text := Text.lit "\\u" ++ Text.hex 4 unit

/-- One character inside a JSON string. -/
def escapeChar (c : Char) : Text :=
  if c = '"' then "\\\""
  else if c = '\\' then "\\\\"
  else if c = '\n' then "\\n"
  else if c = '\r' then "\\r"
  else if c = '\t' then "\\t"
  else if c = '\x0c' then "\\f"
  else if c = '\x08' then "\\b"
  else if 0x20 ≤ c.toNat && c.toNat < 0x7f then [c]
  else if c.toNat < 0x10000 then escapeUnit c.toNat
  else
    let offset := c.toNat - 0x10000
    escapeUnit (0xd800 + offset / 0x400) ++ escapeUnit (0xdc00 + offset % 0x400)

def string (value : Text) : Text := '"' :: value.flatMap escapeChar ++ ['"']

/-- A line end and the indentation of a level. -/
def newline (level : Nat) : Text := '\n' :: List.replicate (2 * level) ' '

mutual

/-- The text of a value that stands at a level of indentation. -/
def renderAt (level : Nat) : Json → Text
  | text value => string value
  | whole value => Text.ofInt value
  | array [] => "[]"
  | array (item :: items) =>
    '[' :: newline (level + 1) ++ renderAt (level + 1) item ++ renderItems (level + 1) items ++
      newline level ++ [']']
  | object [] => "\x7b\x7d"
  | object ((key, value) :: members) =>
    '{' :: newline (level + 1) ++ string key ++ ':' :: ' ' :: renderAt (level + 1) value ++
      renderMembers (level + 1) members ++ newline level ++ ['}']

def renderItems (level : Nat) : List Json → Text
  | [] => []
  | item :: items => ',' :: newline level ++ renderAt level item ++ renderItems level items

def renderMembers (level : Nat) : List (Text × Json) → Text
  | [] => []
  | (key, value) :: members =>
    ',' :: newline level ++ string key ++ ':' :: ' ' :: renderAt level value ++
      renderMembers level members

end

def render (value : Json) : Text := renderAt 0 value

def ofReport (report : Report) : Json :=
  object [
    ("name", text report.file.name), ("lines", whole report.file.lines),
    ("code", whole report.file.code), ("comments", whole report.file.comments),
    ("blanks", whole report.file.blanks), ("functions", whole report.file.functions),
    ("path", text report.path)]

def ofRow (row : Row) : Json :=
  object [
    ("file", text row.report.file.name), ("name", text row.function.name),
    ("code", whole row.function.code), ("ccn", whole row.function.complexity)]

def ofSummary (summary : Summary) (key : SortKey) : Json :=
  object [
    ("files", array (summary.reports.map ofReport)),
    ("functions", array ((summary.rows key).map ofRow)),
    ("errors", object (summary.failures.entries.map fun entry ↦ (entry.1, text entry.2)))]

end Json

end ShellMetrics.Render
