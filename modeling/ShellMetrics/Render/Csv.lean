import ShellMetrics.Summary

/-!
# Comma separated values

One record for each function, with a header.  Fields are separated by commas and records end in
a carriage return and a newline.  A field is quoted only if it has a character that would end
it or a quote mark, and a quote mark inside quotes is written twice.
-/

namespace ShellMetrics.Render.Csv

/-- A character that makes quoting necessary. -/
def needsQuotes (c : Char) : Bool := c = ',' || c = '"' || c = '\r' || c = '\n'

/-- The text with every quote mark written twice. -/
def doubleQuotes (text : Text) : Text := text.flatMap fun c ↦ if c = '"' then ['"', '"'] else [c]

def field (text : Text) : Text :=
  if text.any needsQuotes then '"' :: doubleQuotes text ++ ['"'] else text

def record (fields : List Text) : Text := Text.join [','] (fields.map field) ++ ['\r', '\n']

def header : List Text := ["file", "function", "code", "ccn"]

def fields (row : Row) : List Text :=
  [row.report.path, row.function.name, Text.ofInt row.function.code,
    Text.ofInt row.function.complexity]

def render (summary : Summary) (key : SortKey) : Text :=
  record header ++ (summary.rows key).flatMap (record ∘ fields)

end ShellMetrics.Render.Csv
