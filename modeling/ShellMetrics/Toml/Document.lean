import ShellMetrics.Encoding.Utf8
import ShellMetrics.Toml.Draft
import ShellMetrics.Toml.Scalar

/-!
# TOML documents

A document is a list of statements, one on a line: a header that opens a table, a header that
adds a table to a list, or an assignment.  The numbers that go down in the recursions bound the
depth by the length of the source.
-/

namespace ShellMetrics.Toml

/-- The result of a reader that may find nothing. -/
def require {α : Type} : Option α → Except Fault α
  | some value => .ok value
  | none => .error .malformedToml

/-- Reads a value that has no parts. -/
def readScalar (source : Text) : Except Fault (Value × Text) :=
  match Text.after? "true" source, Text.after? "false" source with
  | some rest, _ => .ok (.flag true, rest)
  | none, some rest => .ok (.flag false, rest)
  | none, none =>
    match readMoment source with
    | some (value, rest) => value.map (·, rest)
    | none =>
      match readBased source with
      | some read => .ok read
      | none =>
        match readDecimal source with
        | some (decimal, rest) => decimal.value.map (·, rest)
        | none => require (readSpecial source)

mutual

def readValue : Nat → Text → Except Fault (Value × Text)
  | 0, _ => .error .malformedToml
  | depth + 1, source =>
    match source with
    | '"' :: _ | '\'' :: _ => (require (readText source)).map fun (text, rest) ↦ (.text text, rest)
    | '[' :: rest => do
      match ← require (skipLayout false rest) with
      | ']' :: rest => return (.list [], rest)
      | rest =>
        let (items, rest) ← readItems depth rest
        return (.list items, rest)
    | '{' :: rest =>
      match skipBlank rest with
      | '}' :: rest => .ok (.table [], rest)
      | rest => (readMembers depth [] [] rest).map fun (entries, rest) ↦ (.table entries, rest)
    | _ => readScalar source

def readItems : Nat → Text → Except Fault (List Value × Text)
  | 0, _ => .error .malformedToml
  | depth + 1, source => do
    let (value, rest) ← readValue depth source
    match ← require (skipLayout false rest) with
    | ']' :: rest => return ([value], rest)
    | ',' :: rest =>
      match ← require (skipLayout false rest) with
      | ']' :: rest => return ([value], rest)
      | rest =>
        let (items, rest) ← readItems depth rest
        return (value :: items, rest)
    | _ => throw .malformedToml

/-- Reads the assignments of a table written in one piece, up to its end. -/
def readMembers : Nat → Entries → List Key → Text → Except Fault (Entries × Text)
  | 0, _, _, _ => .error .malformedToml
  | depth + 1, entries, sealedKeys, source => do
    let (key, rest) ← require (readKey source)
    let rest ← require (readMark '=' rest)
    let (value, rest) ← readValue depth (skipBlank rest)
    if isSealed sealedKeys key then throw .malformedToml
    let entries ← addValue false key value entries
    match skipBlank rest with
    | '}' :: rest => return (entries, rest)
    | ',' :: rest =>
      readMembers depth entries (if isComposite value then key :: sealedKeys else sealedKeys)
        (skipBlank rest)
    | _ => throw .malformedToml

end

/-- A bound on the depth of a value. -/
def depthOf (source : Text) : Nat := 2 * source.length + 2

/-- Reads a header after its opening bracket. -/
def readHeader (draft : Draft) (source : Text) : Except Fault (Draft × Text) := do
  let draft := draft.settle
  match source with
  | '[' :: source =>
    let (key, rest) ← require (readKey (skipBlank source))
    let draft ← draft.openListItem key
    let rest ← require (Text.after? "]]" rest)
    return (draft, rest)
  | _ =>
    let (key, rest) ← require (readKey (skipBlank source))
    let draft ← draft.openTable key
    let rest ← require (readMark ']' rest)
    return (draft, rest)

def readAssignment (draft : Draft) (source : Text) : Except Fault (Draft × Text) := do
  let (key, rest) ← require (readKey source)
  let rest ← require (readMark '=' rest)
  let rest := skipBlank rest
  let (value, rest) ← readValue (depthOf rest) rest
  let draft ← draft.assign key value
  return (draft, rest)

/-- Reads the statement at the start of the source, nothing if it starts with a comment. -/
def readStatement (draft : Draft) (source : Text) : Except Fault (Draft × Text) :=
  match source with
  | '[' :: rest => readHeader draft rest
  | '#' :: _ => .ok (draft, source)
  | _ => readAssignment draft source

/-- Reads at most so many statements up to the end. -/
def readStatements : Nat → Draft → Text → Except Fault Draft
  | 0, _, _ => .error .malformedToml
  | count + 1, draft, source =>
    match skipBlank source with
    | [] => .ok draft
    | '\n' :: rest => readStatements count draft rest
    | source => do
      let (draft, rest) ← readStatement draft source
      match ← require (skipComment (skipBlank rest)) with
      | [] => return draft
      | '\n' :: rest => readStatements count draft rest
      | _ => throw .malformedToml

/-- The source with a newline for each carriage return that a newline follows. -/
def plainLineEnds : Text → Text
  | [] => []
  | c :: rest =>
    if c = '\r' && rest.head? = some '\n' then plainLineEnds rest else c :: plainLineEnds rest

def parse (source : Text) : Except Fault Entries :=
  let source := plainLineEnds source
  (readStatements (source.length + 1) .empty source).map (·.entries)

def parseOctets (octets : List UInt8) : Except Fault Entries := do
  parse (← require (Utf8.decode? octets))

end ShellMetrics.Toml
