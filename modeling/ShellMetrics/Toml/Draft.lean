import ShellMetrics.Toml.Quotation
import ShellMetrics.Value

/-!
# Tables under construction

A document is read statement by statement into a table.  Beside the table it is kept which keys
can no longer be opened by a header, and which can no longer be added to at all because they were
written in one piece.
-/

namespace ShellMetrics.Toml

abbrev Entries := List (Text × Value)

/-- Entries with the value of one key set; a key that is present keeps its place. -/
def setEntry (name : Text) (value : Value) (entries : Entries) : Entries :=
  Ledger.alterEntries name (fun _ ↦ value) entries

/-- Changes the entries of the table at the end of a key, creating tables on the way.  If lists
are open, the way goes through the last table of a list. -/
def alterTable (openLists : Bool) (change : Entries → Except Fault Entries) :
    Key → Entries → Except Fault Entries
  | [], entries => change entries
  | name :: key, entries => do
    match entries.lookup name with
    | none => return entries ++ [(name, .table (← alterTable openLists change key []))]
    | some (.table inner) =>
      return setEntry name (.table (← alterTable openLists change key inner)) entries
    | some (.list items) =>
      match items.getLast? with
      | some (.table inner) =>
        if openLists then
          let inner ← alterTable openLists change key inner
          return setEntry name (.list (items.dropLast ++ [.table inner])) entries
        else throw .malformedToml
      | _ => throw .malformedToml
    | some _ => throw .malformedToml

/-- Adds an entry under a name that is still free. -/
def addEntry (name : Text) (value : Value) (entries : Entries) : Except Fault Entries :=
  match entries.lookup name with
  | none => .ok (entries ++ [(name, value)])
  | some _ => .error .malformedToml

def addValue (openLists : Bool) (key : Key) (value : Value) (entries : Entries) :
    Except Fault Entries :=
  match key.getLast? with
  | some name => alterTable openLists (addEntry name value) key.dropLast entries
  | none => .error .malformedToml

/-- Adds an empty table to the list under a name. -/
def addToList (name : Text) (entries : Entries) : Except Fault Entries :=
  match entries.lookup name with
  | none => .ok (entries ++ [(name, .list [.table []])])
  | some (.list items) => .ok (setEntry name (.list (items ++ [.table []])) entries)
  | some _ => .error .malformedToml

/-- A value written in one piece that has parts of its own. -/
def isComposite : Value → Bool
  | .list _ | .table _ => true
  | _ => false

/-- The key, or one on the way to it, is sealed. -/
def isSealed (sealedKeys : List Key) (key : Key) : Bool := sealedKeys.any (·.isPrefixOf key)

/-- A document as far as it has been read. -/
structure Draft where
  entries : Entries
  /-- The table that assignments go to. -/
  header : Key
  /-- Keys that no header opens again. -/
  declared : List Key
  /-- Keys that will be declared at the next header. -/
  pending : List Key
  /-- Keys that were written in one piece. -/
  sealedKeys : List Key

namespace Draft

def empty : Draft := ⟨[], [], [], [], []⟩

/-- What was opened by dotted keys is declared from the next header on. -/
def settle (draft : Draft) : Draft :=
  { draft with declared := draft.declared ++ draft.pending, pending := [] }

def openTable (draft : Draft) (key : Key) : Except Fault Draft := do
  if draft.declared.contains key || isSealed draft.sealedKeys key then throw .malformedToml
  let entries ← alterTable true .ok key draft.entries
  return { draft with entries, header := key, declared := key :: draft.declared }

/-- Adds a table to a list of tables and opens it.  What was declared or sealed below the one
before is free again. -/
def openListItem (draft : Draft) (key : Key) : Except Fault Draft := do
  if isSealed draft.sealedKeys key then throw .malformedToml
  match key.getLast? with
  | none => throw .malformedToml
  | some name =>
    let entries ← alterTable true (addToList name) key.dropLast draft.entries
    return { draft with
      entries
      header := key
      declared := key :: draft.declared.filter (!key.isPrefixOf ·)
      sealedKeys := draft.sealedKeys.filter (!key.isPrefixOf ·) }

/-- The keys on the way from the open table to the end of a key. -/
def onTheWay (draft : Draft) (key : Key) : List Key :=
  (List.range (key.length - 1)).map fun count ↦ draft.header ++ key.take (count + 1)

def assign (draft : Draft) (key : Key) (value : Value) : Except Fault Draft := do
  let way := draft.onTheWay key
  let whole := draft.header ++ key
  if way.any draft.declared.contains || isSealed draft.sealedKeys whole.dropLast then
    throw .malformedToml
  let entries ← addValue true whole value draft.entries
  return { draft with
    entries
    pending := draft.pending ++ way
    sealedKeys := if isComposite value then whole :: draft.sealedKeys else draft.sealedKeys }

end Draft

end ShellMetrics.Toml
