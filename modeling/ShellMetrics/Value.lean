import ShellMetrics.Fault
import ShellMetrics.Moment
import ShellMetrics.Number.Shortest

/-!
# Values

Settings are read from files and command lines before anything is known about their types, so a
value may be of any type that such a source can write.  Whether it fits its setting is found out
when the settings are put together.
-/

namespace ShellMetrics

inductive Value where
  | nothing
  | flag (value : Bool)
  | whole (value : Int)
  | real (value : Binary64)
  | text (value : Text)
  | moment (value : Moment)
  | list (items : List Value)
  | table (entries : List (Text × Value))

namespace Value

def typeName : Value → Text
  | nothing => "NoneType"
  | flag _ => "bool"
  | whole _ => "int"
  | real _ => "float"
  | text _ => "str"
  | moment value => value.typeName
  | list _ => "list"
  | table _ => "dict"

/-- The word for the type of a value, without the family that a type may belong to. -/
def kindName : Value → Text
  | moment value => value.kindName
  | value => value.typeName

/-- A value counts as set unless it is absent, zero or empty. -/
def isTruthy : Value → Bool
  | nothing => false
  | flag value => value
  | whole value => value ≠ 0
  | real value => value.isNonzero
  | text value => !value.isEmpty
  | moment _ => true
  | list items => !items.isEmpty
  | table entries => !entries.isEmpty

/-- The elements of a value: the items of a list, the characters of a text, the keys of a table. -/
def elements : Value → Except Fault (List Value)
  | list items => .ok items
  | text value => .ok (value.map fun c ↦ text [c])
  | table entries => .ok (entries.map fun entry ↦ text entry.1)
  | value => .error (.notIterable value.typeName)

mutual

def display : Value → Text
  | nothing => "None"
  | flag value => if value then "True" else "False"
  | whole value => Text.ofInt value
  | real value => value.toText
  | text value => Text.quote value
  | moment value => value.display
  | list items => '[' :: Text.join ", " (displayItems items) ++ [']']
  | table entries => '{' :: Text.join ", " (displayEntries entries) ++ ['}']

def displayItems : List Value → List Text
  | [] => []
  | item :: items => display item :: displayItems items

def displayEntries : List (Text × Value) → List Text
  | [] => []
  | (key, value) :: entries =>
    (Text.quote key ++ ':' :: ' ' :: display value) :: displayEntries entries

end

mutual

/-- Every whole number in the value has few enough digits to be shown. -/
def isShowable : Value → Bool
  | whole value => value.natAbs < Nat.pow 10 Fault.digitLimit
  | list items => areShowable items
  | table entries => haveShowable entries
  | _ => true

/-- Every item of a list can be shown. -/
def areShowable : List Value → Bool
  | [] => true
  | item :: items => isShowable item && areShowable items

/-- Every value of a table can be shown. -/
def haveShowable : List (Text × Value) → Bool
  | [] => true
  | (_, value) :: entries => isShowable value && haveShowable entries

end

/-- The value as it is shown in a message, where a text stands without quotes. -/
def inMessage : Value → Text
  | text value => value
  | value => value.display

end Value

end ShellMetrics
