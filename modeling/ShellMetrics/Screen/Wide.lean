import ShellMetrics.Log
import ShellMetrics.Screen.Draw

/-!
# A wide screen

One of the screens that the program can be run with.  It is so wide that no table is narrowed, has
no colours and refuses no character.  Nothing that is proved about runs depends on it.
-/

namespace ShellMetrics

namespace Screen

def wide : Output where
  escape := Markup.escape
  record tables := do return (← tables.mapM draw).flatten
  draw
  showLine markup := do
    return (lines (← Markup.render markup)).flatMap fun line ↦ line ++ ['\n']
  refusal? _ := none
  obstacle? _ := none

/-- The lines of a record on the console.  A detailed console puts the time in front, and all
lines after the first are indented as far as the message. -/
def recordLines (detailed : Bool) (stamp : Text) (record : Record) : List Text :=
  let time := if detailed then '[' :: stamp ++ Text.lit "] " else []
  let head := time ++ Text.padRight 8 (Record.levelWord record.level) ++ [' ']
  match lines record.message with
  | [] => [head]
  | first :: rest => (head ++ first) :: rest.map fun line ↦ Text.padLeft head.length [] ++ line

end Screen

def Notice.lines : Notice → List Text
  | record detailed stamp entry => Screen.recordLines detailed stamp entry
  | message label text => Screen.lines (label ++ ' ' :: Screen.Markup.literal text)
  | trace fault => Screen.lines (fault.label ++ Text.lit ": " ++ fault.message)

end ShellMetrics
