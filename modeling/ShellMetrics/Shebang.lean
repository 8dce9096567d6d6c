import ShellMetrics.Text.Basic
import ShellMetrics.Text.Space
import ShellMetrics.Text.Word

/-!
# Interpreter lines

The first line of a script may name its interpreter.  It names a shell if it reads `#!`, white
space, a path whose last component is a shell, or `env`, white space and a shell, and if the name
of the shell ends there.
-/

namespace ShellMetrics.Shebang

def shells : List Text := ["bash", "dash", "ksh", "zsh", "ash", "sh"]

/-- No word goes on at the start of the text. -/
def endsWord (text : Text) : Bool := !(text.head?.map Text.isWord).getD false

/-- The text starts with the name of a shell, and the name ends there. -/
def startsWithShell (text : Text) : Bool :=
  shells.any fun shell ↦ (Text.after? shell text).any endsWord

/-- The text starts with the name of a shell, or with `env`, white space and such a name. -/
def startsWithCommand (text : Text) : Bool :=
  startsWithShell text ||
    (Text.after? "env" text).any fun rest ↦
      (rest.head?.map Text.isSpace).getD false && startsWithShell (rest.dropWhile Text.isSpace)

/-- Somewhere before the first white space a slash is followed by a command. -/
def hasCommand : Text → Bool
  | [] => false
  | c :: rest => !Text.isSpace c && ((c = '/' && startsWithCommand rest) || hasCommand rest)

def namesShell (line : Text) : Bool :=
  (Text.after? "#!" line).any fun rest ↦ hasCommand (rest.dropWhile Text.isSpace)

/-- The first line of a text with its line end.  A carriage return, a newline and both together
end a line, and are all written as a newline. -/
def firstLine : Text → Text
  | [] => []
  | c :: rest => if c = '\n' || c = '\r' then ['\n'] else c :: firstLine rest

/-- The first line of the text names a shell. -/
def inText (content : Text) : Bool := namesShell (firstLine content)

end ShellMetrics.Shebang
