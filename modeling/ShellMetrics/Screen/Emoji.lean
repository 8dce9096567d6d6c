import ShellMetrics.Text.Basic
import ShellMetrics.Screen.EmojiNames
import ShellMetrics.Text.Lower
import ShellMetrics.Text.Space

/-!
# Emoji codes

A code is a name between two colons with no white space in it.  The name may end in a word that
asks for the plain or the colourful form of the emoji.  Codes are read from left to right, and
the colon at the end of a code starts no other code, whether the name is known or not.
-/

namespace ShellMetrics.Screen.Emoji

/-- Pairs each name with the emoji behind it. -/
def pair : List Text → List (Text × Text)
  | name :: emoji :: rest => (name, emoji) :: pair rest
  | _ => []

def table : List (Text × Text) :=
  names.flatMap fun list ↦ pair ((list.toList.splitOnP Text.isSpace).filter (· ≠ []))

def ofName? (name : Text) : Option Text :=
  (table.find? (·.1 = Text.lower name)).map Prod.snd

/-- The words for the two forms, each with the character that asks for it. -/
def forms : List (Text × Char) := [("-text", '\ufe0e'), ("-emoji", '\ufe0f')]

/-- A name without the word for a form, and what stands behind the emoji for that form. -/
def splitForm (name : Text) : Text × Text :=
  match forms.find? fun form ↦ form.1.isSuffixOf name with
  | some (word, mark) => (name.take (name.length - word.length), [mark])
  | none => (name, [])

/-- The emoji of a code without its colons, or the code as it stands if the name is not known. -/
def ofCode (code : Text) : Text :=
  let (name, mark) := splitForm code
  match ofName? name with
  | some emoji => emoji ++ mark
  | none => ':' :: code ++ [':']

/-- The code that starts behind a colon. -/
def code? (text : Text) : Option Text :=
  let code := text.takeWhile fun c ↦ c ≠ ':' && !Text.isSpace c
  if (text.drop code.length).head? = some ':' then some code else none

/-- The text with emoji for codes.  The number counts the characters of a code that are still to
be passed over. -/
def replaceFrom : Nat → Text → Text
  | _, [] => []
  | skip + 1, _ :: rest => replaceFrom skip rest
  | 0, c :: rest =>
    if c = ':' then
      match code? rest with
      | some code => ofCode code ++ replaceFrom (code.length + 1) rest
      | none => c :: replaceFrom 0 rest
    else c :: replaceFrom 0 rest

def replace (text : Text) : Text := replaceFrom 0 text

end ShellMetrics.Screen.Emoji
