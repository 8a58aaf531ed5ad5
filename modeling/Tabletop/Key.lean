/-
# Keys

Attributes, skills and characters are named by keys. A name as it is typed
becomes its key when every word is put in small letters and the words are
joined by underscores; a key becomes a label again when its underscores turn
into spaces.

Key definitions: `Key.normalize`, `Key.display`, `Key.label`.
-/
import Tabletop.Text.Blank
import Tabletop.Text.Case

namespace Tabletop
namespace Key

open Text

/-- The key of a name, character by character. -/
def normalizeChars (cs : List Char) : List Char :=
  ['_'].intercalate ((words cs).map lower)

/-- The key of a name: its words in small letters, joined by underscores. -/
def normalize (name : String) : String :=
  String.ofList (normalizeChars name.toList)

/-- The characters of a key with spaces for its underscores. -/
def spaced (key : String) : List Char :=
  key.toList.map fun c => if c = '_' then ' ' else c

/-- The key as a label: `sleight_of_hand` becomes `Sleight of hand`. -/
def display (key : String) : String :=
  match spaced key with
  | [] => ""
  | c :: cs => String.ofList (upperChar c ++ cs)

/-- The key as the name of a term: `sleight_of_hand` becomes
`SLEIGHT OF HAND`. -/
def label (key : String) : String :=
  String.ofList (upper (spaced key))

end Key
end Tabletop
