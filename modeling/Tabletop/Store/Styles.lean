/-
# Dice styles and faces

The styles that there are images for, and which of them a roll is shown in:
the character's own, or the group's, or the default one. Each face of a die has
an image, at `d<sides>/d<sides>s<value>.png` in the folder of its style. A face
without an image is shown in words.

Key definitions: `DiceStyles`, `DiceStyles.validate`, `effectiveStyle`, `DiceFaces`,
`Face`, `DiceFaces.ofRoll`.
-/
import Tabletop.Character.Basic
import Tabletop.Dice.Roll
import Tabletop.Store.Settings

namespace Tabletop

/-- The style where nobody has chosen one. -/
def defaultDiceStyle : String := "polyhedral_3d_blue_and_white"

/-- The names of the styles that are known. -/
structure DiceStyles where
  names : List String
  deriving DecidableEq, Repr

namespace DiceStyles

/-- The default style alone. -/
def builtin : DiceStyles := ⟨[defaultDiceStyle]⟩

/-- The styles in a file with a list of names; the default style alone if
there is no file. -/
def load (d : Disk) (path : String) : Except StoreError DiceStyles := do
  match ← d.readJson path (Json.list Json.text) with
  | some names => return ⟨names⟩
  | none => return builtin

/-- Whether a style is known. -/
def contains (s : DiceStyles) (style : String) : Bool :=
  s.names.contains style

/-- Refuses a style that is not known. -/
def validate (s : DiceStyles) (style : String) : Except StoreError Unit :=
  if s.contains style then .ok () else .error (.unknownStyle style s.names)

end DiceStyles

/-- The style to show a roll in: the character's, the group's or the default
one. -/
def effectiveStyle (c : Option Character) (group : GroupSettings) (default : String) : String :=
  ((c.bind Character.diceStyle).or group.diceStyle).getD default

/-- The folder with a folder for each style. -/
structure DiceFaces where
  folder : String

/-- A die as it fell, with its image if there is one. -/
structure Face where
  sides : UInt32
  value : UInt32
  image : Option String
  deriving DecidableEq, Repr

/-- The image, or the face in words. -/
def Face.text (f : Face) : String :=
  f.image.getD s!"D{f.sides} {f.value}"

namespace DiceFaces

/-- Where the image of a face would be. -/
def image (s : DiceFaces) (style : String) (sides value : UInt32) : String :=
  Path.join (Path.join (Path.join s.folder style) s!"d{sides}") s!"d{sides}s{value}.png"

/-- The faces of the dice of a roll. -/
def ofRoll (s : DiceFaces) (d : Disk) (style : String) (r : Roll) : List Face :=
  r.values.map fun value =>
    let path := s.image style r.dice.sides value
    ⟨r.dice.sides, value, if d.isFile path then some path else none⟩

end DiceFaces
end Tabletop
