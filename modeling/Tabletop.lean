import Tabletop.Text.Blank
import Tabletop.Text.Case
import Tabletop.Text.Quoted
import Tabletop.Text.Columns
import Tabletop.Text.Ligature
import Tabletop.Text.Emoji
import Tabletop.Text.Width
import Tabletop.Text.Similarity
import Tabletop.KeyMap
import Tabletop.Decimal
import Tabletop.Key
import Tabletop.Dice.Roll
import Tabletop.Dice.Policy
import Tabletop.Json.Printer
import Tabletop.Json.Reader
import Tabletop.Json.Decode
import Tabletop.GameSystem.Preset
import Tabletop.GameSystem.Json
import Tabletop.Catalog.Handle
import Tabletop.Character.Review
import Tabletop.Character.Json
import Tabletop.Check.Json
import Tabletop.Disk.Save
import Tabletop.Store.Characters
import Tabletop.Store.Settings
import Tabletop.Store.Styles
import Tabletop.Toml.Reader
import Tabletop.Command.Run
import Tabletop.Main
import Tabletop.Proofs.Casing
import Tabletop.Proofs.Normalization
import Tabletop.Proofs.DigitRuns
import Tabletop.Proofs.Notation
import Tabletop.Proofs.NotationText
import Tabletop.Proofs.Resolution
import Tabletop.Proofs.Rolls
import Tabletop.Proofs.Spelling
import Tabletop.Proofs.JsonRecord
import Tabletop.Proofs.RecordTexts
import Tabletop.Proofs.SystemJson
import Tabletop.Proofs.AllOrNothing
import Tabletop.Proofs.CharacterStore
import Tabletop.Proofs.SettingsStore
import Tabletop.Proofs.JsonTree
import Tabletop.Proofs.CatalogLoad
import Tabletop.Proofs.CatalogExport
import Tabletop.Proofs.Folders
import Tabletop.Proofs.Ways
import Tabletop.Proofs.CharacterFiles
import Tabletop.Proofs.CharacterPaths
import Tabletop.Proofs.Rewriting
import Tabletop.Proofs.CharacterList
import Tabletop.Proofs.SystemConsistency
import Tabletop.Proofs.Outcomes
import Tabletop.Proofs.CheckNames
import Tabletop.Proofs.SourceSkills
import Tabletop.Proofs.CatalogLookup
import Tabletop.Proofs.Commands
import Tabletop.Proofs.ActiveSystem
import Tabletop.Proofs.CharacterStyle
import Tabletop.Proofs.Policies
import Tabletop.Proofs.Warnings
import Tabletop.Proofs.Layouts
import Tabletop.Proofs.Sigmas
import Tabletop.Proofs.Completion
import Tabletop.Proofs.CheckJson
import Tabletop.Proofs.CharacterLayouts
import Tabletop.Proofs.Scores
import Tabletop.Proofs.NearestName
import Tabletop.Proofs.Suggesting
import Tabletop.Proofs.BlankNames
import Tabletop.Proofs.Improvement
import Tabletop.Proofs.CanonicalKeys
import Tabletop.Proofs.Snapshots
