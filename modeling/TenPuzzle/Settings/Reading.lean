import TenPuzzle.Settings.Basic
import TenPuzzle.Settings.Directory
import TenPuzzle.Yaml.Reading

/-!
Settings from a YAML file. What the file leaves out has its standard value; settings that are read
offer their default mode, and every mode asks for a problem.
-/

namespace TenPuzzle

inductive SettingsFault where
  | unreadable (fault : PathFault) (path : String)
  | yaml (fault : Yaml.Fault)
  | notMapping
  | wrongType
  | integer (fault : Text.IntegerFault)
  | notWhole (fault : Number.WholeFault)
  | defaultNotOffered (mode : Int) (modes : List Int)
  | tooLong
  | emptyMode
  deriving DecidableEq, Repr

namespace Settings

def isBlankCollection : Yaml.Collection → Bool
  | .sequence items => items.isEmpty
  | .mapping entries | .pairs entries => entries.isEmpty
  | .set members => members.isEmpty

def isBlank (collections : Array Yaml.Collection) : Yaml.Value → Bool
  | .null => true
  | .boolean value => !value
  | .integer value => value = 0
  | .real value => value == 0.0
  | .moment _ => false
  | .text value => value.isEmpty
  | .bytes value => value.isEmpty
  | .collection place => collections[place]?.any isBlankCollection

/-- A real number loses its fraction; a text is read as a number, and so are bytes. -/
def readWhole : Yaml.Value → Except SettingsFault Int
  | .boolean value => .ok (if value then 1 else 0)
  | .integer value => .ok value
  | .real value => (Number.wholePart value).mapError .notWhole
  | .text value => (Text.readInteger value.toList).mapError .integer
  | .bytes value => (Text.readIntegerOfBytes value).mapError .integer
  | .null | .moment _ | .collection _ => .error .wrongType

/-- A mapping has its keys for items. Pairs are no numbers, so that any at all are refused. -/
def itemsOfCollection : Yaml.Collection → Except SettingsFault (List Yaml.Value)
  | .sequence items => .ok items
  | .mapping entries => .ok (entries.map Prod.fst)
  | .set members => .ok members
  | .pairs entries => if entries.isEmpty then .ok [] else .error .wrongType

/-- A text has its characters for items, and bytes are numbers. -/
def itemsOf (collections : Array Yaml.Collection) :
    Yaml.Value → Except SettingsFault (List Yaml.Value)
  | .text value => .ok (value.toList.map fun character => .text (String.singleton character))
  | .bytes value => .ok (value.map fun byte => .integer byte.toNat)
  | .collection place =>
    match collections[place]? with
    | some collection => itemsOfCollection collection
    | none => .error .wrongType
  | _ => .error .wrongType

def readModes (collections : Array Yaml.Collection) (value : Yaml.Value) :
    Except SettingsFault (List Int) := do
  (← itemsOf collections value).mapM readWhole

def entry? (name : String) (entries : Yaml.Entries) : Option Yaml.Value :=
  (entries.find? fun entry => entry.1.isSameKey (.text name)).map Prod.snd

def readEntry (entries : Yaml.Entries) (name : String)
    (read : Yaml.Value → Except SettingsFault α) (standard : α) : Except SettingsFault α :=
  match entry? name entries with
  | some value => read value
  | none => .ok standard

def check (settings : Settings) : Except SettingsFault Settings :=
  if settings.defaultMode ∉ settings.modes then
    if (settings.defaultMode :: settings.modes).any Text.isTooLong then .error .tooLong
    else .error (.defaultNotOffered settings.defaultMode settings.modes)
  else if settings.modes.any (· < 1) then .error .emptyMode
  else .ok settings

def ofEntries (collections : Array Yaml.Collection) (entries : Yaml.Entries) :
    Except SettingsFault Settings := do
  let modes ← readEntry entries "modes" (readModes collections) standard.modes
  let defaultMode ← readEntry entries "default_mode" readWhole standard.defaultMode
  let lifetime ← readEntry entries "game_ttl" readWhole standard.lifetime
  let leaderboardSize ← readEntry entries "leaderboard_size" readWhole standard.leaderboardSize
  check { modes, defaultMode, lifetime, leaderboardSize }

def entriesOf? (collections : Array Yaml.Collection) : Yaml.Value → Option Yaml.Entries
  | .collection place =>
    match collections[place]? with
    | some (.mapping entries) => some entries
    | _ => none
  | _ => none

def ofDocument (document : Yaml.Document) : Except SettingsFault Settings :=
  if isBlank document.collections document.root then .ok standard
  else match entriesOf? document.collections document.root with
    | some entries => ofEntries document.collections entries
    | none => .error .notMapping

def ofText (text : String) : Except SettingsFault Settings :=
  match Yaml.read text with
  | .ok document => ofDocument document
  | .error fault => .error (.yaml fault)

def load (directory : Directory) : Option String → Except SettingsFault Settings
  | none => .ok standard
  | some path =>
    match directory.text path with
    | .ok text => ofText text
    | .error fault => .error (.unreadable fault path)

end Settings

def SettingsFault.message : SettingsFault → String
  | .unreadable fault path => fault.message path
  | .yaml fault => fault.message
  | .notMapping => "the settings are no mapping"
  | .wrongType => "a setting has no whole number"
  | .integer fault => fault.message
  | .notWhole fault => fault.message
  | .defaultNotOffered mode modes =>
    s!"default_mode {mode} is not one of [" ++ ", ".intercalate (modes.map toString) ++ "]"
  | .tooLong => Text.lengthMessage ""
  | .emptyMode => "Every mode must ask for at least one problem"

end TenPuzzle
