import TenPuzzle.Expression.Machine
import TenPuzzle.Settings.Reading

/-!
Start of the bot: its configuration comes from environment variables, and a bot that can be
configured is made and then started with its token.
-/

namespace TenPuzzle

/-- Programs that are started run under this limit. -/
instance startedLimit : DepthLimit := .standard

abbrev Environment := List (String × String)

structure Configuration where
  token : String
  storeHost : String
  storePort : Int
  owner : String
  packaged : Bool
  game : Settings
  deriving DecidableEq, Repr

inductive StartFault where
  | settings (fault : SettingsFault)
  | missingVariables
  | unreachable (reason : String)
  deriving DecidableEq, Repr

namespace Configuration

def standardPort : Int := 6379

def readPort (environment : Environment) : Except StartFault Int :=
  match environment.lookup "REDIS_PORT" with
  | none => .ok standardPort
  | some text =>
    (Text.readInteger text.toList).mapError fun fault => .settings (.integer fault)

/-- A variable that is set, and not to the empty text. -/
def readRequired (environment : Environment) (name : String) : Except StartFault String :=
  match environment.lookup name with
  | some value => if value.isEmpty then .error .missingVariables else .ok value
  | none => .error .missingVariables

def read (environment : Environment) (directory : Directory) :
    Except StartFault Configuration := do
  let path := environment.lookup "MAKE10_SETTINGS"
  let port ← readPort environment
  let game ← (Settings.load directory path).mapError StartFault.settings
  let token ← readRequired environment "DISCORD_TOKEN"
  let owner ← readRequired environment "OWNER_ID"
  .ok {
    token := token
    storeHost := (environment.lookup "REDIS_HOST").getD "localhost"
    storePort := port
    owner := owner
    packaged := path.isNone
    game := game }

end Configuration

inductive StartStep where
  | makeBot (owner : String)
  | connect (token : String)
  deriving DecidableEq, Repr

structure Start where
  steps : List StartStep
  fault : Option StartFault
  deriving DecidableEq, Repr

/-- Starts the bot; an outage shows when it connects. -/
def Start.run (environment : Environment) (directory : Directory) (outage : Option String) : Start :=
  match Configuration.read environment directory with
  | .error fault => ⟨[], some fault⟩
  | .ok configuration =>
    ⟨[.makeBot configuration.owner, .connect configuration.token],
      outage.map StartFault.unreachable⟩

def StartFault.message : StartFault → String
  | .settings fault => fault.message
  | .missingVariables => "Missing required environment variables"
  | .unreachable reason => reason

end TenPuzzle
