import UserRegistry.Failure
import UserRegistry.Settings

/-!
# Events

What the parts of the registry report while they work. An event says what happened; its level, its
target (the part it comes from), its message and its further fields follow from that.

There is one event for each use of a macro of `tracing`, and one message of each.
-/

namespace UserRegistry

inductive Level where
  | error
  | warn
  | info
  | debug
  | trace
deriving DecidableEq, Repr

namespace Level

/-- How much a level lets through: the more verbose, the greater. -/
def rank : Level → Nat
  | error => 1
  | warn => 2
  | info => 3
  | debug => 4
  | trace => 5

def name : Level → String
  | error => "ERROR"
  | warn => "WARN"
  | info => "INFO"
  | debug => "DEBUG"
  | trace => "TRACE"

end Level

/-- What happened. -/
inductive Event where
  /-- Logging was set up. -/
  | loggingInitialized (json : Bool)
  /-- The file of variables was not read, or not to its end. -/
  | variablesUnread (reason : String)
  /-- The configuration of an environment is about to be read. -/
  | loadingEnvironment (name : String)
  /-- A configuration file is about to be read. -/
  | loadingFile (path : String)
  /-- An advisory on settings just loaded. -/
  | loadedAdvisory (advice : String)
  /-- A fresh configuration took the place of the former one. -/
  | reloaded
  /-- A service was chosen. -/
  | creatingService (backend : Backend)
  | gettingUser (id : UserId)
  | creatingUser (id : UserId)
  | userCreated (id : UserId)
  | userReplaced (id : UserId)
  | updatingUser (id : UserId)
  | userUpdated (id : UserId)
  | updateRejected (id : UserId)
  | deletingUser (id : UserId)
  | userDeleted (id : UserId)
  | deleteRejected (id : UserId)
  /-- A record was to be created or updated, and none was given. -/
  | missingUser
  /-- The stand-in was asked for a user. -/
  | standInGet (id : UserId)
  | standInCreate
  | standInUpdate
  | standInDelete (id : UserId)
  /-- The demonstration begins. -/
  | runningScenario (id : UserId)
  /-- The demonstration read a record back. -/
  | foundUser (user : User)
  /-- The name of the application in large letters. -/
  | banner
  /-- A line between the settings and the rest. -/
  | rule
  | runningApplication (name version : String)
  | runningEnvironment (name : String)
  | runningBackend (backend : Backend)
  /-- An advisory on the settings in use. -/
  | startupAdvisory (advice : String)
  /-- The program gives up. -/
  | gaveUp (failure : Failure)
  /-- The program is done. -/
  | done
deriving DecidableEq, Repr

namespace Event

/-- The application's name in large letters, on lines of their own. -/
def bannerText : String :=
  "\n    ____             __\n" ++
  "   / __ \\____  _____/ /____  _____\n" ++
  "  / /_/ / __ \\/ ___/ __/ _ \\/ ___/\n" ++
  " / _, _/ /_/ (__  ) /_/  __/ /\n" ++
  "/_/ |_|\\____/____/\\__/\\___/_/\n" ++
  "    "

def ruleText : String :=
  String.ofList (List.replicate 60 '=')

def level : Event → Level
  | gaveUp _ => .error
  | loadedAdvisory _ | startupAdvisory _ => .warn
  | updateRejected _ | deleteRejected _ | missingUser => .warn
  | loadingEnvironment _ | reloaded | userCreated _ | userReplaced _ | userUpdated _ | userDeleted _
  | foundUser _ | banner | rule | runningApplication _ _ | runningEnvironment _
  | runningBackend _ | done => .info
  | loggingInitialized _ | variablesUnread _ | loadingFile _ | creatingService _ | gettingUser _
  | creatingUser _ | updatingUser _ | deletingUser _ | runningScenario _ => .debug
  | standInGet _ | standInCreate | standInUpdate | standInDelete _ => .trace

/-- The part of the program the event comes from, as filters name it. -/
def target : Event → String
  | loggingInitialized _ => "roster_core::telemetry"
  | variablesUnread _ | loadingEnvironment _ | loadingFile _ | loadedAdvisory _ | reloaded =>
    "roster_config::loader"
  | creatingService _ => "roster_service::factory"
  | gettingUser _ | creatingUser _ | userCreated _ | userReplaced _ | updatingUser _
  | userUpdated _ | updateRejected _ | deletingUser _ | userDeleted _ | deleteRejected _
  | missingUser => "roster_service::r#impl::user_service_impl"
  | standInGet _ | standInCreate | standInUpdate | standInDelete _ =>
    "roster_service::r#impl::mock_user_service"
  | runningScenario _ | foundUser _ => "roster_app::app"
  | banner | rule | runningApplication _ _ | runningEnvironment _ | runningBackend _
  | startupAdvisory _ => "roster_app::startup"
  | gaveUp _ | done => "roster"

def message : Event → String
  | loggingInitialized _ => "Logging initialized"
  | variablesUnread reason => "No .env file found or error loading it: " ++ reason
  | loadingEnvironment name => "Loading configuration for environment: " ++ name
  | loadingFile path => "Loading config from: " ++ path
  | loadedAdvisory advice => advice
  | reloaded => "Configuration reloaded successfully"
  | creatingService b => "Creating user service with backend: " ++ b.name
  | gettingUser id => "Getting user: " ++ id.text
  | creatingUser id => "Creating user: " ++ id.text
  | userCreated id => "User created: " ++ id.text
  | userReplaced id => "User replaced: " ++ id.text
  | updatingUser id => "Updating user: " ++ id.text
  | userUpdated id => "User updated: " ++ id.text
  | updateRejected id => "Update rejected, user not found: " ++ id.text
  | deletingUser id => "Deleting user: " ++ id.text
  | userDeleted id => "User deleted: " ++ id.text
  | deleteRejected id => "Delete rejected, user not found: " ++ id.text
  | missingUser => "Rejected user operation without a user"
  | standInGet id => "Mock get_user: " ++ id.text
  | standInCreate => "Mock create_user"
  | standInUpdate => "Mock update_user"
  | standInDelete id => "Mock delete_user: " ++ id.text
  | runningScenario id => "Running scenario for user: " ++ id.text
  | foundUser u => "Found user: " ++ u.text
  | banner => bannerText
  | rule => ruleText
  | runningApplication name version => "Application: " ++ name ++ " v" ++ version
  | runningEnvironment name => "Environment: " ++ name
  | runningBackend b => "Backend:     " ++ b.name
  | startupAdvisory advice => advice
  | gaveUp failure => "Application error: " ++ failure.message
  | done => "Done"

def fields : Event → List (String × Bool)
  | loggingInitialized json => [("json", json)]
  | _ => []

def fieldNames (e : Event) : List String :=
  "message" :: e.fields.map Prod.fst

/-- The event as a summary of one entry: level, target, message and fields. -/
def summary (e : Event) : String :=
  e.level.name ++ " " ++ e.target ++ ": " ++ e.message ++
    String.join (e.fields.map fun f => " " ++ f.1 ++ "=" ++ Json.flagWord f.2)

end Event

end UserRegistry
