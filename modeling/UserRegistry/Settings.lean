import UserRegistry.User

/-!
# Settings

The typed configuration of the registry in four sections, each with defaults, and what follows
from it: the user that the demonstration creates, and advisories on settings that are valid but
risky.

| here | there |
| --- | --- |
| `Settings`, `warnings` | `AppConfig`, `AppConfig::warnings` |
| `AppSection`, `isProduction` | `AppMetadata`, `is_production` |
| `ServiceSection`, `Backend` | `ServiceConfig`, `ServiceBackend` |
| `DemoSection`, `user` | `DemoConfig`, `to_user` |
| `LoggingSection` | `TelemetryConfig` |
-/

namespace UserRegistry

/-- Which service keeps the users (`ServiceBackend`). -/
inductive Backend where
  /-- An in-memory store with full validation. -/
  | store
  /-- A stand-in that accepts everything and keeps nothing. -/
  | mock
deriving DecidableEq, Inhabited, Repr

namespace Backend

def name : Backend → String
  | store => "store"
  | mock => "mock"

def byName : List (String × Backend) :=
  [("store", store), ("mock", mock)]

def default : Backend := store

end Backend

/-- What the application is called and where it runs (`AppMetadata`). -/
structure AppSection where
  name : String := "roster"
  version : String := "0.1.0"
  environment : String := "development"
deriving DecidableEq, Repr

def AppSection.isProduction (app : AppSection) : Bool :=
  app.environment == "production"

/-- Which user service is used (`ServiceConfig`). -/
structure ServiceSection where
  backend : Backend := Backend.default
deriving DecidableEq, Repr

/-- The record of the demonstration (`DemoConfig`). -/
structure DemoSection where
  id : Int64 := 1
  name : String := "Zhang San"
  email : String := "zhangsan@example.com"
deriving DecidableEq, Repr

/-- The user of the demonstration (`to_user`). -/
def DemoSection.user (demo : DemoSection) : User :=
  ⟨⟨demo.id⟩, demo.name, demo.email⟩

/-- What is logged, and how (`TelemetryConfig`). -/
structure LoggingSection where
  /-- The filter directives, unless the process environment gives others. -/
  filter : String := "info,roster=debug"
  /-- Whether each event is written as a document of one line. -/
  json : Bool := false
deriving DecidableEq, Repr

/-- The whole configuration (`AppConfig`). -/
structure Settings where
  app : AppSection := {}
  service : ServiceSection := {}
  demo : DemoSection := {}
  logging : LoggingSection := {}
deriving DecidableEq, Repr

namespace Settings

/-- Advisories on settings that are valid but risky. -/
def warnings (s : Settings) : List String :=
  if s.app.isProduction && s.service.backend == .mock then
    ["Mock user service selected in production; all operations will succeed without storing data."]
  else []

def backendJson (b : Backend) : Json :=
  .text b.name

def loggingJson (l : LoggingSection) : Json :=
  .object [("log_filter", .text l.filter), ("json_logs", .flag l.json)]

/-- The configuration as a document, sections and fields in their order. -/
def toJson (s : Settings) : Json :=
  .object [
    ("app", .object [("name", .text s.app.name), ("version", .text s.app.version),
      ("environment", .text s.app.environment)]),
    ("service", .object [("backend", backendJson s.service.backend)]),
    ("demo", .object [("id", .int s.demo.id), ("name", .text s.demo.name),
      ("email", .text s.demo.email)]),
    ("observability", loggingJson s.logging)]

end Settings

end UserRegistry
