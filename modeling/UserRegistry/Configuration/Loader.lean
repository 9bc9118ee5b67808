import UserRegistry.Configuration.Load
import UserRegistry.VariableFile.Reading

/-!
# Loaders

A loader keeps a place and the settings that were last loaded from it. Reloading loads anew and
puts the fresh settings in the place of the former ones; where loading fails, the former ones stay.
All who hold a loader share these settings.

| here | there |
| --- | --- |
| `Loader` | `ConfigLoader` |
| `Loader.start` | `ConfigLoader::with_environment` |
| `Loader.discover` | `ConfigLoader::new`, `from_default_location` |
| `Loader.get`, `Loader.reload` | `ConfigLoader::get`, `ConfigLoader::reload` |
| `Loader.describe` | `Debug` |
| `readVariableFile` | `dotenvy::dotenv` |
-/

namespace UserRegistry.Configuration

open UserRegistry.Layers

/-- A place and the settings last loaded from it (`ConfigLoader`). -/
structure Loader where
  place : Place
  current : Settings
deriving DecidableEq, Repr

def defaultFolder : String := "./config"

def environmentVariable : String := "ROSTER_ENVIRONMENT"

def defaultEnvironment : String := "development"

def variableFile : String := ".env"

namespace Loader

/-- A loader of a place, with the settings loaded from it now, unless that panics
(`ConfigLoader::with_environment`). -/
def start (p : Place) (w : World) (o : Order := .listed) : Report Loader :=
  let r := p.load w o
  ⟨r.result.map fun s => ⟨p, s⟩, r.events⟩

def get (l : Loader) : Settings :=
  l.current

def swap (l : Loader) (s : Settings) : Loader :=
  { l with current := s }

/-- Loads anew (`ConfigLoader::reload`), unless that panics. -/
def reload (l : Loader) (w : World) (o : Order := .listed) : Report Unit × Loader :=
  let r := l.place.load w o
  match r.result with
  | .ok s => (⟨.ok (), r.events ++ [.reloaded]⟩, l.swap s)
  | .error f => (⟨.error f, r.events⟩, l)

/-- The loader in words, without its settings (`Debug`). -/
def describe (l : Loader) : String :=
  "ConfigLoader \x7b config_dir: " ++ Text.quoted l.place.folder ++ ", environment: " ++
    Text.quoted l.place.environment ++ ", .. \x7d"

end Loader

/-- What the file of variables assigns when variables are set already, and the fault it ends with.
It is looked for in the working folder and then in those above. -/
def variableReading (w : World) : VariableFile.Reading :=
  match w.files.nearest? variableFile with
  | none => ⟨[], some .missing⟩
  | some file => VariableFile.read w.vars file.text file.broken

/-- Sets the variables that the file of variables gives (`dotenvy::dotenv`), unless that panics.
That none or not all of it can be read is told, and is no failure. -/
def readVariableFile (w : World) : List Event × World :=
  let r := variableReading w
  (r.fault.toList.map fun f => .variablesUnread f.message,
    { w with vars := VariableFile.assign w.vars r.assignments })

def environmentIn (vs : Variables) : String :=
  (vs.get? environmentVariable).getD defaultEnvironment

/-- A loader of a folder, for the environment that the variables name after the file of variables
was read (`ConfigLoader::new`; for the default folder `from_default_location`). -/
def Loader.discover (folder : String) (w : World) (o : Order := .listed) :
    Report Loader × World :=
  let (told, w) := readVariableFile w
  ((Loader.start ⟨folder, environmentIn w.vars⟩ w o).after told, w)

/-- Why finding the environment and loading for it panics, if it does: a variable cannot be set, or
else the settings cannot be loaded. -/
def Loader.discoverPanic? (folder : String) (w : World) (o : Order := .listed) : Option Panic :=
  match VariableFile.unsettable? w.vars (variableReading w).assignments with
  | some (name, value) => some (.unsettable name value)
  | none =>
    let w := (readVariableFile w).2
    Place.panic? ⟨folder, environmentIn w.vars⟩ w o

end UserRegistry.Configuration
