import UserRegistry.Settings

/-!
# Reading records

What a configuration document or a user record is made of, said once for all formats. A format
knows how to read an integer, a text, a truth value, one name out of several, and a record, which
is a list of named fields. Reading a record starts from its blank value and lets every field that
is given change it; fields that are not required keep what the blank value has.

The records are those for which `Deserialize` is derived: the user, the configuration and its
sections.
-/

namespace UserRegistry

/-- A field of a record: reading it gives the change it makes to the record. -/
structure Field (ρ : Type → Type) (α : Type) where
  name : String
  required : Bool
  change : ρ (α → α)

/-- A record: what it is called where one is expected, its value before any field is read, and its
fields in order. -/
structure Record (ρ : Type → Type) (α : Type) where
  title : String
  blank : α
  fields : List (Field ρ α)

/-- How many fields a record has, in words. -/
def Record.count (r : Record ρ α) : String :=
  let n := r.fields.length
  toString n ++ (if n = 1 then " element" else " elements")

/-- A format that documents are written in. -/
class Format (ρ : Type → Type) where
  /-- Reads something and hands it on changed. -/
  map : (α → β) → ρ α → ρ β
  int64 : ρ Int64
  text : ρ String
  flag : ρ Bool
  /-- One name out of several, under a common title. -/
  oneOf : String → List (String × α) → ρ α
  record : Record ρ α → ρ α

namespace Field

/-- A field that may be left out. -/
def optional [Format ρ] (name : String) (value : ρ β) (put : β → α → α) : Field ρ α :=
  ⟨name, false, Format.map put value⟩

/-- A field that has to be there. -/
def needed [Format ρ] (name : String) (value : ρ β) (put : β → α → α) : Field ρ α :=
  ⟨name, true, Format.map put value⟩

end Field

namespace UserId

def reader [Format ρ] : ρ UserId :=
  Format.map UserId.mk Format.int64

end UserId

namespace User

/-- A user record, all of whose fields have to be there. -/
def reader [Format ρ] : ρ User :=
  Format.record {
    title := "struct User"
    blank := ⟨UserId.zero, "", ""⟩
    fields := [
      .needed "id" UserId.reader fun v u => { u with id := v },
      .needed "name" Format.text fun v u => { u with name := v },
      .needed "email" Format.text fun v u => { u with email := v }] }

end User

namespace Backend

def reader [Format ρ] : ρ Backend :=
  Format.oneOf "ServiceBackend" byName

/-- A record with nothing but a backend, which has to be there. -/
def wrapped [Format ρ] : ρ Backend :=
  Format.record {
    title := "struct Wrapper"
    blank := Backend.default
    fields := [.needed "backend" reader fun v _ => v] }

end Backend

namespace Settings

def appReader [Format ρ] : ρ AppSection :=
  Format.record {
    title := "struct AppMetadata"
    blank := {}
    fields := [
      .optional "name" Format.text fun v a => { a with name := v },
      .optional "version" Format.text fun v a => { a with version := v },
      .optional "environment" Format.text fun v a => { a with environment := v }] }

def serviceReader [Format ρ] : ρ ServiceSection :=
  Format.record {
    title := "struct ServiceConfig"
    blank := {}
    fields := [.optional "backend" Backend.reader fun v s => { s with backend := v }] }

def demoReader [Format ρ] : ρ DemoSection :=
  Format.record {
    title := "struct DemoConfig"
    blank := {}
    fields := [
      .optional "id" Format.int64 fun v d => { d with id := v },
      .optional "name" Format.text fun v d => { d with name := v },
      .optional "email" Format.text fun v d => { d with email := v }] }

def loggingReader [Format ρ] : ρ LoggingSection :=
  Format.record {
    title := "struct TelemetryConfig"
    blank := {}
    fields := [
      .optional "log_filter" Format.text fun v l => { l with filter := v },
      .optional "json_logs" Format.flag fun v l => { l with json := v }] }

def reader [Format ρ] : ρ Settings :=
  Format.record {
    title := "struct AppConfig"
    blank := {}
    fields := [
      .optional "app" appReader fun v s => { s with app := v },
      .optional "service" serviceReader fun v s => { s with service := v },
      .optional "demo" demoReader fun v s => { s with demo := v },
      .optional "observability" loggingReader fun v s => { s with logging := v }] }

end Settings

end UserRegistry
