import Std.Time.DateTime
import UserRegistry.Program

/-!
# Running the program

The outer layer: finds the files and variables the program may ask for, runs it on them and writes
what it leaves.

The program is the binary `roster`.
-/

namespace UserRegistry.Main

/-- The name and the value of one variable of a process. A name has at least one byte, so a sign of
equality in the first place belongs to it. -/
def assignment? : List UInt8 → Option (ByteArray × ByteArray)
  | [] => none
  | first :: bytes =>
    match bytes.span (· != 61) with
    | (_, []) => none
    | (name, _ :: value) => some (⟨(first :: name).toArray⟩, ⟨value.toArray⟩)

/-- The variables of this process, each of which ends in a zero. -/
def processVariables : IO Variables := do
  let bytes ← IO.FS.readBinFile "/proc/self/environ"
  let entries := (Text.cutAfter (· == 0) bytes.toList).map fun entry => entry.filter (· != 0)
  let add (vs : Variables) (name value : ByteArray) : Variables :=
    match String.fromUTF8? name, String.fromUTF8? value with
    | some name, some value => vs.set name value
    | _, _ => { vs with foreign := true }
  return (entries.filterMap assignment?).foldl (fun vs (name, value) => add vs name value) .empty

/-- What a path leads to. A place that can be opened and not read is a folder. -/
def look (path : String) : IO (Option Node) := do
  try
    return some (.file (FileText.ofBytes (← IO.FS.readBinFile path)))
  catch
    | .noFileOrDirectory .. | .inappropriateType (some _) .. => return none
    | .inappropriateType none .. => return some .folder
    | _ => return some (.file ⟨"", true⟩)

/-- The files with what a path leads to, and beside a folder what may stand for it. -/
def addPath (files : Folder) (path : String) : IO Folder := do
  match ← look path with
  | none => return files
  | some (.file content) => return files.write path (.file content)
  | some .folder =>
    let files := files.write path .folder
    match ← look (path ++ ".toml") with
    | some node => return files.write (path ++ ".toml") node
    | none => return files

/-- Everything the program may ask for. -/
def world : IO World := do
  let home := (Path.ofText (← IO.currentDir).toString).steps.map Path.stepText
  let variableFiles := (Folder.upward home).map fun place =>
    String.join ((place ++ [Configuration.variableFile]).map ("/" ++ ·))
  let files ← variableFiles.foldlM addPath (.emptyAt home)
  let vs ← processVariables
  let (_, w) := Configuration.readVariableFile ⟨files, vs⟩
  let place : Configuration.Place :=
    ⟨Configuration.defaultFolder, Configuration.environmentIn w.vars⟩
  return ⟨← place.paths.foldlM addPath files, vs⟩

def time : IO String := do
  let now ← Std.Time.Timestamp.now
  let seconds := now.val.second.val
  let micros := now.val.nano.val.toNat / 1000
  let day := Std.Time.PlainDate.ofEpochDay ⟨seconds / 86400⟩
  let ofDay := (seconds % 86400).toNat
  let two (n : Nat) : String := String.ofList (Decimal.padded 2 n)
  return String.ofList (Decimal.padded 4 day.year.toInt.toNat) ++ "-" ++
    two day.month.val.toNat ++ "-" ++ two day.day.val.toNat ++ "T" ++
    two (ofDay / 3600) ++ ":" ++ two (ofDay / 60 % 60) ++ ":" ++ two (ofDay % 60) ++ "." ++
    String.ofList (Decimal.padded 6 micros) ++ "Z"

end UserRegistry.Main

/-- Runs the program in the working folder, with every text taken for a pattern. -/
def main : IO UInt32 := do
  let outcome := @UserRegistry.Program.run .any (← UserRegistry.Main.world) .listed
  for d in outcome.diagnostics do
    IO.eprint (d.text (← UserRegistry.Main.time))
  IO.print outcome.output
  return outcome.exitCode.toUInt32
