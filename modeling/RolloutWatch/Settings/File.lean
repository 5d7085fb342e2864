import RolloutWatch.LogEntry
import RolloutWatch.Settings.Text

/-!
# Settings in files

A directory is a list of named entries, files with their bytes and directories
without entries of their own. The settings of a directory stand in the file with
the first of two names that is there. Whatever has that name decides, even if it
cannot be read.
-/

namespace RolloutWatch

/-- What a directory holds under a name. -/
inductive Entry where
  | file (content : ByteArray)
  | directory

/-- A directory, with the path that leads to it. -/
structure Directory where
  path : String
  entries : List (String × Entry)

/-- Why a file could not be read as text. -/
inductive FileFault where
  | missing
  | notDirectory
  | isDirectory
  | longName
  | zeroByte
  | notText
deriving DecidableEq, Repr

def FileFault.message : FileFault → String
  | missing => "No such file or directory (os error 2)"
  | notDirectory => "Not a directory (os error 20)"
  | isDirectory => "Is a directory (os error 21)"
  | longName => "File name too long (os error 36)"
  | zeroByte => "file name contained an unexpected NUL byte"
  | notText => "stream did not contain valid UTF-8"

namespace Directory

/-- Where a path leads: to the directory itself, to an entry of it, or to one of the
directories around it, up to the root. Nothing else is known of those. -/
inductive Spot where
  | outside
  | top
  | entry (entry : Entry)

/-- The most bytes of a name. -/
def nameRoom : Nat := 255

/-- Follows a path from a spot. A file is the end of any path. -/
def follow (d : Directory) (spot : Spot) : List String → Except FileFault Spot
  | [] => .ok spot
  | name :: rest =>
    match spot with
    | .entry (.file _) => .error .notDirectory
    | spot =>
      if name = "" ∨ name = "." then d.follow spot rest
      else if name = ".." then
        match spot with
        | .entry _ => d.follow .top rest
        | _ => d.follow .outside rest
      else if nameRoom < name.utf8ByteSize then .error .longName
      else
        match spot with
        | .top =>
          match d.entries.lookup name with
          | some entry => d.follow (.entry entry) rest
          | none => .error .missing
        | _ => .error .missing

/-- The most bytes of a path, the directory's own part included. -/
def pathRoom : Nat := 4095

/-- A path from the root, or from the directory with the path to it in front. -/
def fullPath (d : Directory) (path : String) : String :=
  if path.toList.head? == some '/' then path else d.path ++ "/" ++ path

/-- Where a path begins: at the root if it says so, else at the directory. -/
def origin (path : String) : Spot :=
  if path.toList.head? == some '/' then .outside else .top

/-- Reads the file at a path that begins at the directory or at the root. -/
def readText (d : Directory) (path : String) : Except FileFault String :=
  if path.toList.contains '\x00' then .error .zeroByte
  else if pathRoom < (d.fullPath path).utf8ByteSize then .error .longName
  else
    match d.follow (origin path) (path.splitOn "/") with
    | .error fault => .error fault
    | .ok (.entry (.file content)) =>
      match String.fromUTF8? content with
      | some text => .ok text
      | none => .error .notText
    | .ok _ => .error .isDirectory

end Directory

/-- Why no settings were loaded. -/
inductive LoadError where
  | unreadable (fault : FileFault)
  | settings (error : SettingsError)
  /-- There is no file with settings in the directory at this path. -/
  | noFile (path : String)
deriving DecidableEq, Repr

def LoadError.message? : LoadError → Option String
  | unreadable fault => some ("I/O error: " ++ fault.message)
  | settings error => error.message?
  | noFile path => some ("configuration file not found in " ++ path)

namespace Settings

/-- The names of files with settings, in the order in which they are looked for. -/
def fileNames : List String := ["rollout-stream.yml", "rollout-stream.yaml"]

/-- Loads settings from the file at a path within a directory. -/
def load (d : Directory) (path : String) : Except LoadError Settings :=
  match d.readText path with
  | .error fault => .error (.unreadable fault)
  | .ok text =>
    match ofYaml text with
    | .error error => .error (.settings error)
    | .ok settings => .ok settings

/-- Loads the settings of a directory. -/
def discover (d : Directory) : Except LoadError Settings × List LogEntry :=
  match fileNames.find? fun name => (d.entries.lookup name).isSome with
  | some name => (load d name, [.loadingSettings (d.path ++ "/" ++ name)])
  | none => (.error (.noFile d.path), [])

end Settings

end RolloutWatch
