import FormulaSheet.Disk
import FormulaSheet.History
import FormulaSheet.Toml

/-!
Settings of the program. They are read from a file; whatever is wrong with it gives a warning, and
then nothing in it counts.
-/

namespace FormulaSheet

structure Settings where
  /-- The quiet window before a save, in milliseconds. -/
  autosave : Nat := 500
  /-- How many steps can be undone. -/
  maxUndo : Nat := ({} : History).limit
  /-- Where tables are stored; in memory if that is not given. -/
  dataDir : Option String := none
  user : String := "local"
  deriving DecidableEq, Repr

/-- The directories of a user for settings and for data. -/
structure Home where
  config : Option String := none
  data : Option String := none
  deriving DecidableEq, Repr

namespace Settings

/-- The name that the program gives its own directories. -/
def programName : String := "rowsheet"

def configFile (h : Home) : Option String :=
  h.config.map fun dir => Disk.join (Disk.join dir programName) "config.toml"

/-- The settings of a user who has said nothing. -/
def default (h : Home) : Settings where
  dataDir := h.data.map fun dir => Disk.join (Disk.join dir programName) "tables"

/-- Larger files are not read. -/
def sizeLimit : Nat := 1048576

inductive Warning where
  | fileMissing (path : String)
  | unreadable (path reason : String)
  | tooLarge (path : String) (size : Nat)
  | notUnderstood (path : String)
  | emptyUser
  deriving DecidableEq, Repr

def Warning.message : Warning → String
  | .fileMissing path => "Config file not found: " ++ path
  | .unreadable path reason => "Failed to read " ++ path ++ ": " ++ reason
  | .tooLarge path size =>
    "Refusing to read " ++ path ++ ": file too large (" ++ toString size ++ " bytes, max " ++
      toString sizeLimit ++ ")"
  | .notUnderstood path => "Failed to parse " ++ path ++ ": invalid settings"
  | .emptyUser => "Ignoring empty 'user' setting"

/-- The settings with an assignment; only those that there are can be assigned. -/
def assign (s : Settings) : String × Toml.Value → Option Settings
  | ("autosave_ms", .whole n) => if 0 ≤ n then some { s with autosave := n.toNat } else none
  | ("max_undo", .whole n) => if 0 ≤ n then some { s with maxUndo := n.toNat } else none
  | ("data_dir", .text dir) => some { s with dataDir := some dir }
  | ("user", .text user) => some { s with user := user }
  | _ => none

/-- The settings of a file on top of others. -/
def ofText? (s : Settings) (text : String) : Option Settings :=
  (Toml.assignments? text).bind fun found => found.foldlM assign s

/-- The settings with blanks around the user dropped; a blank user is replaced by another one. -/
def trimUser (s : Settings) (user : String) : Settings × List Warning :=
  let cs := Number.trimmed s.user.toList
  if cs.isEmpty then ({ s with user := user }, [.emptyUser])
  else ({ s with user := String.ofList cs }, [])

/-- Reads the file at a path on top of some settings. -/
def withFile (d : Disk) (path : String) (s : Settings) : Settings × List Warning :=
  match d.size path with
  | .error fault => (s, [.unreadable path fault.message])
  | .ok size =>
    if size > sizeLimit then (s, [.tooLarge path size])
    else
      match d.read path with
      | .error fault => (s, [.unreadable path fault.message])
      | .ok text =>
        match s.ofText? text with
        | none => (s, [.notUnderstood path])
        | some found => found.trimUser s.user

/-- The settings in a file that was asked for, or else in the file of the user, which may be
missing. -/
def load (d : Disk) (h : Home) (wanted : Option String) : Settings × List Warning :=
  match wanted, configFile h with
  | some path, _ =>
    if d.contains path then (default h).withFile d path else (default h, [.fileMissing path])
  | none, some path =>
    if d.contains path then (default h).withFile d path else (default h, [])
  | none, none => (default h, [])

end Settings

end FormulaSheet
