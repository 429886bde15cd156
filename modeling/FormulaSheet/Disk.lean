/-!
Files and directories as far as the program looks at them, and what can go wrong with them.
-/

namespace FormulaSheet

inductive Disk.Entry where
  | text (content : String)
  /-- A file that is no text. -/
  | binary (size : Nat)
  | directory
  deriving DecidableEq, Repr

/-- The entries of a disk by their paths from the root, which is always there. -/
structure Disk where
  entries : List (List String × Disk.Entry) := []
  /-- The directory that paths start from unless they start from the root. -/
  here : List String := []
  deriving DecidableEq, Repr

namespace Disk

inductive Fault where
  | missing
  | taken
  | notDirectory
  | isDirectory
  | notText
  deriving DecidableEq, Repr

def Fault.message : Fault → String
  | .missing => "No such file or directory (os error 2)"
  | .taken => "File exists (os error 17)"
  | .notDirectory => "Not a directory (os error 20)"
  | .isDirectory => "Is a directory (os error 21)"
  | .notText => "stream did not contain valid UTF-8"

/-! ## Paths -/

/-- Goes on by one name of a path, with the last name in front. -/
def pushName (names : List String) (name : String) : List String :=
  if name = "" ∨ name = "." then names
  else if name = ".." then names.drop 1
  else name :: names

def isAbsolute (path : String) : Bool := path.toList.head? == some '/'

/-- The names on a path from the root. -/
def names (d : Disk) (path : String) : List String :=
  let start := if isAbsolute path then [] else d.here.reverse
  ((path.splitOn "/").foldl pushName start).reverse

/-- A path inside of a directory. -/
def join (directory path : String) : String :=
  if isAbsolute path then path
  else if directory = "" ∨ directory.toList.getLast? = some '/' then directory ++ path
  else directory ++ "/" ++ path

/-- The name of a file without its last ending, if it has one with something in front. -/
def stem (path : String) : String :=
  let name := (((path.splitOn "/").foldl pushName []).headD "").toList
  let ending := name.reverse.takeWhile (· != '.')
  let rest := name.take (name.length - ending.length - 1)
  String.ofList (if rest.isEmpty then name else rest)

/-! ## Looking -/

/-- The entry at some names, whatever stands on the way. -/
def at? (d : Disk) (names : List String) : Option Entry :=
  if names.isEmpty then some .directory
  else (d.entries.find? fun e => e.1 == names).map Prod.snd

/-- Follows names through directories that have to be there. -/
def follow (d : Disk) (done : List String) : List String → Except Fault Entry
  | [] =>
    match d.at? done with
    | some e => .ok e
    | none => .error .missing
  | name :: rest =>
    match d.at? done with
    | some .directory => follow d (done ++ [name]) rest
    | some _ => .error .notDirectory
    | none => .error .missing

def entry (d : Disk) (path : String) : Except Fault Entry :=
  if path = "" then .error .missing else d.follow [] (d.names path)

def contains (d : Disk) (path : String) : Bool := (d.entry path).toBool

/-- The size of a file in bytes. -/
def size (d : Disk) (path : String) : Except Fault Nat := do
  match ← d.entry path with
  | .text s => return s.utf8ByteSize
  | .binary n => return n
  | .directory => return 0

/-- The text of a file. -/
def read (d : Disk) (path : String) : Except Fault String := do
  match ← d.entry path with
  | .text s => return s
  | .binary _ => .error .notText
  | .directory => .error .isDirectory

/-- The files of a directory that are texts, by name. -/
def textsIn (d : Disk) (directory : String) : List (String × String) :=
  d.entries.filterMap fun (path, e) =>
    match e with
    | .text s =>
      if path.dropLast = d.names directory then path.getLast?.map fun name => (name, s) else none
    | _ => none

/-! ## Changing -/

def put (d : Disk) (names : List String) (e : Entry) : Disk :=
  { d with entries := (names, e) :: d.entries.filter fun other => other.1 != names }

/-- Writes a file into a directory that is there. -/
def write (d : Disk) (path content : String) : Except Fault Disk := do
  match ← d.follow [] (d.names path).dropLast with
  | .directory =>
    match d.at? (d.names path) with
    | some .directory => .error .isDirectory
    | _ => if path = "" then .error .missing else return d.put (d.names path) (.text content)
  | _ => .error .notDirectory

/-- Makes the directories that are missing on the way through some names. -/
def makeAll (d : Disk) (done : List String) : List String → Except Fault Disk
  | [] => .ok d
  | name :: rest =>
    let here := done ++ [name]
    match d.at? here with
    | some .directory => makeAll d here rest
    | some _ => .error (if rest.isEmpty then .taken else .notDirectory)
    | none => makeAll (d.put here .directory) here rest

/-- Makes a directory and those around it. -/
def makeDirectory (d : Disk) (path : String) : Except Fault Disk := d.makeAll [] (d.names path)

/-- Gives a directory other texts than it had. -/
def setTextsIn (d : Disk) (directory : String) (texts : List (String × String)) : Disk :=
  let place := d.names directory
  let others := d.entries.filter fun (path, e) =>
    match e with
    | .text _ => path.dropLast != place || path.isEmpty
    | _ => true
  { d with entries := texts.map (fun (name, s) => (place ++ [name], Entry.text s)) ++ others }

end Disk

end FormulaSheet
