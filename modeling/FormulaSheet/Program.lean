import FormulaSheet.CommandLine
import FormulaSheet.Printout
import FormulaSheet.Settings
import FormulaSheet.Store.Files
import FormulaSheet.Store.Memory
import FormulaSheet.Workspace

/-!
The program: what it prints and what it leaves on the disk, given its arguments, the disk, the time
and new identifiers.
-/

namespace FormulaSheet

/-- What a run of the program gets from outside. -/
structure Machine where
  disk : Disk
  home : Home
  occasion : Occasion

/-- What a run of the program comes to. -/
structure Outcome where
  code : Nat
  /-- What is printed. -/
  out : String := ""
  /-- The lines of complaints. -/
  complaints : List String := []
  disk : Disk

namespace Program

structure State where
  disk : Disk
  out : String := ""

/-- A part of a run. What was printed and written before a complaint remains. -/
abbrev Step := ExceptT String (StateM State)

def print (text : String) : Step Unit := modify fun s => { s with out := s.out ++ text }

/-- The cause of an error after its message, where the cause is another error. -/
def chain (e : Error) : String :=
  match e with
  | .io reason | .json reason => e.message ++ ": " ++ reason
  | e => e.message

/-- Gives up on an error, and says what was being done. -/
def giveUp (doing : String) (e : Error) : Step α :=
  throw (if doing = "" then chain e else doing ++ ": " ++ chain e)

def succeed (doing : String) : Except Error α → Step α
  | .ok a => pure a
  | .error e => giveUp doing e

/-- The result of looking at the disk or changing it. -/
def onDisk (r : Except Disk.Fault α) : Except Error α :=
  match r with
  | .ok a => .ok a
  | .error fault => .error (.io fault.message)

/-- Complaints of a part as its result. -/
def attempt (s : Step α) : Step (Except String α) := fun state =>
  let (r, state) := s.run state
  (.ok r, state)

/-! ## Stores -/

/-- What is done with a store of any kind. -/
abbrev StoreStep (α : Type) := (σ : Type) → [TableStore σ] → σ → Step (σ × α)

/-- Does something with the store of the settings. -/
def withStore (s : Settings) (f : StoreStep α) : Step α := do
  match s.dataDir with
  | none => return (← f MemoryStore {}).2
  | some dir =>
    let doing := "opening table store at " ++ dir
    let disk ← succeed doing (onDisk ((← get).disk.makeDirectory dir))
    modify fun state => { state with disk := disk }
    let (store, a) ← f FileStore ⟨disk.textsIn dir⟩
    modify fun state => { state with disk := state.disk.setTextsIn dir store.files }
    return a

/-- Prints the tables of a user. -/
def printList (s : Settings) : Step Nat := do
  withStore s fun _ _ store => do
    if let some dir := s.dataDir then
      let _ ← succeed "" (onDisk ((← get).disk.entry dir))
    for summary in TableStore.list s.user store do
      print (summary.id ++ "\t" ++ summary.name ++ "\t" ++ summary.updatedAt.display ++ "\n")
    return (store, 0)

/-- Stores the text of a document as a new table. -/
def saveAs (m : Machine) (s : Settings) (name : String) (d : Document) : Step Unit := do
  withStore s fun _ _ store => do
    let (record, store) ←
      succeed "" (TableStore.create m.occasion s.user (some name) store)
    let store ←
      succeed "" (TableStore.save m.occasion s.user record.id { csv := some d.text } false store)
    print ("Saved as " ++ record.id ++ "\n")
    return (store, ())

/-! ## Documents -/

/-- Larger files are not read. -/
def fileLimit : Nat := 16 * 1024 * 1024

/-- Reads a document out of a file. -/
def importFile (disk : Disk) (limit : Nat) (path : String) : Except Error Document := do
  let size ← onDisk (disk.size path)
  if size > fileLimit then .error (.fileTooLarge path size fileLimit)
  else return .ofFile limit (Disk.stem path) (← onDisk (disk.read path))

/-- A formula of the command line, whose mark can be left out. -/
def formulaOf (text : String) : String := if Formula.isFormula text then text else "% " ++ text

/-- Evaluates a formula, over a document if there is one, and prints its value. -/
def runCommand (o : Outlook) (text : String) (d : Option Document) : Step Nat := do
  let e := match d with
    | some d => d.evaluateFormula o (formulaOf text)
    | none => Formula.evaluate { today := o.today } (formulaOf text)
  print (e.display ++ "\n")
  return if e.failure.isSome then 1 else 0

/-- Writes a document into a file, or prints it. -/
def deliver (c : CommandLine) (o : Outlook) (d : Document) : Step Nat := do
  match c.output with
  | some path =>
    let disk ← succeed ("writing " ++ path) (onDisk ((← get).disk.write path d.toFile))
    modify fun state => { state with disk := disk }
    print ("Exported to " ++ path ++ "\n")
  | none => print (Printout.print (if c.raw then .raw else .display) (d.render o).1)
  return 0

/-- What is done with a document of a file. -/
def showFile (c : CommandLine) (o : Outlook) (d : Document) : Step Nat := do
  match c.command with
  | some text => runCommand o text (some d)
  | none => deliver c o ((c.query.map fun spec => d.setQuerySpec spec).getD d)

/-- What is done with a stored table; a new query is saved, also after a complaint. -/
def showTable (m : Machine) (c : CommandLine) (s : Settings) (id : String) : Step Nat := do
  let r ← withStore s fun σ _ store => do
    let w : Workspace σ := { saver := { store := store } }
    match w.openTable m.occasion s.maxUndo s.user id true with
    | .error e => return (store, .error ("opening table " ++ id ++ ": " ++ chain e))
    | .ok w =>
      let w := match c.command, c.query with
        | none, some spec => (w.perform m.occasion (.setQuerySpec spec)).2
        | _, _ => w
      let r ← attempt (match c.command, w.document with
        | some text, d => runCommand (w.outlook m.occasion.now.day) text d
        | none, some d => deliver c (w.outlook m.occasion.now.day) d
        | none, none => return 0)
      return ((w.close m.occasion).saver.store, r)
  match r with
  | .ok code => return code
  | .error complaint => throw complaint

/-- What is done for some options. -/
def execute (m : Machine) (c : CommandLine) (s : Settings) : Step Nat := do
  let o : Outlook := { today := m.occasion.now.day }
  if c.list then printList s
  else
    match c.table, c.file, c.command with
    | some id, _, _ => showTable m c s id
    | none, some path, _ =>
      let d ← succeed ("reading " ++ path) (importFile (← get).disk s.maxUndo path)
      if let some name := c.saveAs then saveAs m s name d
      showFile c o d
    | none, none, some text => runCommand o text none
    | none, none, none => print CommandLine.help; return 0

/-- Runs the program. -/
def run (m : Machine) (args : List String) : Outcome :=
  match CommandLine.read args with
  | .refused => { code := 2, complaints := ["error: these arguments do not fit"], disk := m.disk }
  | .help => { code := 0, out := CommandLine.help, disk := m.disk }
  | .version => { code := 0, out := CommandLine.version, disk := m.disk }
  | .run c =>
    let (s, warnings) := Settings.load m.disk m.home c.config
    let said := warnings.map fun w => "Warning: " ++ w.message
    match (execute m c s).run { disk := m.disk } with
    | (.ok code, state) =>
      { code := code, out := state.out, complaints := said, disk := state.disk }
    | (.error complaint, state) =>
      { code := 1, out := state.out, complaints := said ++ ["Error: " ++ complaint]
        disk := state.disk }

end Program

end FormulaSheet
