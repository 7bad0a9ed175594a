import CloudSteward.Files.Action
import CloudSteward.Table
import CloudSteward.Text.Pieces

/-!
# A directory in memory

Files and folders by their paths from the root on.  A path is followed one name
after the other, through folders only; a dot stays where it is, and two dots lead
to the folder around.  What an action does at the end of a path depends on how it
ends: in a name, perhaps with a slash behind it, in dots, or nowhere but at the
root.
-/

namespace CloudSteward

/-- What stands at a path. -/
inductive Entry where
  | file (content : Text)
  | folder
deriving DecidableEq

/-- Names from the root on. -/
abbrev Path := List String

/-- Files and folders in memory.  The root itself is always there. -/
structure MemoryFiles where
  entries : Table Path Entry
deriving DecidableEq

/-- Where a path ends. -/
inductive PathEnd where
  | root
  /-- At a dot, behind a folder. -/
  | dot
  /-- At two dots, behind a folder. -/
  | dots
  /-- At a name in a folder; `slash` tells whether a slash stands behind it. -/
  | name (folder : Path) (name : String) (slash : Bool)
deriving DecidableEq

namespace MemoryFiles

/-- The folder that the directory of the manifests is in. -/
def base : Path := ["home"]

/-- Where the directory of the manifests is. -/
def home : Path := base ++ ["manifests"]

/-- No file and no folder. -/
def bare : MemoryFiles := ⟨.empty⟩

/-- The directory of the manifests, and nothing in it. -/
def empty : MemoryFiles := ⟨(Table.single base .folder).put home .folder⟩

instance : Inhabited MemoryFiles := ⟨empty⟩

/-! ## Paths -/

/-- The greatest number of bytes in a name. -/
def nameLimit : Nat := 255

/-- The greatest number of bytes in a path. -/
def pathLimit : Nat := 4095

/-- What stands at a path, if anything does. -/
def entry? (files : MemoryFiles) (path : Path) : Option Entry :=
  if path = [] then some .folder else files.entries.get? path

/-- The names in a text with slashes. -/
def names (cs : List Char) : List String :=
  ((Text.pieces (· = '/') cs).filter (· ≠ [])).map String.ofList

/-- The text of a path from the root on. -/
def address (path : Path) : String :=
  "/" ++ "/".intercalate path

/-- What stands under a name in a folder. -/
def look (files : MemoryFiles) (folder : Path) (name : String) :
    Except FileFault (Option Entry) :=
  if nameLimit < name.utf8ByteSize then .error .nameTooLong
  else .ok (files.entry? (folder ++ [name]))

/-- Follows names from a folder on; all of them have to be those of folders. -/
def follow (files : MemoryFiles) (here : Path) : List String → Except FileFault Path
  | [] => .ok here
  | name :: rest =>
      if name = "." then files.follow here rest
      else if name = ".." then files.follow here.dropLast rest
      else
        match files.look here name with
        | .error fault => .error fault
        | .ok none => .error .missing
        | .ok (some (.file _)) => .error .notFolder
        | .ok (some .folder) => files.follow (here ++ [name]) rest

/-- Where a text leads, seen from the directory of the manifests. -/
def place (files : MemoryFiles) (text : String) : Except FileFault PathEnd :=
  let whole := if text.toList.head? = some '/' then text else address home ++ "/" ++ text
  if whole.toList.contains '\x00' then .error .zeroInName
  else if pathLimit < whole.utf8ByteSize then .error .nameTooLong
  else
    let steps := names whole.toList
    match steps.getLast? with
    | none => .ok .root
    | some last =>
        match files.follow [] steps.dropLast with
        | .error fault => .error fault
        | .ok folder =>
            if last = "." then .ok .dot
            else if last = ".." then .ok .dots
            else .ok (.name folder last (whole.toList.getLast? = some '/'))

/-- The files and folders with an entry at a path. -/
def put (files : MemoryFiles) (path : Path) (entry : Entry) : MemoryFiles :=
  ⟨files.entries.put path entry⟩

/-- The files and folders without the entry at a path. -/
def drop (files : MemoryFiles) (path : Path) : MemoryFiles :=
  ⟨files.entries.erase path⟩

/-- The name of a path that lies directly in a folder. -/
def nameIn? (folder path : Path) : Option String :=
  if path ≠ [] ∧ path.dropLast = folder then path.getLast? else none

/-- The names in a folder. -/
def namesIn (files : MemoryFiles) (folder : Path) : List String :=
  files.entries.keys.filterMap (nameIn? folder)

/-! ## Actions -/

/-- Creates the directory, and the folder around it, unless it is there. -/
def create (files : MemoryFiles) : Except FileFault MemoryFiles :=
  match files.entry? home with
  | some .folder => .ok files
  | some (.file _) => .error .alreadyThere
  | none =>
      match files.entry? base with
      | some .folder => .ok (files.put home .folder)
      | some (.file _) => .error .notFolder
      | none => .ok ((files.put base .folder).put home .folder)

/-- The names in the directory. -/
def list (files : MemoryFiles) : Except FileFault (List String) :=
  match files.entry? home with
  | none => .error .missing
  | some (.file _) => .error .notFolder
  | some .folder => .ok (files.namesIn home)

/-- The content of a file; a slash behind its name asks for a folder. -/
def read (files : MemoryFiles) (text : String) : Except FileFault Text := do
  match ← files.place text with
  | .root | .dot | .dots => .error .isFolder
  | .name folder name slash =>
      match ← files.look folder name with
      | none => .error .missing
      | some .folder => .error .isFolder
      | some (.file content) => if slash then .error .notFolder else .ok content

/-- Writes a file, which need not be there before; there is none behind a slash. -/
def write (files : MemoryFiles) (text : String) (content : Text) :
    Except FileFault MemoryFiles := do
  match ← files.place text with
  | .root | .dot | .dots => .error .isFolder
  | .name folder name slash =>
      if slash then .error .isFolder
      else
        match ← files.look folder name with
        | some .folder => .error .isFolder
        | _ => .ok (files.put (folder ++ [name]) (.file content))

/-- Moves a file over the file that is at the target. -/
def rename (files : MemoryFiles) (source target : String) : Except FileFault MemoryFiles := do
  let origin ← files.place source
  let goal ← files.place target
  match origin, goal with
  | .name folder name slash, .name targetFolder targetName targetSlash =>
      let entry ← files.look folder name
      let replaced ← files.look targetFolder targetName
      match entry, replaced with
      | none, _ => .error .missing
      | some .folder, _ => .error .isFolder
      | some (.file content), replaced =>
          if slash || targetSlash then .error .notFolder
          else if replaced = some .folder then .error .isFolder
          else .ok ((files.drop (folder ++ [name])).put (targetFolder ++ [targetName])
            (.file content))
  | _, _ => .error .busy

/-- Performs a change; one that is refused changes nothing. -/
private def changed (files : MemoryFiles) :
    Except FileFault MemoryFiles → Except FileFault Unit × MemoryFiles
  | .ok after => (.ok (), after)
  | .error fault => (.error fault, files)

/-- What the directory answers to an action, and what becomes of it. -/
def answer : (action : FileAction) → StateM MemoryFiles action.Answer
  | .create => fun files => files.changed files.create
  | .list => fun files => (files.list, files)
  | .read path => fun files => (files.read path, files)
  | .write path content => fun files => files.changed (files.write path content)
  | .rename source target => fun files => files.changed (files.rename source target)

/-- Runs a program against the directory. -/
def run {α : Type} (program : FileProgram α) (files : MemoryFiles) : α × MemoryFiles :=
  program.run answer files

/-! ## Changes by hand -/

/-- Removes a file; a slash behind its name asks for a folder. -/
def removeFile (files : MemoryFiles) (text : String) : Except FileFault MemoryFiles := do
  match ← files.place text with
  | .root | .dot | .dots => .error .isFolder
  | .name folder name slash =>
      match ← files.look folder name with
      | none => .error .missing
      | some .folder => .error .isFolder
      | some (.file _) =>
          if slash then .error .notFolder else .ok (files.drop (folder ++ [name]))

/-- Makes a folder under a name that is free. -/
def makeFolder (files : MemoryFiles) (text : String) : Except FileFault MemoryFiles := do
  match ← files.place text with
  | .root | .dot | .dots => .error .alreadyThere
  | .name folder name _ =>
      match ← files.look folder name with
      | some _ => .error .alreadyThere
      | none => .ok (files.put (folder ++ [name]) .folder)

/-- Removes a folder that has nothing in it, by its name. -/
def removeFolder (files : MemoryFiles) (text : String) : Except FileFault MemoryFiles := do
  match ← files.place text with
  | .root => .error .busy
  | .dot => .error .invalid
  | .dots => .error .notEmpty
  | .name folder name _ =>
      match ← files.look folder name with
      | none => .error .missing
      | some (.file _) => .error .notFolder
      | some .folder =>
          let path := folder ++ [name]
          if (files.namesIn path).isEmpty then .ok (files.drop path) else .error .notEmpty

end MemoryFiles

end CloudSteward
