/-
This file holds what a program can ask of the file system: whether something is a directory or a
file, what a directory or a file holds, and to make, write, link, copy and remove.

An operation that does one thing either succeeds with a changed file system or fails and changes
nothing, so it is a function to `Except FileError FileSystem`. What takes several steps can fail
after some of them; such an operation is a `FileAction`, which keeps what was done before the
failure.
-/

import KernelExport.FileSystem.Resolution

namespace KernelExport

/-- Steps on a file system that may fail. What was done before a failure stays done. -/
abbrev FileAction (Result : Type) : Type := ExceptT FileError (StateM FileSystem) Result

namespace FileSystem

/-! ### Asking -/

/-- Whether the path leads to a directory when every link is followed. -/
def isDirectory (files : FileSystem) (path : Path) : Bool :=
  match files.resolve path with
  | .ok location => files.get? location == some .directory
  | .error _ => false

/-- Whether the path leads to a file when every link is followed. -/
def isFile (files : FileSystem) (path : Path) : Bool :=
  match files.resolve path with
  | .ok location =>
    match files.get? location with
    | some (.file _) => true
    | _ => false
  | .error _ => false

/-- What stands where the path leads when its last step is not followed. A slash behind the last
step has it followed after all. -/
def standing (files : FileSystem) (path : Path) : Except FileError Entry := do
  match ← files.placement path with
  | none => pure .directory
  | some place =>
    let location ← if place.slashed then files.resolve path else pure place.location
    match files.get? location with
    | some entry => pure entry
    | none => throw .notFound

/-- The names in the directory that the path leads to, in increasing order. -/
def readDirectory (files : FileSystem) (path : Path) : Except FileError (List String) := do
  let location ← files.resolve path
  files.expectDirectory location
  pure (files.names location)

/-- The bytes of the file that the path leads to. -/
def readFile (files : FileSystem) (path : Path) : Except FileError ByteArray := do
  let location ← files.resolve path
  match files.get? location with
  | some (.file content) => pure content.bytes
  | some _ => throw .isDirectory
  | none => throw .notFound

/-- The text of the file that the path leads to. -/
def readText (files : FileSystem) (path : Path) : Except FileError String := do
  match String.fromUTF8? (← files.readFile path) with
  | some text => pure text
  | none => throw .notText

def pathOf (location : Location) : Path :=
  .ofText ("/" ++ "/".intercalate location.reverse)

/-- The absolute path, free of links, of what the path leads to. -/
def canonical (files : FileSystem) (path : Path) : Except FileError Path :=
  (files.resolve path).map pathOf

/-! ### Changing one thing -/

def createDirectory (files : FileSystem) (path : Path) : Except FileError FileSystem := do
  match ← files.placement path with
  | none => throw .alreadyExists
  | some place =>
    match files.get? place.location with
    | some _ => throw .alreadyExists
    | none => pure (files.put place.directory place.name .directory)

/-- Whether a file that is closed to writing stands at a location. -/
def closed (files : FileSystem) (location : Location) : Bool :=
  (files.get? location).any Entry.closed

/-- Writes a file, through the links that the path leads over. -/
def writeFile (files : FileSystem) (path : Path) (content : Content) :
    Except FileError FileSystem := do
  let (directory, name) ← files.writingPlace linkLimit files.workingDirectory path
  if files.closed (name :: directory) then throw .permissionDenied
  else pure (files.put directory name (.file content))

/-- Makes a symbolic link in which `target` is written. -/
def createLink (files : FileSystem) (target path : Path) : Except FileError FileSystem := do
  match ← files.placement path with
  | none => throw .alreadyExists
  | some place =>
    match files.get? place.location with
    | some _ => throw .alreadyExists
    | none =>
      if place.slashed then throw .notFound
      else pure (files.put place.directory place.name (.link target))

def removeFile (files : FileSystem) (path : Path) : Except FileError FileSystem := do
  match ← files.placement path with
  | none => throw .isDirectory
  | some place =>
    match files.get? place.location with
    | none => throw .notFound
    | some .directory => throw .isDirectory
    | some _ => if place.slashed then throw .notDirectory else pure (files.erase place.location)

/-- Copies a file. The copy is closed to writing if the file is. -/
def copyFile (files : FileSystem) (source target : Path) : Except FileError FileSystem := do
  let location ← files.resolve source
  match files.get? location with
  | some (.file content) => files.writeFile target content
  | _ => throw .notRegular

end FileSystem

/-! ### Several steps -/

namespace FileAction

open FileSystem

def ask {Result : Type} (question : FileSystem → Except FileError Result) : FileAction Result := do
  match question (← get) with
  | .ok result => pure result
  | .error failure => throw failure

/-- Changes the file system, or fails and leaves it as it is. -/
def change (operation : FileSystem → Except FileError FileSystem) : FileAction Unit := do
  match operation (← get) with
  | .ok changed => set changed
  | .error failure => throw failure

/-- Makes the first of the directories given, nearest first, and those of its ancestors that are
missing. -/
def createFirst : List Path → FileAction Unit
  | [] => throw .noWholeTree
  | path :: above => do
    if path.isEmpty then pure ()
    else match (← get).createDirectory path with
      | .ok changed => set changed
      | .error .notFound =>
        createFirst above
        match (← get).createDirectory path with
        | .ok changed => set changed
        | .error failure => if (← get).isDirectory path then pure () else throw failure
      | .error failure => if (← get).isDirectory path then pure () else throw failure

/-- Makes a directory and all directories on the way to it, unless they stand already. -/
def createDirectories (path : Path) : FileAction Unit :=
  createFirst path.ancestors

/-- Removes a directory with all that is below it. A symbolic link is removed itself. -/
def removeAll (path : Path) : FileAction Unit := do
  match ← ask (·.standing path) with
  | .link _ => change (·.removeFile path)
  | .file _ => throw .notDirectory
  | .directory =>
    let location ← ask (·.resolve path)
    modify (·.eraseBelow location)
    match ← ask (·.placement path) with
    | none => throw (if path.segments.getLast? = some ".." then .notEmpty else .invalidArgument)
    | some place =>
      if place.location = location then modify (·.erase location)
      else if ((← get).get? place.location).isNone then throw .notFound
      else throw .notDirectory

end FileAction

end KernelExport
