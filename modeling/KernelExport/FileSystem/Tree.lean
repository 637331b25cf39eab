/-
This file holds what is done to whole trees of files: listing them, laying them over another
directory and removing them.

A tree is walked through its links, and a directory is entered by the path that was taken to it.
A walk goes no deeper than a path can be long, since each level adds a slash and a name: that is
why `pathLimit` levels are enough, and why a walk that comes back to where it has been ends.
-/

import KernelExport.FileSystem.Action

namespace KernelExport

/-- How the files of one tree arrive in another. -/
inductive Transfer where
  /-- Each file is copied. -/
  | copy
  /-- A symbolic link to each file is made. -/
  | link
  deriving DecidableEq, Repr, Inhabited

namespace Transfer

def word : Transfer → String
  | .copy => "copy"
  | .link => "link"

/-- Links when asked to, and copies otherwise. -/
def ofFlag (link : Bool) : Transfer :=
  if link then .link else .copy

end Transfer

namespace FileSystem

/-! ### Listing -/

/-- The files below a directory that is reached through so many more levels at most, each as the
names that lead to it from where the walk started; `above` leads to the directory. -/
def filesWithin (files : FileSystem) :
    (levels : Nat) → (directory : Path) → (above : List String) →
      Except FileError (List (List String))
  | 0, _, _ => .error .nameTooLong
  | levels + 1, directory, above => do
    let found ← (← files.readDirectory directory).mapM fun name =>
      let path := directory.child name
      let here := above ++ [name]
      if files.isDirectory path then files.filesWithin levels path here else pure [here]
    pure found.flatten

/-- The paths of all files below a directory, relative to it and in increasing order. -/
def listFiles (files : FileSystem) (directory : Path) : Except FileError (List String) := do
  let found ← files.filesWithin pathLimit directory []
  pure ((found.map ("/".intercalate ·)).mergeSort (· ≤ ·))

end FileSystem

namespace FileAction

open FileSystem

/-! ### Overlaying -/

/-- Makes a file arrive at a path, in the place of a file or link that stands there. -/
def place (transfer : Transfer) (source target : Path) : FileAction Unit := do
  match (← get).standing target with
  | .ok _ => change (·.removeFile target)
  | .error _ => pure ()
  match transfer with
  | .copy => change (·.copyFile source target)
  | .link =>
    let absolute ← ask (·.canonical source)
    change (·.createLink absolute target)

/-- Lays a directory that is reached through so many more levels at most over another one. -/
def overlayWithin (transfer : Transfer) : (levels : Nat) → (source target : Path) → FileAction Unit
  | 0, _, _ => throw .nameTooLong
  | levels + 1, source, target => do
    createDirectories target
    (← ask (·.readDirectory source)).forM fun name => do
      let inner := source.child name
      if (← get).isDirectory inner then overlayWithin transfer levels inner (target.child name)
      else place transfer inner (target.child name)

/-- Makes everything below a directory arrive below another one. Directories are made; files are
copied or linked, each in the place of a file or link that stands there. -/
def overlay (transfer : Transfer) (source target : Path) : FileAction Unit :=
  overlayWithin transfer pathLimit source target

/-! ### Removing -/

/-- Removes a directory with all that is below it, unless nothing stands there. -/
def removeTree (path : Path) : FileAction Unit :=
  tryCatch (removeAll path) fun
    | .notFound => pure ()
    | failure => throw failure

end FileAction

end KernelExport
