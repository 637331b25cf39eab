/-
This file holds listings: what stands below a directory, by the paths that lead there from it, and
the form that listings have in data files.

In a data file a listing is a record of paths. A file is written as its text, or as the
hexadecimal digits of its bytes if they are no text; a link is written with its target, and a
directory as such. Installing a listing makes all that it lists, and the directories on the way.
-/

import KernelExport.FileSystem.Action
import KernelExport.Text.Hexadecimal
import KernelExport.Value.Basic

namespace KernelExport

abbrev Listing : Type := List (String × Entry)

namespace Entry

def toValue : Entry → Value
  | .file content =>
    match String.fromUTF8? content.bytes with
    | some text => .text text
    | none => .record [("hex", .text (Text.Hexadecimal.text content.bytes))]
  | .link target => .record [("link", .text target.text)]
  | .directory => .record [("dir", .truth true)]

def ofValue? : Value → Option Entry
  | .text content => some (.file content.toUTF8)
  | .record [("hex", .text digits)] => (Text.Hexadecimal.read? digits).map fun bytes => .file bytes
  | .record [("link", .text target)] => some (.link (.ofText target))
  | .record [("dir", .truth true)] => some .directory
  | _ => none

end Entry

namespace Listing

def toValue (listing : Listing) : Value :=
  .record (listing.map fun (path, entry) => (path, entry.toValue))

def ofValue? (value : Value) : Option Listing := do
  (← value.record?).mapM fun (path, part) => do
    return (path, ← Entry.ofValue? part)

end Listing

/-- All that stands below the directory that a path leads to. Links below it are not followed. -/
def FileSystem.listing (files : FileSystem) (path : Path) : Except FileError Listing := do
  let directory ← files.resolve path
  files.expectDirectory directory
  pure (files.entries.toList.filterMap fun (location, entry) =>
    if within directory location && location != directory then
      some ("/".intercalate (location.take (location.length - directory.length)).reverse, entry)
    else none)

namespace FileAction

/-- Makes an entry at a path, with the directories on the way there. A file that stands there
already is written over. -/
def installEntry (path : Path) (entry : Entry) : FileAction Unit := do
  match entry with
  | .directory => createDirectories path
  | .file content =>
    createDirectories (path.parent?.getD .empty)
    change (·.writeFile path content)
  | .link target =>
    createDirectories (path.parent?.getD .empty)
    change (·.createLink target path)

/-- Makes all that a listing has, in its order, below a directory. -/
def install (directory : Path) (listing : Listing) : FileAction Unit :=
  listing.forM fun (path, entry) => installEntry (directory.join (.ofText path)) entry

end FileAction

end KernelExport
