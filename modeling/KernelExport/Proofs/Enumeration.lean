/-
This file says what it is to go through directories in any order.

The names in a directory stand there in no order; the walks of the program take them in increasing
order. An `Enumeration` is any other order, which may be a different one for each directory and each
time that it is read. The walks in an order are those of the program but for the order, and those in
the increasing order are the walks of the program.
-/

import KernelExport.FileSystem.Tree

namespace KernelExport

/-- An order in which the names in directories are gone through. It may depend on the directory and
on whatever stands anywhere at the time. -/
structure Enumeration where
  arrange : FileSystem → Path → List String → List String
  perm : ∀ files path names, (arrange files path names).Perm names

/-- The order of the program. -/
def Enumeration.increasing : Enumeration where
  arrange _ _ names := names
  perm _ _ names := .refl names

namespace FileSystem

/-- The names in the directory that a path leads to, in an order. -/
def readDirectoryBy (order : Enumeration) (files : FileSystem) (path : Path) :
    Except FileError (List String) := do
  let names ← files.readDirectory path
  pure (order.arrange files path names)

theorem readDirectoryBy_increasing (files : FileSystem) (path : Path) :
    files.readDirectoryBy .increasing path = files.readDirectory path := by
  rw [readDirectoryBy]
  exact bind_pure _

end FileSystem

namespace FileAction

open FileSystem

/-- Lays a directory that is reached through so many more levels at most over another one, in an
order. -/
def overlayWithinBy (order : Enumeration) (transfer : Transfer) :
    (levels : Nat) → (source target : Path) → FileAction Unit
  | 0, _, _ => throw .nameTooLong
  | levels + 1, source, target => do
    createDirectories target
    (← ask (·.readDirectoryBy order source)).forM fun name => do
      let inner := source.child name
      if (← get).isDirectory inner then
        overlayWithinBy order transfer levels inner (target.child name)
      else place transfer inner (target.child name)

/-- Makes everything below a directory arrive below another one, in an order. -/
def overlayBy (order : Enumeration) (transfer : Transfer) (source target : Path) :
    FileAction Unit :=
  overlayWithinBy order transfer pathLimit source target

/-- What is done under one name once the directory stands that it arrives in. -/
def overlayEntryBy (order : Enumeration) (transfer : Transfer) (levels : Nat)
    (source target : Path) (name : String) : FileAction Unit := do
  if (← get).isDirectory (source.child name) then
    overlayWithinBy order transfer levels (source.child name) (target.child name)
  else place transfer (source.child name) (target.child name)

/-- What is laid over a directory once it stands. -/
def overlayEntriesBy (order : Enumeration) (transfer : Transfer) (levels : Nat)
    (source target : Path) : FileAction Unit := do
  (← ask (·.readDirectoryBy order source)).forM (overlayEntryBy order transfer levels source target)

theorem overlayWithinBy_succ (order : Enumeration) (transfer : Transfer) (levels : Nat)
    (source target : Path) : overlayWithinBy order transfer (levels + 1) source target =
      createDirectories target >>= fun _ => overlayEntriesBy order transfer levels source target :=
  rfl

theorem overlayWithinBy_increasing (transfer : Transfer) :
    overlayWithinBy .increasing transfer = overlayWithin transfer := by
  funext levels
  induction levels with
  | zero => rfl
  | succ levels same =>
    funext source target
    rw [overlayWithinBy, overlayWithin, same]
    simp only [readDirectoryBy_increasing]

/-- Laying a directory over another one in increasing order is what the program does. -/
theorem overlayBy_increasing (transfer : Transfer) (source target : Path) :
    overlayBy .increasing transfer source target = overlay transfer source target := by
  rw [overlayBy, overlay, overlayWithinBy_increasing]

end FileAction

end KernelExport
