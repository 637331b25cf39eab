/-
This file holds the ways in which an operation on files can fail, and the words the system has
for each.
-/

namespace KernelExport

/-- Why an operation on files failed. -/
inductive FileError where
  /-- Nothing stands where the path leads. -/
  | notFound
  /-- Something stands where something new was to be made. -/
  | alreadyExists
  /-- The path leads through something that is not a directory. -/
  | notDirectory
  /-- A directory stands where a file was meant. -/
  | isDirectory
  /-- The file is closed to writing. -/
  | permissionDenied
  /-- The path leads through more symbolic links than the system follows. -/
  | tooManyLinks
  /-- A name or a path is longer than the system takes. -/
  | nameTooLong
  /-- The step to a directory itself was to be removed. -/
  | invalidArgument
  /-- A directory that holds the removed one was named for removal. -/
  | notEmpty
  /-- What was to be copied is no file. -/
  | notRegular
  /-- No directory of a path could be made. -/
  | noWholeTree
  /-- The bytes of a file are no text. -/
  | notText
  /-- A failure that was reported in these words. -/
  | reported (text : String)
  deriving DecidableEq, Repr

def FileError.message : FileError → String
  | .notFound => "No such file or directory (os error 2)"
  | .alreadyExists => "File exists (os error 17)"
  | .notDirectory => "Not a directory (os error 20)"
  | .isDirectory => "Is a directory (os error 21)"
  | .permissionDenied => "Permission denied (os error 13)"
  | .tooManyLinks => "Too many levels of symbolic links (os error 40)"
  | .nameTooLong => "File name too long (os error 36)"
  | .invalidArgument => "Invalid argument (os error 22)"
  | .notEmpty => "Directory not empty (os error 39)"
  | .notRegular => "the source path is neither a regular file nor a symlink to a regular file"
  | .noWholeTree => "failed to create whole tree"
  | .notText => "stream did not contain valid UTF-8"
  | .reported text => text

end KernelExport
