/-
Module: PolicyAudit.Files.Fault
Purpose: Why a file cannot be read or written.
Trusted boundary: none
Main exports: FileFault, FileFault.message
-/
namespace PolicyAudit

/-- Why an operation on files does not work. -/
inductive FileFault where
  /-- There is nothing at the path. -/
  | notFound
  /-- Something on the way of the path is a file. -/
  | notADirectory
  /-- A file stands where a directory is to be made. -/
  | alreadyExists
  /-- A directory stands where a file is to be read or written. -/
  | isADirectory
  | nameTooLong
  /-- The path has a character that no file name can have. -/
  | invalidName
  | other (message : String)
deriving Repr, Inhabited, DecidableEq

def FileFault.message : FileFault → String
  | notFound => "No such file or directory (os error 2)"
  | notADirectory => "Not a directory (os error 20)"
  | alreadyExists => "File exists (os error 17)"
  | isADirectory => "Is a directory (os error 21)"
  | nameTooLong => "File name too long (os error 36)"
  | invalidName => "file name contained an unexpected NUL byte"
  | other message => message

end PolicyAudit
