/-!
# Faults of the file system

Why a file could not be looked up, opened or read.
-/

namespace SiteServer
namespace Files

/-- Why a file operation failed. -/
inductive Fault where
  | notFound
  | notADirectory
  | isADirectory
  | nameTooLong
  /-- Too many symbolic links on the way. -/
  | linkLoop
  /-- The object cannot be opened, as a socket cannot. -/
  | noSuchEndpoint
  /-- The object cannot be mapped, as a directory cannot. -/
  | notMappable
  /-- A name with an octet zero in it. -/
  | nulInName
  /-- The contents were to be text and are not. -/
  | notText
  /-- Any other reason, in the words of the system. -/
  | other (reason : String)
  deriving DecidableEq, Repr

namespace Fault

/-- The wording of a fault, with the system's number for it where it has one. -/
def message : Fault → String
  | notFound => "No such file or directory (os error 2)"
  | notADirectory => "Not a directory (os error 20)"
  | isADirectory => "Is a directory (os error 21)"
  | nameTooLong => "File name too long (os error 36)"
  | linkLoop => "Too many levels of symbolic links (os error 40)"
  | noSuchEndpoint => "No such device or address (os error 6)"
  | notMappable => "No such device (os error 19)"
  | nulInName => "file name contained an unexpected NUL byte"
  | notText => "stream did not contain valid UTF-8"
  | other reason => reason

end Fault
end Files
end SiteServer
