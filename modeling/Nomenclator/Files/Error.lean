import Nomenclator.Text.Quoted

/-!
# File errors

The reasons for which the file system refuses an operation.
-/

namespace Nomenclator

inductive FileError where
  | missing
  /-- The system cannot get at the content. -/
  | damaged
  | denied
  | present
  | notDirectory
  | isDirectory
  | nameTooLong
  | tooManyLinks
deriving DecidableEq, Repr

namespace FileError

def number : FileError → Nat
  | missing => 2
  | damaged => 5
  | denied => 13
  | present => 17
  | notDirectory => 20
  | isDirectory => 21
  | nameTooLong => 36
  | tooManyLinks => 40

def reason : FileError → Text
  | missing => "No such file or directory"
  | damaged => "Input/output error"
  | denied => "Permission denied"
  | present => "File exists"
  | notDirectory => "Not a directory"
  | isDirectory => "Is a directory"
  | nameTooLong => "File name too long"
  | tooManyLinks => "Too many levels of symbolic links"

/-- The error with its number and the path it is about. -/
def message (e : FileError) (path : Text) : Text :=
  Text.concat ["[Errno ", Text.ofNat e.number, "] ", e.reason, ": ", path.quoted]

end FileError

end Nomenclator
