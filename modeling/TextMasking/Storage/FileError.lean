/-!
# Errors of files

Why a file could not be used, in the words of the operating system.
-/

namespace TextMasking

/-- Why a file could not be used. -/
inductive FileError where
  | notFound
  | exists
  | notDirectory
  | isDirectory
  | nameTooLong
  | notText
  | other (text : String)
  deriving DecidableEq, Repr

def FileError.message : FileError → String
  | .notFound => "No such file or directory (os error 2)"
  | .exists => "File exists (os error 17)"
  | .notDirectory => "Not a directory (os error 20)"
  | .isDirectory => "Is a directory (os error 21)"
  | .nameTooLong => "File name too long (os error 36)"
  | .notText => "stream did not contain valid UTF-8"
  | .other text => text

/-- Why a command failed: what it was doing, and the causes of the failure, each the cause of the
one before. -/
structure Failure where
  context : List String
  deriving DecidableEq, Repr

namespace Failure

/-- The failure on one line. -/
def line (f : Failure) : String := ": ".intercalate f.context

end Failure

end TextMasking
