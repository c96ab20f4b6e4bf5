/-!
# Refusals of the file system

The causes for which an operation on files is refused, and their wording.
-/

namespace ClusterTrace

/-- Why the file system refuses an operation. -/
inductive FileFault where
  | notFound
  | exists'
  | notADirectory
  | isADirectory
  | nameTooLong
  | zeroInName
  /-- The contents are no text. -/
  | notText
deriving Repr, DecidableEq

def FileFault.message : FileFault → String
  | .notFound => "No such file or directory (os error 2)"
  | .exists' => "File exists (os error 17)"
  | .notADirectory => "Not a directory (os error 20)"
  | .isADirectory => "Is a directory (os error 21)"
  | .nameTooLong => "File name too long (os error 36)"
  | .zeroInName => "file name contained an unexpected NUL byte"
  | .notText => "stream did not contain valid UTF-8"

end ClusterTrace
