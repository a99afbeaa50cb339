/-!
Why the text of a file cannot be had.
-/

namespace ConstraintSearch.CommandLine

inductive FileTrouble where
  | missing
  | noPermission
  /-- Something on the way to the file is no folder. -/
  | notFolder
  | isFolder
  | nameTooLong
  /-- The content is not UTF-8. -/
  | notText
  | other (reason : String)
deriving DecidableEq

/-- What a user is told, with the number of the error if the system has one for it. -/
def FileTrouble.reason : FileTrouble → String
  | .missing => "No such file or directory (os error 2)"
  | .noPermission => "Permission denied (os error 13)"
  | .notFolder => "Not a directory (os error 20)"
  | .isFolder => "Is a directory (os error 21)"
  | .nameTooLong => "File name too long (os error 36)"
  | .notText => "stream did not contain valid UTF-8"
  | .other reason => reason

end ConstraintSearch.CommandLine
