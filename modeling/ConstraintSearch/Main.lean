import ConstraintSearch.CommandLine.Session

/-!
The command line. Files, the random seed, the streams and the exit code are handled here.
-/

open ConstraintSearch CommandLine

/-- What an error of the system says about a file. -/
def troubleOf : IO.Error → FileTrouble
  | .noFileOrDirectory .. => .missing
  | .permissionDenied .. => .noPermission
  | .inappropriateType (some _) .. => .notFolder
  | .inappropriateType none .. => .isFolder
  | .invalidArgument .. => .nameTooLong
  | .userError _ => .notText
  | error => .other (toString error)

def fileText (path : String) : IO (Except FileTrouble String) :=
  try
    return .ok (← IO.FS.readFile path)
  catch error => return .error (troubleOf error)

/-- Only the file that the request names is read. -/
def fileOf (command : Command) : IO (String → Except FileTrouble String) := do
  match command with
  | .map _ (some path) =>
    let text ← fileText path
    return fun _ => text
  | _ => return fun _ => .error .missing

def main (args : List String) : IO UInt32 := do
  match parse args with
  | none =>
    IO.eprintln "error: the arguments are not understood"
    return 2
  | some .version =>
    IO.print versionText
    return 0
  | some (.run options command) =>
    let textOfFile ← fileOf command
    let drawn ← IO.rand 0 (Nat.pow 2 64 - 1)
    let seed := UInt64.ofNat (options.seed.getD drawn)
    let (printed, failure) := transcript (perform textOfFile seed options command)
    IO.print printed
    match failure with
    | none => return 0
    | some failure =>
      IO.eprintln ("Error: " ++ failure.reportDiagnostic)
      return 1
