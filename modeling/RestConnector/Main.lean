import RestConnector.Command.Run

/-!
Contract: the command as a program.

Owns:
- `main`, which connects `RestConnector.Command.run` to the files, the environment and the streams
  of the machine.

Does not own: anything that a command decides.
-/

namespace RestConnector.Main

open Command (Answer Environment FileAccess FileFault)

/-- The number of an error, which may come with its sign reversed. -/
def errorNumber (code : UInt32) : UInt32 :=
  if code < 0x80000000 then code else 0 - code

/-- The reason that an error of the machine stands for. -/
def faultOf : IO.Error → FileFault
  | .noFileOrDirectory .. => .missing
  | .alreadyExists .. => .notDirectory
  | .inappropriateType _ code details =>
    if errorNumber code = 21 then .isDirectory
    else if errorNumber code = 20 then .notDirectory
    else .other details
  | .invalidArgument _ code details =>
    if errorNumber code = 36 then .nameTooLong else .other details
  | error => .other (toString error)

/-- An action on files, whose errors are reasons. -/
def guarded {α : Type} (action : IO α) : IO (Except FileFault α) := do
  try
    return .ok (← action)
  catch error =>
    return .error (faultOf error)

/-- The directory of a path, empty for a name alone. -/
def directoryOf (path : String) : String :=
  (if Command.Path.isAbsolute path then "/" else "") ++ "/".intercalate (Command.Path.parent path)

def machineFiles : FileAccess IO where
  read path := guarded do
    return (← IO.FS.readBinFile path).toList
  write path text := guarded do
    let directory := directoryOf path
    if !directory.isEmpty then IO.FS.createDirAll directory
    IO.FS.writeFile path text

def machineEnvironment : IO Environment := do
  return ⟨← IO.getEnv "REST_SCHEMA_ENV_PREFIX", ← IO.getEnv "REST_SCHEMA_TRIM_PREFIX"⟩

/-- The parsers at hand tell no more than that they refuse a text. -/
def complaints : Complaints := fun _ _ => "the text does not have the form of a document"

end RestConnector.Main

def main (words : List String) : IO UInt32 := do
  let answer ← RestConnector.Command.run RestConnector.Main.complaints
    RestConnector.Main.machineFiles (← RestConnector.Main.machineEnvironment) words
  (← IO.getStdout).putStr answer.stdout
  (← IO.getStderr).putStr answer.stderr
  return UInt32.ofNat answer.exit
