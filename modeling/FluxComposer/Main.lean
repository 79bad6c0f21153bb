import FluxComposer.CommandLine.Job
/-
The program. It carries out the steps of its job on the files and streams
of the system. It has no transport of its own, so a service is always out
of its reach.
-/
namespace FluxComposer.CommandLine

/-- The number of a system error. Some calls give it negated. -/
def systemNumber (code : UInt32) : Nat :=
  if code.toNat < Nat.pow 2 31 then code.toNat
  else Nat.pow 2 32 - code.toNat

/-- The reason that the system gives for an error, with its number. -/
def systemReason : IO.Error → String
  | .alreadyExists _ code reason
  | .inappropriateType _ code reason
  | .interrupted _ code reason
  | .invalidArgument _ code reason
  | .noFileOrDirectory _ code reason
  | .noSuchThing _ code reason
  | .permissionDenied _ code reason
  | .resourceExhausted _ code reason
  | .hardwareFault code reason
  | .illegalOperation code reason
  | .otherError code reason
  | .protocolError code reason
  | .resourceBusy code reason
  | .resourceVanished code reason
  | .timeExpired code reason
  | .unsatisfiedConstraints code reason
  | .unsupportedOperation code reason =>
    reason ++ " (os error " ++ toString (systemNumber code) ++ ")"
  | .unexpectedEof => "unexpected end of file"
  | .userError reason => reason

/-- An action with the reason if it fails. -/
def attempt {α : Type} (action : IO α) : IO (Except String α) := do
  match ← action.toBaseIO with
  | .ok a => return .ok a
  | .error e => return .error (systemReason e)

/-- The directory that a path stands in, if it names one. -/
def directoryOf? (path : String) : Option String :=
  let s := path.toList.reverse.dropWhile (· == '/')
  let above := (s.dropWhile (· != '/')).dropWhile (· == '/')
  if above.isEmpty then none else some (String.ofList above.reverse)

/-- Writes a file and the directories that it stands in. -/
def writeWithin (path content : String) : IO Unit := do
  match directoryOf? path with
  | some directory => IO.FS.createDirAll directory
  | none => pure ()
  IO.FS.writeFile path content

/-- All that is left in a stream. -/
partial def readAll (stream : IO.FS.Stream) (done : String) : IO String := do
  let line ← stream.getLine
  if line.isEmpty then return done else readAll stream (done ++ line)

/-- Carries out the steps of a job. -/
def Job.perform : Job → IO Outcome
  | .done outcome => return outcome
  | .read (.file path) next => do
    let text ← attempt (IO.FS.readFile path)
    (next text).perform
  | .read .standardInput next => do
    let text ← attempt (do readAll (← IO.getStdin) "")
    (next text).perform
  | .write path content next => do
    let written ← attempt (writeWithin path content)
    (next written).perform
  | .ask _ next => (next .refused).perform

end FluxComposer.CommandLine

open FluxComposer.CommandLine in
def main (arguments : List String) : IO UInt32 := do
  let outcome ← (jobOf arguments).perform
  IO.print outcome.out
  IO.eprint outcome.err
  return outcome.code
