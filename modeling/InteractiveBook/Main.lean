import InteractiveBook.CommandLine.Run

/-!
# The program

Runs a command on the files of the disk. Only this module acts on the world.
-/

namespace InteractiveBook.CommandLine

/-- The number of an error of the system, which may be given negated in a word. -/
def errorNumber (code : UInt32) : Nat := min code.toNat (4294967296 - code.toNat)

/-- The fault that an error of the system stands for. -/
def FileFault.ofError (e : IO.Error) : FileFault :=
  match e with
  | .noFileOrDirectory .. => .notFound
  | .noSuchThing .. => .notFound
  | .alreadyExists .. => .alreadyExists
  | .resourceBusy .. => .busy
  | .inappropriateType _ code _ =>
    if errorNumber code = 20 then .notFolder
    else if errorNumber code = 21 then .isFolder
    else .other e.toString
  | _ => .other e.toString

/-- An action whose errors are answers. -/
def attempt {α : Type} (act : IO α) : IO (Except FileFault α) := do
  match ← act.toBaseIO with
  | .ok a => return .ok a
  | .error e => return .error (.ofError e)

/-- The names of what is in a folder. -/
def folderNames (path : String) : IO (List String) := do
  return ((← (← IO.FS.realPath path).readDir).map (·.fileName)).toList

/-- Writes a file under a name that nothing else has, then moves it to its path. What is left of a
file that does not get there is removed. -/
def replaceOnDisk (folder path : String) (data : ByteArray) : IO (Except ReplaceFault Unit) := do
  let temporary := Text.childPath folder (".tmp" ++ toString (← IO.rand 0 0xffffffffffff))
  match ← attempt (IO.FS.Handle.mk temporary .writeNew) with
  | .error fault => return .error (.noTemporary fault)
  | .ok handle =>
    let result ← match ← attempt (do handle.write data; handle.flush) with
      | .error fault => pure (.error (.notWritten fault))
      | .ok () => match ← attempt (IO.FS.rename temporary path) with
        | .error fault => pure (.error (.notMoved fault))
        | .ok () => pure (.ok ())
    if let .error _ := result then discard <| attempt (IO.FS.removeFile temporary)
    return result

/-- Reports lines of the log beside the output. -/
def reportOnScreen (o : LogOrigin) (lines : List LogLine) : IO Unit :=
  for line in lines do IO.eprintln (o.name ++ ": " ++ line.text)

/-- Access to the files of the disk. -/
def diskAccess : FileAccess IO where
  readFile path := attempt (IO.FS.readBinFile path)
  listFolder path := attempt (folderNames path)
  createFolders path := attempt (IO.FS.createDirAll path)
  replaceFile := replaceOnDisk
  report := reportOnScreen

end InteractiveBook.CommandLine

open InteractiveBook Content CommandLine in
/-- Runs the program with the arguments that it is called with. -/
def main (arguments : List String) : IO UInt32 := do
  let seed ← IO.rand 0 0xffffffffff
  let outcome ← CommandLine.run diskAccess id (fun n => IdLanes.ofSeed (seed + n)) arguments
  for line in outcome.output do IO.println line
  for line in outcome.complaints do IO.eprintln line
  return outcome.status.toUInt32
