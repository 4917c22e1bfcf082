import SchemaScribe.CommandLine.Run

/-!
The command line tool: carries sessions out on the machine.
-/

namespace SchemaScribe.CommandLine

def fileCause : IO.Error → FileCause
  | .noFileOrDirectory .. => .notFound
  | .alreadyExists .. => .alreadyExists
  | .invalidArgument _ number text => if number = 36 then .nameTooLong else .other number.toNat text
  | .inappropriateType _ number _ => if number = 21 then .isADirectory else .notADirectory
  | .permissionDenied .. => .accessDenied
  | e => .other 5 (toString e)

def attemptOn (path : Path) (action : IO α) : IO (Except FileFault α) := do
  if path.isBroken then return .error ⟨.brokenName, path⟩
  if path.hasZeroCharacter then return .error ⟨.zeroCharacter, path⟩
  match ← action.toBaseIO with
  | .ok a => return .ok a
  | .error e => return .error ⟨fileCause e, path⟩

def readOctets (path : Path) : IO (Except FileFault (List UInt8)) :=
  attemptOn path do
    let octets ← IO.FS.readBinFile path.render
    return octets.toList

/-- Whether there is a file; names that are too long give no answer. -/
def isFile (path : Path) : IO (Except FileFault Bool) := do
  match ← readOctets path with
  | .ok _ => return .ok true
  | .error ⟨.accessDenied, _⟩ => return .ok true
  | .error ⟨.nameTooLong, p⟩ => return .error ⟨.nameTooLong, p⟩
  | .error _ => return .ok false

def canBeRead (path : Path) : IO Bool := do
  match ← readOctets path with
  | .ok _ => return true
  | .error _ => return false

/-- Makes a directory. A directory that is there is no fault, a file in its place is one. -/
def makeDirectory (path : Path) : IO (Except FileFault Unit) := do
  match ← attemptOn path (IO.FS.createDir path.render) with
  | .error ⟨.alreadyExists, p⟩ =>
    if ← canBeRead path then return .error ⟨.alreadyExists, p⟩ else return .ok ()
  | made => return made

def makeDirectories (root : String) (done : List String) : List String → IO (Except FileFault Unit)
  | [] => return .ok ()
  | name :: names => do
    match ← makeDirectory { root := root, names := done ++ [name] } with
    | .ok () => makeDirectories root (done ++ [name]) names
    | .error fault => return .error fault

def writeText (path : Path) (text : String) : IO (Except FileFault Unit) := do
  match ← makeDirectories path.root [] path.parent.names with
  | .error fault => return .error fault
  | .ok () => attemptOn path (IO.FS.writeFile path.render text)

/-- Carries a session out; records are shown as they are reported. -/
def perform (settings : Console.Settings) (isTerminal : Bool) : Session ε α → IO (Except ε α)
  | .finish result => return .ok result
  | .fail failure => return .error failure
  | .report record rest => do
    IO.eprint (settings.show isTerminal [record])
    perform settings isTerminal rest
  | .print text rest => do
    IO.print text
    perform settings isTerminal rest
  | .isFile path next => do perform settings isTerminal (next (← isFile path))
  | .read path next => do perform settings isTerminal (next (← readOctets path))
  | .write path text next => do perform settings isTerminal (next (← writeText path text))

end SchemaScribe.CommandLine

open SchemaScribe.CommandLine in
def main (args : List String) : IO UInt32 := do
  match Request.ofArguments args with
  | .error fault =>
    IO.eprint fault.report
    return 2
  | .ok .help =>
    IO.print helpText
    return 0
  | .ok (.run i) =>
    let isTerminal ← (← IO.getStderr).isTty
    let result ← perform i.consoleSettings isTerminal (i.run .unavailable)
    if let .error failure := result then
      IO.eprintln failure.cause
    return (exitStatus result).toUInt32
