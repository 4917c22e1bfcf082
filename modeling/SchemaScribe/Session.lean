import SchemaScribe.Console
import SchemaScribe.Files.Tree

/-!
Sessions: what a run of the tool does, step by step, with its answers still open. A session reports records,
prints text, looks at files and writes them. The same session can be carried out on a file system that is a
value, or on that of the machine.
-/

namespace SchemaScribe

/-- Steps that end with a result or a failure. A question to the file system goes on as its answer says. -/
inductive Session (ε α : Type) where
  | finish (result : α)
  | fail (failure : ε)
  | report (record : Console.Record) (rest : Session ε α)
  | print (text : String) (rest : Session ε α)
  | isFile (path : Path) (next : Except FileFault Bool → Session ε α)
  | read (path : Path) (next : Except FileFault (List UInt8) → Session ε α)
  | write (path : Path) (text : String) (next : Except FileFault Unit → Session ε α)

namespace Session

def bind : Session ε α → (α → Session ε β) → Session ε β
  | finish result, next => next result
  | fail failure, _ => fail failure
  | report record rest, next => report record (rest.bind next)
  | print text rest, next => print text (rest.bind next)
  | isFile path answer, next => isFile path fun found => (answer found).bind next
  | read path answer, next => read path fun octets => (answer octets).bind next
  | write path text answer, next => write path text fun done => (answer done).bind next

def recover : Session ε α → (ε → Session δ α) → Session δ α
  | finish result, _ => finish result
  | fail failure, next => next failure
  | report record rest, next => report record (rest.recover next)
  | print text rest, next => print text (rest.recover next)
  | isFile path answer, next => isFile path fun found => (answer found).recover next
  | read path answer, next => read path fun octets => (answer octets).recover next
  | write path text answer, next => write path text fun done => (answer done).recover next

instance : Monad (Session ε) where
  pure := finish
  bind := bind

def mapFailure (f : ε → δ) (session : Session ε α) : Session δ α :=
  session.recover fun failure => fail (f failure)

/-- The session that ends at once as a computation has ended. -/
def ofExcept : Except ε α → Session ε α
  | .ok result => finish result
  | .error failure => fail failure

def reportAll (records : List Console.Record) : Session ε Unit :=
  records.foldr report (finish ())

def reportOne (record : Console.Record) : Session ε Unit :=
  report record (finish ())

def printText (text : String) : Session ε Unit :=
  print text (finish ())

/-- Whether there is a file; the session fails where that cannot be said. -/
def askIsFile (path : Path) : Session FileFault Bool :=
  isFile path ofExcept

/-- The octets of a file; the session fails where it cannot be read. -/
def readFile (path : Path) : Session FileFault (List UInt8) :=
  read path ofExcept

def writeFile (path : Path) (text : String) : Session FileFault Unit :=
  write path text ofExcept

end Session

structure Transcript (ε α : Type) where
  result : Except ε α
  records : List Console.Record
  printed : String
  files : FileTree

namespace Session

/-- Carries a session out on a file system. A write that fails leaves the files as they were. -/
def on (files : FileTree) : Session ε α → Transcript ε α
  | finish result => ⟨.ok result, [], "", files⟩
  | fail failure => ⟨.error failure, [], "", files⟩
  | report record rest =>
    let transcript := rest.on files
    { transcript with records := record :: transcript.records }
  | print text rest =>
    let transcript := rest.on files
    { transcript with printed := text ++ transcript.printed }
  | isFile path next => (next (files.isFile path)).on files
  | read path next => (next (files.read path)).on files
  | write path text next =>
    match files.write path text with
    | .ok written => (next (.ok ())).on written
    | .error fault => (next (.error fault)).on files

end Session

end SchemaScribe
