import Mathlib.Tactic.Common
import SchemaScribe.Session

/-!
# What sessions give out

A session that is carried out ends with a result and leaves records, printed text and files. The last two come
from what it gives out on the way, each text once that it prints or has written. Of sessions in sequence all
of this is known from that of the parts. A silent session gives nothing out, so it leaves the files as they were.
-/

namespace SchemaScribe

/-- A text that goes out of a session, to the output or into a file. -/
inductive Output where
  | printed (text : String)
  | written (path : Path) (text : String)
  deriving Repr, DecidableEq

namespace Output

/-- The files after an output. A write that fails leaves them as they were. -/
def apply (files : FileTree) : Output → FileTree
  | printed _ => files
  | written path text =>
    match files.write path text with
    | .ok later => later
    | .error _ => files

/-- The output arrives. What is printed always does. -/
def Arrives (files : FileTree) : Output → Prop
  | printed _ => True
  | written path text => ∃ later, files.write path text = .ok later

def printedText : Output → String
  | printed text => text
  | written _ _ => ""

end Output

variable {ε δ α β : Type}

theorem ok_bind (a : α) (f : α → Except ε β) : (Except.ok a).bind f = f a :=
  rfl

theorem bind_ok (x : Except ε α) : x.bind .ok = x :=
  bind_pure x

/-- A transcript with that of what was done next. -/
def Transcript.followedBy (t : Transcript ε α) (later : Transcript δ β) : Transcript δ β :=
  ⟨later.result, t.records ++ later.records, t.printed ++ later.printed, later.files⟩

namespace Session

/-- What a session gives out on a file system, in order. Writes that fail count. -/
def outputs (files : FileTree) : Session ε α → List Output
  | finish _ => []
  | fail _ => []
  | report _ rest => rest.outputs files
  | print text rest => .printed text :: rest.outputs files
  | isFile path next => (next (files.isFile path)).outputs files
  | read path next => (next (files.read path)).outputs files
  | write path text next =>
    .written path text ::
      match files.write path text with
      | .ok written => (next (.ok ())).outputs written
      | .error fault => (next (.error fault)).outputs files

theorem files_on (s : Session ε α) (files : FileTree) :
    (s.on files).files = (s.outputs files).foldl Output.apply files := by
  induction s generalizing files with
  | finish result => rfl
  | fail failure => rfl
  | report record rest ih => exact ih files
  | print text rest ih => exact ih files
  | isFile path next ih => exact ih _ files
  | read path next ih => exact ih _ files
  | write path text next ih =>
      rw [on, outputs, List.foldl_cons, Output.apply]
      cases files.write path text with
      | ok written => exact ih _ written
      | error fault => exact ih _ files

theorem printed_on (s : Session ε α) (files : FileTree) :
    (s.on files).printed = String.join ((s.outputs files).map Output.printedText) := by
  induction s generalizing files with
  | finish result => rfl
  | fail failure => rfl
  | report record rest ih => exact ih files
  | print text rest ih =>
      rw [outputs, List.map_cons, String.join_cons, ← ih files]
      rfl
  | isFile path next ih => exact ih _ files
  | read path next ih => exact ih _ files
  | write path text next ih =>
      rw [on, outputs, List.map_cons, String.join_cons, Output.printedText, String.empty_append]
      cases files.write path text with
      | ok written => exact ih _ written
      | error fault => exact ih _ files

/-! ### Sessions in sequence -/

/-- A session that goes on as another one has ended, with a result or a failure. -/
def resume (next : Except ε α → Session δ β) : Session ε α → Session δ β
  | finish result => next (.ok result)
  | fail failure => next (.error failure)
  | report record rest => report record (rest.resume next)
  | print text rest => print text (rest.resume next)
  | isFile path answer => isFile path fun found => (answer found).resume next
  | read path answer => read path fun octets => (answer octets).resume next
  | write path text answer => write path text fun done => (answer done).resume next

theorem on_resume (s : Session ε α) (next : Except ε α → Session δ β) (files : FileTree) :
    (s.resume next).on files = (s.on files).followedBy ((next (s.on files).result).on (s.on files).files) := by
  induction s generalizing files with
  | finish result => simp [resume, on, Transcript.followedBy]
  | fail failure => simp [resume, on, Transcript.followedBy]
  | report record rest ih => simp only [resume, on, ih, Transcript.followedBy, List.cons_append]
  | print text rest ih => simp only [resume, on, ih, Transcript.followedBy, String.append_assoc]
  | isFile path answer ih => exact ih _ files
  | read path answer ih => exact ih _ files
  | write path text answer ih =>
      rw [resume, on, on]
      cases files.write path text with
      | ok written => exact ih _ written
      | error fault => exact ih _ files

theorem outputs_resume (s : Session ε α) (next : Except ε α → Session δ β) (files : FileTree) :
    (s.resume next).outputs files =
      s.outputs files ++ (next (s.on files).result).outputs (s.on files).files := by
  induction s generalizing files with
  | finish result => rfl
  | fail failure => rfl
  | report record rest ih => exact ih files
  | print text rest ih => exact congrArg (Output.printed text :: ·) (ih files)
  | isFile path answer ih => exact ih _ files
  | read path answer ih => exact ih _ files
  | write path text answer ih =>
      rw [resume, outputs, outputs, on]
      cases files.write path text with
      | ok written => exact congrArg (Output.written path text :: ·) (ih _ written)
      | error fault => exact congrArg (Output.written path text :: ·) (ih _ files)

theorem bind_eq_resume (s : Session ε α) (next : α → Session ε β) :
    s.bind next = s.resume fun
      | .ok a => next a
      | .error failure => fail failure := by
  induction s with
  | finish result => rfl
  | fail failure => rfl
  | report record rest ih => exact congrArg (report record) ih
  | print text rest ih => exact congrArg (print text) ih
  | isFile path answer ih => exact congrArg (isFile path) (funext ih)
  | read path answer ih => exact congrArg (read path) (funext ih)
  | write path text answer ih => exact congrArg (write path text) (funext ih)

theorem recover_eq_resume (s : Session ε α) (next : ε → Session δ α) :
    s.recover next = s.resume fun
      | .ok a => finish a
      | .error failure => next failure := by
  induction s with
  | finish result => rfl
  | fail failure => rfl
  | report record rest ih => exact congrArg (report record) ih
  | print text rest ih => exact congrArg (print text) ih
  | isFile path answer ih => exact congrArg (isFile path) (funext ih)
  | read path answer ih => exact congrArg (read path) (funext ih)
  | write path text answer ih => exact congrArg (write path text) (funext ih)

variable (s : Session ε α) (files : FileTree)

@[simp]
theorem bind_eq (next : α → Session ε β) : s >>= next = s.bind next :=
  rfl

@[simp]
theorem pure_eq (a : α) : (pure a : Session ε α) = finish a :=
  rfl

theorem result_bind (next : α → Session ε β) :
    ((s.bind next).on files).result =
      (s.on files).result.bind fun a => ((next a).on (s.on files).files).result := by
  rw [bind_eq_resume, on_resume]
  cases (s.on files).result <;> rfl

theorem result_recover (next : ε → Session δ α) :
    ((s.recover next).on files).result =
      match (s.on files).result with
      | .ok a => .ok a
      | .error failure => ((next failure).on (s.on files).files).result := by
  rw [recover_eq_resume, on_resume]
  cases (s.on files).result <;> rfl

@[simp]
theorem result_mapFailure (f : ε → δ) :
    ((s.mapFailure f).on files).result = (s.on files).result.mapError f := by
  rw [mapFailure, result_recover]
  cases (s.on files).result <;> rfl

@[simp]
theorem on_finish (a : α) : (finish a : Session ε α).on files = ⟨.ok a, [], "", files⟩ :=
  rfl

@[simp]
theorem on_fail (failure : ε) : (fail failure : Session ε α).on files = ⟨.error failure, [], "", files⟩ :=
  rfl

@[simp]
theorem on_ofExcept (x : Except ε α) : (ofExcept x).on files = ⟨x, [], "", files⟩ := by
  cases x <;> rfl

@[simp]
theorem on_readFile (path : Path) : (readFile path).on files = ⟨files.read path, [], "", files⟩ :=
  on_ofExcept files _

@[simp]
theorem on_askIsFile (path : Path) : (askIsFile path).on files = ⟨files.isFile path, [], "", files⟩ :=
  on_ofExcept files _

@[simp]
theorem on_reportAll (records : List Console.Record) :
    (reportAll records : Session ε Unit).on files = ⟨.ok (), records, "", files⟩ := by
  induction records with
  | nil => rfl
  | cons record records ih =>
      have hcons : (reportAll (record :: records) : Session ε Unit) = report record (reportAll records) := rfl
      rw [hcons, on, ih]

@[simp]
theorem on_reportOne (record : Console.Record) :
    (reportOne record : Session ε Unit).on files = ⟨.ok (), [record], "", files⟩ :=
  rfl

/-! ### Silent sessions -/

/-- Whatever the files are, nothing is printed and nothing is written. -/
def IsSilent (s : Session ε α) : Prop :=
  ∀ files, s.outputs files = []

namespace IsSilent

variable {s : Session ε α} {files : FileTree}

theorem files_on (hs : s.IsSilent) : (s.on files).files = files := by
  rw [Session.files_on, hs files]
  rfl

theorem resume {next : Except ε α → Session δ β} (hs : s.IsSilent) (hnext : ∀ result, (next result).IsSilent) :
    (s.resume next).IsSilent := by
  intro files
  rw [outputs_resume, hs files, hnext _ _]
  rfl

theorem bind {next : α → Session ε β} (hs : s.IsSilent) (hnext : ∀ a, (next a).IsSilent) :
    (s >>= next).IsSilent := by
  rw [bind_eq, bind_eq_resume]
  refine hs.resume fun result => ?_
  cases result with
  | ok a => exact hnext a
  | error failure => exact fun _ => rfl

theorem mapFailure (hs : s.IsSilent) (f : ε → δ) : (s.mapFailure f).IsSilent := by
  rw [Session.mapFailure, recover_eq_resume]
  refine hs.resume fun result => ?_
  cases result <;> exact fun _ => rfl

end IsSilent

theorem isSilent_finish (a : α) : (finish a : Session ε α).IsSilent :=
  fun _ => rfl

theorem isSilent_fail (failure : ε) : (fail failure : Session ε α).IsSilent :=
  fun _ => rfl

theorem isSilent_ofExcept (x : Except ε α) : (ofExcept x).IsSilent := by
  cases x <;> exact fun _ => rfl

theorem isSilent_readFile (path : Path) : (readFile path).IsSilent :=
  fun _ => isSilent_ofExcept _ _

theorem isSilent_askIsFile (path : Path) : (askIsFile path).IsSilent :=
  fun _ => isSilent_ofExcept _ _

theorem isSilent_reportOne (record : Console.Record) : (reportOne record : Session ε Unit).IsSilent :=
  fun _ => rfl

theorem isSilent_reportAll (records : List Console.Record) : (reportAll records : Session ε Unit).IsSilent := by
  intro files
  induction records with
  | nil => rfl
  | cons record records ih => exact ih

/-! ### What a session gives -/

/-- Nothing is printed or written, and the files stay as they are. -/
structure ChangesNothing (s : Session ε α) (files : FileTree) : Prop where
  outputs : s.outputs files = []
  printed : (s.on files).printed = ""
  files : (s.on files).files = files

/-- Carried out on the files, the session ends in the result and has given out just these texts. -/
structure Gives (s : Session ε α) (files : FileTree) (result : Except ε α) (outputs : List Output) : Prop where
  result : (s.on files).result = result
  outputs : s.outputs files = outputs

theorem IsSilent.gives {s : Session ε α} (hs : s.IsSilent) {files : FileTree} {result : Except ε α}
    (h : (s.on files).result = result) : s.Gives files result [] :=
  ⟨h, hs files⟩

namespace Gives

variable {s : Session ε α} {files : FileTree} {result : Except ε α} {outputs : List Output}

theorem files_on (h : s.Gives files result outputs) : (s.on files).files = outputs.foldl Output.apply files := by
  rw [Session.files_on, h.outputs]

theorem printed_on (h : s.Gives files result outputs) :
    (s.on files).printed = String.join (outputs.map Output.printedText) := by
  rw [Session.printed_on, h.outputs]

/-- A session that goes on does so on the files that are there by then. -/
theorem resume {next : Except ε α → Session δ β} {later : Except δ β} {more : List Output}
    (h : s.Gives files result outputs) (hnext : (next result).Gives (outputs.foldl Output.apply files) later more) :
    (s.resume next).Gives files later (outputs ++ more) := by
  constructor
  · rw [on_resume, h.result, h.files_on]
    exact hnext.result
  · rw [outputs_resume, h.outputs, h.result, h.files_on, hnext.outputs]

theorem bind_of_ok {a : α} {next : α → Session ε β} {later : Except ε β} {more : List Output}
    (h : s.Gives files (.ok a) outputs) (hnext : (next a).Gives (outputs.foldl Output.apply files) later more) :
    (s >>= next).Gives files later (outputs ++ more) := by
  rw [bind_eq, bind_eq_resume]
  exact h.resume hnext

theorem bind_of_error {failure : ε} (next : α → Session ε β) (h : s.Gives files (.error failure) outputs) :
    (s >>= next).Gives files (.error failure) outputs := by
  rw [bind_eq, bind_eq_resume, ← List.append_nil outputs]
  exact h.resume ⟨rfl, rfl⟩

theorem recover_of_ok {a : α} (next : ε → Session δ α) (h : s.Gives files (.ok a) outputs) :
    (s.recover next).Gives files (.ok a) outputs := by
  rw [recover_eq_resume, ← List.append_nil outputs]
  exact h.resume ⟨rfl, rfl⟩

theorem recover_of_error {failure : ε} {next : ε → Session δ α} {later : Except δ α} {more : List Output}
    (h : s.Gives files (.error failure) outputs)
    (hnext : (next failure).Gives (outputs.foldl Output.apply files) later more) :
    (s.recover next).Gives files later (outputs ++ more) := by
  rw [recover_eq_resume]
  exact h.resume hnext

theorem mapFailure (h : s.Gives files result outputs) (f : ε → δ) :
    (s.mapFailure f).Gives files (result.mapError f) outputs := by
  cases result with
  | ok a => exact h.recover_of_ok _
  | error failure =>
      rw [← List.append_nil outputs]
      exact h.recover_of_error ⟨rfl, rfl⟩

end Gives

end Session

end SchemaScribe
