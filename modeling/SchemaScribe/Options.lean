import SchemaScribe.Document.Check

/-!
The options of a generation run. The cascade policy is trimmed, and a blank one is refused.
-/

namespace SchemaScribe

open Document

structure Options where
  cascade : String := "all, delete-orphan"
  deriving Repr, DecidableEq

/-- A cascade policy is a text that is not blank; its value is trimmed. -/
def checkCascade (v : Value) : Checked String :=
  (Check.text v).andThen fun s =>
    let trimmed := Text.trim s
    if trimmed = "" then .fail .blankCascade else .valid trimmed

namespace Options

def keys : List Key :=
  [Key.plain "cascade"]

/-- Every key that is not declared is a problem, after those of the declared keys. -/
def checkOnly (keys : List Key) : List (String × Value) → Checked Unit
  | [] => .valid ()
  | (name, _) :: entries =>
    if keys.any (·.name = name) then checkOnly keys entries
    else (fun _ rest => rest) <$> ((Checked.fail .notPermitted : Checked Unit).under (.key name))
      <*> checkOnly keys entries

def check (entries : List (String × Value)) : Checked Options :=
  (fun cascade _ => Options.mk cascade)
    <$> (Key.plain "cascade").withDefault ({} : Options).cascade checkCascade entries
    <*> checkOnly keys entries

end Options

end SchemaScribe
