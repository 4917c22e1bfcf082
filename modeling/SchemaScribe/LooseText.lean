import SchemaScribe.Text.Quoted

/-!
Texts of documents by which things are found: ids, the names of types, paths. Halves of surrogate pairs may be
left over in them. They are kept, so that two such texts are alike only if they have the same code points.
-/

namespace SchemaScribe

inductive LooseText where
  | proper (s : String)
  | broken (t : Text.Broken)
  deriving Repr, DecidableEq

namespace LooseText

instance : Coe String LooseText := ⟨proper⟩

/-- The text as it is given out: a substitute stands for every half that is left over. -/
def shown : LooseText → String
  | proper s => s
  | broken t => t.shown

instance : CoeOut LooseText String := ⟨shown⟩

instance : CoeOut (List LooseText) (List String) := ⟨List.map shown⟩

instance : ToString LooseText := ⟨shown⟩

/-- The text with one character for each code point. No substitute is a letter, a digit or a blank. -/
def substituted : LooseText → String
  | proper s => s
  | broken t => t.substituted

/-- The text, if it is one. -/
def text? : LooseText → Option String
  | proper s => some s
  | broken _ => none

theorem text?_eq_some_iff {t : LooseText} {s : String} : t.text? = some s ↔ t = proper s := by
  cases t <;> simp [text?]

/-- The form of messages. -/
def quoted : LooseText → String
  | proper s => Text.quoted s
  | broken t => String.ofList (Text.quotedCodes t.codes)

/-- Absent where the text is empty. -/
def nonEmpty (t : Option LooseText) : Option LooseText :=
  t.filter (· ≠ proper "")

end LooseText

end SchemaScribe
