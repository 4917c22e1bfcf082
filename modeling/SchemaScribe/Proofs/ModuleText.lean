import SchemaScribe.ModelsModule
import SchemaScribe.Proofs.Lists

/-!
# The text of a module, part by part

A module is assembled by joining the parts that are not empty. Written out, it is the header, then the
blocks of the association tables, then those of the classes. The order of the parts does not depend on
which of them are there.
-/

namespace SchemaScribe

open Source

/-! ### The block of an association table -/

theorem AssociationColumn.render_eq (c : AssociationColumn) :
    c.render = "    sa.Column(" ++ literal c.name ++ ", " ++ Field.foreignKeyArgument c.target ++
      ", primary_key=True)," := by
  have hopen : "    sa.Column(" = "    " ++ "sa.Column" ++ "(" := by decide
  have hclose : ", primary_key=True)," = ", " ++ "primary_key=True" ++ ")" ++ "," := by decide
  have hkeyword : (⟨"primary_key", "True"⟩ : Keyword).render = "primary_key=True" := by decide
  have hcolumn : c.render = "    " ++ call "sa.Column" [literal c.name, Field.foreignKeyArgument c.target]
      [⟨"primary_key", "True"⟩] ++ "," := rfl
  rw [hcolumn, call, hopen, hclose, List.map_singleton, hkeyword]
  simp only [List.cons_append, List.nil_append, String.intercalate_cons_cons,
    String.intercalate_singleton, String.append_assoc]

namespace AssociationTable

/-- The last argument of a block, where there is a schema. -/
def schemaPart (a : AssociationTable) : String :=
  String.join ((nonEmpty a.schema).toList.map fun schema => "    schema=" ++ literal schema ++ ",\n")

theorem render_eq (a : AssociationTable) :
    a.render = a.name ++ " = Table(" ++ literal a.name ++ ", Base.metadata,\n" ++ a.left.render ++ "\n" ++
      a.right.render ++ "\n" ++ a.schemaPart ++ ")" := by
  have hopen : ", Base.metadata,\n" = ", Base.metadata," ++ "\n" := by decide
  unfold render schemaPart
  rw [hopen]
  cases nonEmpty a.schema with
  | none => simp [String.append_assoc]
  | some schema =>
      have hcomma : ",\n" = "," ++ "\n" := by decide
      rw [hcomma]
      simp [String.append_assoc]

theorem exists_render_eq_foreignKeys (a : AssociationTable) :
    ∃ front middle back, a.render = front ++ Field.foreignKeyArgument a.left.target ++ middle ++
      Field.foreignKeyArgument a.right.target ++ back := by
  refine ⟨a.name ++ " = Table(" ++ literal a.name ++ ", Base.metadata,\n" ++
      "    sa.Column(" ++ literal a.left.name ++ ", ",
    ", primary_key=True)," ++ "\n" ++ "    sa.Column(" ++ literal a.right.name ++ ", ",
    ", primary_key=True)," ++ "\n" ++ a.schemaPart ++ ")", ?_⟩
  rw [render_eq, AssociationColumn.render_eq, AssociationColumn.render_eq]
  simp only [String.append_assoc]

end AssociationTable

/-! ### The parts of a module -/

namespace ModelsModule

/-- The imports and the base class. -/
def header (classes : List ModelClass) : String :=
  importBlock (classes.flatMap (·.symbols)) ++ "\n\n\n" ++ baseClass

/-- The blocks of the association tables, each between line feeds. -/
def associationPart (associations : List AssociationTable) : String :=
  String.join (associations.map fun a => "\n" ++ a.render ++ "\n")

/-- The blocks of the classes, with an empty line between two of them. -/
def classPart (classes : List ModelClass) : String :=
  if classes.isEmpty then "" else "\n" ++ "\n\n".intercalate (classes.map ModelClass.render)

theorem associationPart_append (as₁ as₂ : List AssociationTable) :
    associationPart (as₁ ++ as₂) = associationPart as₁ ++ associationPart as₂ := by
  unfold associationPart
  rw [List.map_append, String.join_append]

theorem associationPart_cons (a : AssociationTable) (rest : List AssociationTable) :
    associationPart (a :: rest) = "\n" ++ a.render ++ "\n" ++ associationPart rest := by
  unfold associationPart
  rw [List.map_cons, String.join_cons]

theorem header_ne_empty (classes : List ModelClass) : header classes ≠ "" := by
  unfold header
  rw [Ne, String.append_eq_empty_iff]
  rintro ⟨_, hbase⟩
  exact absurd hbase (by decide)

theorem append_intercalate_eq_associationPart {associations : List AssociationTable}
    (hne : associations ≠ []) :
    "\n" ++ "\n".intercalate (associations.map fun a => a.render ++ "\n") =
      associationPart associations := by
  cases associations with
  | nil => exact absurd rfl hne
  | cons a rest =>
      -- The line feed between two blocks is the one that a block has in front of it.
      rw [List.map_cons, intercalate_cons, associationPart_cons]
      unfold associationPart
      simp only [List.map_map, Function.comp_def, String.append_assoc]

theorem intercalate_associations_eq_empty_iff {associations : List AssociationTable} :
    "\n".intercalate (associations.map fun a => a.render ++ "\n") = "" ↔ associations = [] := by
  cases associations with
  | nil => simp
  | cons a rest =>
      rw [List.map_cons, intercalate_cons]
      simp [String.append_eq_empty_iff]

theorem intercalate_classes_eq_empty_iff {classes : List ModelClass} :
    "\n\n".intercalate (classes.map ModelClass.render) = "" ↔ classes = [] := by
  cases classes with
  | nil => simp
  | cons c rest =>
      rw [List.map_cons, intercalate_cons]
      unfold ModelClass.render
      rw [List.cons_append, List.cons_append, List.cons_append, List.cons_append, intercalate_cons]
      simp [String.append_eq_empty_iff]

/-- A module is its header, its association tables and its classes, in this order. -/
theorem assemble_eq (associations : List AssociationTable) (classes : List ModelClass) :
    assemble associations classes =
      header classes ++ associationPart associations ++ classPart classes ++ "\n\n" := by
  have hassociations := @intercalate_associations_eq_empty_iff associations
  have hclasses := @intercalate_classes_eq_empty_iff classes
  have hassemble : assemble associations classes =
      header classes ++ String.join (([("\n".intercalate (associations.map fun a => a.render ++ "\n")),
        ("\n\n".intercalate (classes.map ModelClass.render)), "\n"].filter (· ≠ "")).map
          fun s => "\n" ++ s) := by
    rw [← intercalate_cons, ← List.filter_cons_of_pos (by simpa using header_ne_empty classes)]
    rfl
  rw [hassemble]
  by_cases ha : associations = []
  · by_cases hc : classes = []
    · subst ha hc
      simp [associationPart, classPart]
    · subst ha
      simp [associationPart, classPart, hclasses, hc, String.append_assoc]
  · by_cases hc : classes = []
    · subst hc
      simp [classPart, hassociations, ha, ← append_intercalate_eq_associationPart ha,
        String.append_assoc]
    · simp [classPart, hassociations, hclasses, ha, hc, ← append_intercalate_eq_associationPart ha,
        String.append_assoc]

end ModelsModule

/-- Generation succeeds on a diagram with tables exactly if there are a blueprint and all classes. -/
theorem Diagram.modelsModule_eq_ok_iff {d : Diagram} {options : Options} {text : String}
    (htables : d.tables ≠ []) :
    d.modelsModule options = .ok text ↔
      ∃ b classes, d.blueprint options = .ok b ∧ b.modelClasses d.tables = .ok classes ∧
        text = ModelsModule.assemble b.associations classes := by
  unfold modelsModule
  rw [if_neg (by simpa using htables)]
  cases hb : d.blueprint options with
  | error e => simp
  | ok b =>
      cases hclasses : b.modelClasses d.tables with
      | error e => simp [hclasses]
      | ok classes =>
          simp only [hclasses, Except.ok.injEq]
          constructor
          · intro h
            exact ⟨b, classes, rfl, hclasses, h.symm⟩
          · rintro ⟨_, _, rfl, hclasses', h⟩
            rw [hclasses] at hclasses'
            rw [h, Except.ok.inj hclasses']

end SchemaScribe
