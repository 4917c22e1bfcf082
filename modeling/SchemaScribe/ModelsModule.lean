import SchemaScribe.ModelClass

/-!
The generated module: imports and the base class, then the association tables, then the classes of all
tables that are no views.
-/

namespace SchemaScribe

inductive GenerationError where
  | dangling (reference : DanglingReference)
  | oversized (number : OversizedNumber)
  deriving Repr, DecidableEq

namespace DialectSymbol

/-- The sorted names of the symbols of one dialect, each once. -/
def namesOf (dialect : Dialect) (symbols : List DialectSymbol) : List String :=
  (((symbols.filter (·.dialect = dialect)).map (·.name)).eraseDups).mergeSort fun a b => a ≤ b

def importLine? (symbols : List DialectSymbol) (dialect : Dialect) : Option String :=
  match namesOf dialect symbols with
  | [] => none
  | names => some ("from sqlalchemy.dialects." ++ dialect.name ++ " import " ++ ", ".intercalate names)

/-- One import line for each dialect in use. -/
def importLines (symbols : List DialectSymbol) : List String :=
  Dialect.all.filterMap (importLine? symbols)

end DialectSymbol

namespace ModelsModule

def commonImports : List String :=
  ["from __future__ import annotations",
    "import datetime",
    "import uuid",
    "from decimal import Decimal",
    "from typing import Any",
    "import sqlalchemy as sa",
    "from sqlalchemy import Table",
    "from sqlalchemy.orm import DeclarativeBase, relationship, Mapped, mapped_column"]

def importBlock (symbols : List DialectSymbol) : String :=
  "\n".intercalate (commonImports ++ DialectSymbol.importLines symbols)

def baseClass : String := "class Base(DeclarativeBase):\n    pass\n"

/-- Joins the blocks of a module. Parts without a block are left out. -/
def assemble (associations : List AssociationTable) (classes : List ModelClass) : String :=
  let header := importBlock (classes.flatMap (·.symbols)) ++ "\n\n\n" ++ baseClass
  let associationText := "\n".intercalate (associations.map fun a => a.render ++ "\n")
  let classText := "\n\n".intercalate (classes.map ModelClass.render)
  "\n".intercalate ([header, associationText, classText, "\n"].filter (· ≠ ""))

end ModelsModule

namespace Blueprint

def modelClasses (b : Blueprint) (tables : List Table) : Except OversizedNumber (List ModelClass) :=
  (tables.filter (!·.isView)).mapM b.modelClass

end Blueprint

/-- The module for a diagram; the empty text for a diagram without tables. -/
def Diagram.modelsModule (d : Diagram) (options : Options) : Except GenerationError String :=
  if d.tables.isEmpty then .ok ""
  else
    match d.blueprint options with
    | .error e => .error (.dangling e)
    | .ok b =>
      match b.modelClasses d.tables with
      | .error e => .error (.oversized e)
      | .ok classes => .ok (ModelsModule.assemble b.associations classes)

end SchemaScribe
