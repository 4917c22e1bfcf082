import SchemaScribe.Proofs.WrittenValues

/-!
# What a document of a diagram gives back

A document writes a diagram if every key stands in its object once, in one of its spellings, with its value;
a key may be missing where its value is the default. Nothing is said about the order of the keys, and there
may be others. Every diagram has such a document, and what is read from any of them is the diagram again if it
is well named. Other diagrams are never read.
-/

namespace SchemaScribe

open Document

variable {entries : List (String × Value)}

/-! ### Written records -/

structure FieldType.WrittenIn (t : FieldType) (entries : List (String × Value)) : Prop where
  name : (Key.plain "name").Holds Form.text t.name entries
  id : (Key.plain "id").HoldsOr none (Form.optional Form.text) t.id entries

/-- A number stays a number, and a text a text. -/
def MaxLength.WrittenAs : Form MaxLength
  | .number n, v => v = .int n
  | .text s, v => v = .text s

structure Field.WrittenIn (f : Field) (entries : List (String × Value)) : Prop where
  id : (Key.plain "id").Holds Form.looseText f.id entries
  name : (Key.plain "name").Holds Form.text f.name entries
  type : (Key.plain "type").Holds (Form.object FieldType.WrittenIn) f.type entries
  primaryKey : (Key.mk "primaryKey" "primary_key").HoldsOr false Form.boolean f.primaryKey entries
  nullable : (Key.plain "nullable").HoldsOr true Form.boolean f.nullable entries
  unique : (Key.plain "unique").HoldsOr false Form.boolean f.unique entries
  increment : (Key.plain "increment").HoldsOr false Form.flag f.increment entries
  default : (Key.plain "default").HoldsOr none (Form.optional Form.text) f.default entries
  precision : (Key.plain "precision").HoldsOr none (Form.optional Form.integer) f.precision entries
  scale : (Key.plain "scale").HoldsOr none (Form.optional Form.integer) f.scale entries
  maxLength : (Key.mk "characterMaximumLength" "character_maximum_length").HoldsOr none
    (Form.optional MaxLength.WrittenAs) f.maxLength entries
  comments : (Key.plain "comments").HoldsOr none (Form.optional Form.text) f.comments entries

structure Index.WrittenIn (i : Index) (entries : List (String × Value)) : Prop where
  name : (Key.plain "name").Holds Form.text i.name entries
  fieldIds : (Key.mk "fieldIds" "field_ids").HoldsOr [] (Form.list Form.looseText) i.fieldIds entries
  unique : (Key.plain "unique").HoldsOr false Form.boolean i.unique entries
  isPrimaryKey : (Key.mk "isPrimaryKey" "is_primary_key").HoldsOr false Form.flag i.isPrimaryKey entries
  id : (Key.plain "id").HoldsOr none (Form.optional Form.text) i.id entries

structure Table.WrittenIn (t : Table) (entries : List (String × Value)) : Prop where
  id : (Key.plain "id").Holds Form.looseText t.id entries
  name : (Key.plain "name").Holds Form.text t.name entries
  schema : (Key.mk "schema" "schema_name").HoldsOr none (Form.optional Form.text) t.schema entries
  isView : (Key.mk "isView" "is_view").HoldsOr false Form.flag t.isView entries
  fields : (Key.plain "fields").HoldsOr [] (Form.list (Form.object Field.WrittenIn)) t.fields entries
  indexes : (Key.plain "indexes").HoldsOr [] (Form.list (Form.object Index.WrittenIn)) t.indexes entries
  comments : (Key.plain "comments").HoldsOr none (Form.optional Form.text) t.comments entries

structure Relationship.WrittenIn (r : Relationship) (entries : List (String × Value)) : Prop where
  sourceTableId : (Key.mk "sourceTableId" "source_table_id").Holds Form.looseText r.sourceTableId entries
  sourceFieldId : (Key.mk "sourceFieldId" "source_field_id").Holds Form.looseText r.sourceFieldId entries
  targetTableId : (Key.mk "targetTableId" "target_table_id").Holds Form.looseText r.targetTableId entries
  targetFieldId : (Key.mk "targetFieldId" "target_field_id").Holds Form.looseText r.targetFieldId entries
  sourceCardinality : (Key.mk "sourceCardinality" "source_cardinality").HoldsOr .one
    (Form.word Cardinality.name) r.sourceCardinality entries
  targetCardinality : (Key.mk "targetCardinality" "target_cardinality").HoldsOr .many
    (Form.word Cardinality.name) r.targetCardinality entries
  id : (Key.plain "id").HoldsOr none (Form.optional Form.text) r.id entries
  name : (Key.plain "name").HoldsOr none (Form.optional Form.text) r.name entries
  cascade : (Key.plain "cascade").HoldsOr none (Form.optional Form.text) r.cascade entries

structure CustomType.WrittenIn (c : CustomType) (entries : List (String × Value)) : Prop where
  name : (Key.plain "name").Holds Form.looseText c.name entries
  kind : (Key.plain "kind").HoldsOr .enumeration (Form.word CustomTypeKind.name) c.kind entries
  values : (Key.plain "values").HoldsOr [] (Form.list Form.text) c.values entries
  schema : (Key.mk "schema" "schema_name").HoldsOr none (Form.optional Form.text) c.schema entries
  id : (Key.plain "id").HoldsOr none (Form.optional Form.text) c.id entries

structure Diagram.WrittenIn (d : Diagram) (entries : List (String × Value)) : Prop where
  databaseType : (Key.mk "databaseType" "database_type").HoldsOr .generic (Form.word DatabaseType.name)
    d.databaseType entries
  tables : (Key.plain "tables").HoldsOr [] (Form.list (Form.object Table.WrittenIn)) d.tables entries
  relationships : (Key.plain "relationships").HoldsOr []
    (Form.list (Form.object Relationship.WrittenIn)) d.relationships entries
  customTypes : (Key.mk "customTypes" "custom_types").HoldsOr []
    (Form.list (Form.object CustomType.WrittenIn)) d.customTypes entries
  name : (Key.plain "name").HoldsOr none (Form.optional Form.text) d.name entries
  id : (Key.plain "id").HoldsOr none (Form.optional Form.text) d.id entries

/-! ### Every diagram has a document -/

theorem FieldType.exists_writtenIn (t : FieldType) : ∃ entries, t.WrittenIn entries := by
  obtain ⟨id, hid⟩ := Form.total_optional Form.total_text t.id
  exact ⟨[("name", .text t.name), ("id", id)], { name := ⟨rfl, rfl⟩, id := .there ⟨rfl, hid⟩ }⟩

theorem MaxLength.total_writtenAs : Form.Total MaxLength.WrittenAs := by
  intro l
  cases l with
  | number n => exact ⟨.int n, rfl⟩
  | text s => exact ⟨.text s, rfl⟩

theorem Field.exists_writtenIn (f : Field) : ∃ entries, f.WrittenIn entries := by
  obtain ⟨id, hid⟩ := Form.total_looseText f.id
  obtain ⟨type, htype⟩ := Form.total_object FieldType.exists_writtenIn f.type
  obtain ⟨default, hdefault⟩ := Form.total_optional Form.total_text f.default
  obtain ⟨precision, hprecision⟩ := Form.total_optional Form.total_integer f.precision
  obtain ⟨scale, hscale⟩ := Form.total_optional Form.total_integer f.scale
  obtain ⟨maxLength, hmaxLength⟩ := Form.total_optional MaxLength.total_writtenAs f.maxLength
  obtain ⟨comments, hcomments⟩ := Form.total_optional Form.total_text f.comments
  exact ⟨[("id", id), ("name", .text f.name), ("type", type), ("primaryKey", .bool f.primaryKey),
      ("nullable", .bool f.nullable), ("unique", .bool f.unique), ("increment", .bool f.increment),
      ("default", default), ("precision", precision), ("scale", scale),
      ("characterMaximumLength", maxLength), ("comments", comments)],
    { id := ⟨rfl, hid⟩
      name := ⟨rfl, rfl⟩
      type := ⟨rfl, htype⟩
      primaryKey := .there ⟨rfl, rfl⟩
      nullable := .there ⟨rfl, rfl⟩
      unique := .there ⟨rfl, rfl⟩
      increment := .there ⟨rfl, .inl rfl⟩
      default := .there ⟨rfl, hdefault⟩
      precision := .there ⟨rfl, hprecision⟩
      scale := .there ⟨rfl, hscale⟩
      maxLength := .there ⟨rfl, hmaxLength⟩
      comments := .there ⟨rfl, hcomments⟩ }⟩

theorem Index.exists_writtenIn (i : Index) : ∃ entries, i.WrittenIn entries := by
  obtain ⟨fieldIds, hfieldIds⟩ := Form.total_list Form.total_looseText i.fieldIds
  obtain ⟨id, hid⟩ := Form.total_optional Form.total_text i.id
  exact ⟨[("name", .text i.name), ("fieldIds", fieldIds), ("unique", .bool i.unique),
      ("isPrimaryKey", .bool i.isPrimaryKey), ("id", id)],
    { name := ⟨rfl, rfl⟩
      fieldIds := .there ⟨rfl, hfieldIds⟩
      unique := .there ⟨rfl, rfl⟩
      isPrimaryKey := .there ⟨rfl, .inl rfl⟩
      id := .there ⟨rfl, hid⟩ }⟩

theorem Table.exists_writtenIn (t : Table) : ∃ entries, t.WrittenIn entries := by
  obtain ⟨id, hid⟩ := Form.total_looseText t.id
  obtain ⟨schema, hschema⟩ := Form.total_optional Form.total_text t.schema
  obtain ⟨fields, hfields⟩ := Form.total_list (Form.total_object Field.exists_writtenIn) t.fields
  obtain ⟨indexes, hindexes⟩ := Form.total_list (Form.total_object Index.exists_writtenIn) t.indexes
  obtain ⟨comments, hcomments⟩ := Form.total_optional Form.total_text t.comments
  exact ⟨[("id", id), ("name", .text t.name), ("schema", schema), ("isView", .bool t.isView),
      ("fields", fields), ("indexes", indexes), ("comments", comments)],
    { id := ⟨rfl, hid⟩
      name := ⟨rfl, rfl⟩
      schema := .there ⟨rfl, hschema⟩
      isView := .there ⟨rfl, .inl rfl⟩
      fields := .there ⟨rfl, hfields⟩
      indexes := .there ⟨rfl, hindexes⟩
      comments := .there ⟨rfl, hcomments⟩ }⟩

theorem Relationship.exists_writtenIn (r : Relationship) : ∃ entries, r.WrittenIn entries := by
  obtain ⟨sourceTable, hsourceTable⟩ := Form.total_looseText r.sourceTableId
  obtain ⟨sourceField, hsourceField⟩ := Form.total_looseText r.sourceFieldId
  obtain ⟨targetTable, htargetTable⟩ := Form.total_looseText r.targetTableId
  obtain ⟨targetField, htargetField⟩ := Form.total_looseText r.targetFieldId
  obtain ⟨id, hid⟩ := Form.total_optional Form.total_text r.id
  obtain ⟨name, hname⟩ := Form.total_optional Form.total_text r.name
  obtain ⟨cascade, hcascade⟩ := Form.total_optional Form.total_text r.cascade
  exact ⟨[("sourceTableId", sourceTable), ("sourceFieldId", sourceField),
      ("targetTableId", targetTable), ("targetFieldId", targetField),
      ("sourceCardinality", .text r.sourceCardinality.name),
      ("targetCardinality", .text r.targetCardinality.name), ("id", id), ("name", name), ("cascade", cascade)],
    { sourceTableId := ⟨rfl, hsourceTable⟩
      sourceFieldId := ⟨rfl, hsourceField⟩
      targetTableId := ⟨rfl, htargetTable⟩
      targetFieldId := ⟨rfl, htargetField⟩
      sourceCardinality := .there ⟨rfl, rfl⟩
      targetCardinality := .there ⟨rfl, rfl⟩
      id := .there ⟨rfl, hid⟩
      name := .there ⟨rfl, hname⟩
      cascade := .there ⟨rfl, hcascade⟩ }⟩

theorem CustomType.exists_writtenIn (c : CustomType) : ∃ entries, c.WrittenIn entries := by
  obtain ⟨name, hname⟩ := Form.total_looseText c.name
  obtain ⟨values, hvalues⟩ := Form.total_list Form.total_text c.values
  obtain ⟨schema, hschema⟩ := Form.total_optional Form.total_text c.schema
  obtain ⟨id, hid⟩ := Form.total_optional Form.total_text c.id
  exact ⟨[("name", name), ("kind", .text c.kind.name), ("values", values), ("schema", schema), ("id", id)],
    { name := ⟨rfl, hname⟩
      kind := .there ⟨rfl, rfl⟩
      values := .there ⟨rfl, hvalues⟩
      schema := .there ⟨rfl, hschema⟩
      id := .there ⟨rfl, hid⟩ }⟩

theorem Diagram.exists_writtenIn (d : Diagram) : ∃ entries, d.WrittenIn entries := by
  obtain ⟨tables, htables⟩ := Form.total_list (Form.total_object Table.exists_writtenIn) d.tables
  obtain ⟨relationships, hrelationships⟩ :=
    Form.total_list (Form.total_object Relationship.exists_writtenIn) d.relationships
  obtain ⟨customTypes, hcustomTypes⟩ :=
    Form.total_list (Form.total_object CustomType.exists_writtenIn) d.customTypes
  obtain ⟨name, hname⟩ := Form.total_optional Form.total_text d.name
  obtain ⟨id, hid⟩ := Form.total_optional Form.total_text d.id
  exact ⟨[("databaseType", .text d.databaseType.name), ("tables", tables), ("relationships", relationships),
      ("customTypes", customTypes), ("name", name), ("id", id)],
    { databaseType := .there ⟨rfl, rfl⟩
      tables := .there ⟨rfl, htables⟩
      relationships := .there ⟨rfl, hrelationships⟩
      customTypes := .there ⟨rfl, hcustomTypes⟩
      name := .there ⟨rfl, hname⟩
      id := .there ⟨rfl, hid⟩ }⟩

/-! ### Reading what is written -/

theorem FieldType.check_of_writtenIn {t : FieldType} (h : t.WrittenIn entries) (hname : t.name ≠ "") :
    FieldType.check entries = .valid t := by
  unfold FieldType.check
  rw [Key.required_of_holds h.name (Check.reads_nonEmptyText hname),
    Key.withDefault_of_holdsOr h.id Check.reads_optional_text]
  rfl

theorem MaxLength.reads_check {l : MaxLength} : Check.Reads MaxLength.check MaxLength.WrittenAs l := by
  intro v hv
  cases l with
  | number n =>
      obtain rfl : v = .int n := hv
      rfl
  | text s =>
      obtain rfl : v = .text s := hv
      rfl

theorem MaxLength.not_writtenAs_null (l : MaxLength) : ¬ MaxLength.WrittenAs l .null := by
  cases l <;> exact Value.noConfusion

theorem Field.check_of_writtenIn {f : Field} (h : f.WrittenIn entries) (hf : f.WellNamed) :
    Field.check entries = .valid f := by
  have htype : Check.Reads (Check.objectOf "FieldTypeSchema" FieldType.check)
      (Form.object FieldType.WrittenIn) f.type :=
    Check.reads_object fun _ ht => FieldType.check_of_writtenIn ht hf.typeName
  have hlength : Check.Reads (Check.optional MaxLength.check) (Form.optional MaxLength.WrittenAs) f.maxLength :=
    Check.reads_optional MaxLength.not_writtenAs_null fun _ _ => MaxLength.reads_check
  unfold Field.check
  rw [Key.required_of_holds h.id Check.reads_looseText,
    Key.required_of_holds h.name (Check.reads_nonEmptyText hf.name), Key.required_of_holds h.type htype,
    Key.withDefault_of_holdsOr h.primaryKey Check.reads_boolean,
    Key.withDefault_of_holdsOr h.nullable Check.reads_boolean,
    Key.withDefault_of_holdsOr h.unique Check.reads_boolean, Key.flag_of_holdsOr h.increment,
    Key.withDefault_of_holdsOr h.default Check.reads_optional_text,
    Key.withDefault_of_holdsOr h.precision Check.reads_optional_integer,
    Key.withDefault_of_holdsOr h.scale Check.reads_optional_integer,
    Key.withDefault_of_holdsOr h.maxLength hlength,
    Key.withDefault_of_holdsOr h.comments Check.reads_optional_text]
  rfl

theorem Index.check_of_writtenIn {i : Index} (h : i.WrittenIn entries) : Index.check entries = .valid i := by
  unfold Index.check
  rw [Key.required_of_holds h.name Check.reads_text,
    Key.withDefault_of_holdsOr h.fieldIds (Check.reads_list fun _ _ => Check.reads_looseText),
    Key.withDefault_of_holdsOr h.unique Check.reads_boolean, Key.flag_of_holdsOr h.isPrimaryKey,
    Key.withDefault_of_holdsOr h.id Check.reads_optional_text]
  rfl

theorem Table.check_of_writtenIn {t : Table} (h : t.WrittenIn entries) (ht : t.WellNamed) :
    Table.check entries = .valid t := by
  have hfields : Check.Reads (Check.listOf (Check.objectOf "FieldSchema" Field.check))
      (Form.list (Form.object Field.WrittenIn)) t.fields :=
    Check.reads_list fun f hf =>
      Check.reads_object fun _ hwritten => Field.check_of_writtenIn hwritten (ht.fields f hf)
  have hindexes : Check.Reads (Check.listOf (Check.objectOf "IndexSchema" Index.check))
      (Form.list (Form.object Index.WrittenIn)) t.indexes :=
    Check.reads_list fun _ _ => Check.reads_object fun _ => Index.check_of_writtenIn
  unfold Table.check
  rw [Key.required_of_holds h.id Check.reads_looseText,
    Key.required_of_holds h.name (Check.reads_nonEmptyText ht.name),
    Key.nonEmptyText_of_holdsOr ht.schema h.schema, Key.flag_of_holdsOr h.isView,
    Key.withDefault_of_holdsOr h.fields hfields, Key.withDefault_of_holdsOr h.indexes hindexes,
    Key.withDefault_of_holdsOr h.comments Check.reads_optional_text]
  rfl

theorem Cardinality.reads_choice (c : Cardinality) :
    Check.Reads (Check.choice Cardinality.names) (Form.word Cardinality.name) c :=
  Check.reads_choice (Cardinality.ofName?_name c)

theorem Relationship.check_of_writtenIn {r : Relationship} (h : r.WrittenIn entries)
    (hcascade : r.cascade ≠ some "") : Relationship.check entries = .valid r := by
  unfold Relationship.check
  rw [Key.required_of_holds h.sourceTableId Check.reads_looseText,
    Key.required_of_holds h.sourceFieldId Check.reads_looseText,
    Key.required_of_holds h.targetTableId Check.reads_looseText,
    Key.required_of_holds h.targetFieldId Check.reads_looseText,
    Key.withDefault_of_holdsOr h.sourceCardinality (Cardinality.reads_choice _),
    Key.withDefault_of_holdsOr h.targetCardinality (Cardinality.reads_choice _),
    Key.withDefault_of_holdsOr h.id Check.reads_optional_text,
    Key.withDefault_of_holdsOr h.name Check.reads_optional_text,
    Key.nonEmptyText_of_holdsOr hcascade h.cascade]
  rfl

theorem CustomType.check_of_writtenIn {c : CustomType} (h : c.WrittenIn entries)
    (hschema : c.schema ≠ some "") : CustomType.check entries = .valid c := by
  have hkind : Check.Reads (Check.choice CustomTypeKind.names) (Form.word CustomTypeKind.name) c.kind :=
    Check.reads_choice (by cases c.kind <;> decide)
  unfold CustomType.check
  rw [Key.required_of_holds h.name Check.reads_looseText, Key.withDefault_of_holdsOr h.kind hkind,
    Key.withDefault_of_holdsOr h.values (Check.reads_list fun _ _ => Check.reads_text),
    Key.nonEmptyText_of_holdsOr hschema h.schema,
    Key.withDefault_of_holdsOr h.id Check.reads_optional_text]
  rfl

namespace Diagram

theorem check_of_writtenIn {d : Diagram} (h : d.WrittenIn entries) (hd : d.WellNamed) :
    Diagram.check entries = .valid d := by
  have hdatabase : Check.Reads (Check.choice DatabaseType.names) (Form.word DatabaseType.name)
      d.databaseType :=
    Check.reads_choice (DatabaseType.ofName?_name _)
  have htables : Check.Reads (Check.listOf (Check.objectOf "TableSchema" Table.check))
      (Form.list (Form.object Table.WrittenIn)) d.tables :=
    Check.reads_list fun t ht =>
      Check.reads_object fun _ hwritten => Table.check_of_writtenIn hwritten (hd.tables t ht)
  have hrelationships : Check.Reads (Check.listOf (Check.objectOf "RelationshipSchema" Relationship.check))
      (Form.list (Form.object Relationship.WrittenIn)) d.relationships :=
    Check.reads_list fun r hr =>
      Check.reads_object fun _ hwritten => Relationship.check_of_writtenIn hwritten (hd.cascades r hr)
  have htypes : Check.Reads (Check.listOf (Check.objectOf "CustomTypeSchema" CustomType.check))
      (Form.list (Form.object CustomType.WrittenIn)) d.customTypes :=
    Check.reads_list fun c hc =>
      Check.reads_object fun _ hwritten => CustomType.check_of_writtenIn hwritten (hd.schemas c hc)
  unfold Diagram.check
  rw [Key.withDefault_of_holdsOr h.databaseType hdatabase, Key.withDefault_of_holdsOr h.tables htables,
    Key.withDefault_of_holdsOr h.relationships hrelationships,
    Key.withDefault_of_holdsOr h.customTypes htypes,
    Key.withDefault_of_holdsOr h.name Check.reads_optional_text,
    Key.withDefault_of_holdsOr h.id Check.reads_optional_text]
  rfl

/-- **Documents of diagrams.** Every diagram has a document, and a document of it gives exactly that diagram,
whichever spellings it uses and whichever defaults it leaves out. The names have to be there for it, and the
schemas and cascades must not be empty texts. -/
theorem ofValue_eq_ok_iff_of_written (d : Diagram) :
    (∃ v, Form.object Diagram.WrittenIn d v) ∧
      ∀ v, Form.object Diagram.WrittenIn d v → (Diagram.ofValue v = .ok d ↔ d.WellNamed) := by
  constructor
  · obtain ⟨entries, hentries⟩ := d.exists_writtenIn
    exact ⟨.object entries, entries, rfl, hentries⟩
  · rintro _ ⟨entries, rfl, hentries⟩
    constructor
    · exact wellNamed_of_ofValue
    · intro hd
      exact ofValue_eq_ok_iff.mpr ⟨entries, rfl, check_of_writtenIn hentries hd⟩

end Diagram

namespace Clinic

def ward : Field :=
  { id := "p1", name := "ward", type := ⟨"varchar", some "text-type"⟩, primaryKey := true,
    maxLength := some (.number 8) }

def wardEntries : List (String × Value) :=
  [("name", .text "ward"), ("id", .text "p1"),
    ("type", .object [("id", .text "text-type"), ("name", .text "varchar")]), ("primary_key", .bool true),
    ("nullable", .bool true), ("increment", .null), ("character_maximum_length", .int 8), ("scale", .null)]

def code : Field :=
  { id := "p2", name := "code", type := ⟨"varchar", none⟩, nullable := false, maxLength := some (.text "12") }

def codeEntries : List (String × Value) :=
  [("id", .text "p2"), ("name", .text "code"), ("type", .object [("name", .text "varchar")]),
    ("primaryKey", .bool false), ("nullable", .bool false), ("characterMaximumLength", .text "12")]

def patients : Table :=
  { id := "p", name := "patients", schema := some "care", fields := [ward, code] }

/-- The color belongs to the editor alone. -/
def patientsEntries : List (String × Value) :=
  [("name", .text "patients"), ("id", .text "p"), ("color", .text "#8eb7ff"), ("schema_name", .text "care"),
    ("isView", .bool false), ("fields", .list [.object wardEntries, .object codeEntries])]

def diagram : Diagram :=
  { databaseType := .postgresql, tables := [patients] }

def document : Value :=
  .object [("tables", .list [.object patientsEntries]), ("customTypes", .list []),
    ("database_type", .text "postgresql")]

theorem written_ward : ward.WrittenIn wardEntries where
  id := ⟨rfl, rfl⟩
  name := ⟨rfl, rfl⟩
  type := ⟨rfl, _, rfl, ⟨⟨rfl, rfl⟩, .there ⟨rfl, rfl⟩⟩⟩
  primaryKey := .there ⟨rfl, rfl⟩
  nullable := .there ⟨rfl, rfl⟩
  unique := .missing rfl rfl
  increment := .there ⟨rfl, .inr ⟨rfl, rfl⟩⟩
  default := .missing rfl rfl
  precision := .missing rfl rfl
  scale := .there ⟨rfl, rfl⟩
  maxLength := .there ⟨rfl, rfl⟩
  comments := .missing rfl rfl

theorem written_code : code.WrittenIn codeEntries where
  id := ⟨rfl, rfl⟩
  name := ⟨rfl, rfl⟩
  type := ⟨rfl, _, rfl, ⟨⟨rfl, rfl⟩, .missing rfl rfl⟩⟩
  primaryKey := .there ⟨rfl, rfl⟩
  nullable := .there ⟨rfl, rfl⟩
  unique := .missing rfl rfl
  increment := .missing rfl rfl
  default := .missing rfl rfl
  precision := .missing rfl rfl
  scale := .missing rfl rfl
  maxLength := .there ⟨rfl, rfl⟩
  comments := .missing rfl rfl

theorem written_document : Form.object Diagram.WrittenIn diagram document := by
  have hfields : List.Forall₂ (Form.object Field.WrittenIn) patients.fields
      [.object wardEntries, .object codeEntries] :=
    .cons ⟨_, rfl, written_ward⟩ (.cons ⟨_, rfl, written_code⟩ .nil)
  have hpatients : patients.WrittenIn patientsEntries :=
    { id := ⟨rfl, rfl⟩
      name := ⟨rfl, rfl⟩
      schema := .there ⟨rfl, rfl⟩
      isView := .there ⟨rfl, .inl rfl⟩
      fields := .there ⟨rfl, _, rfl, hfields⟩
      indexes := .missing rfl rfl
      comments := .missing rfl rfl }
  exact ⟨_, rfl,
    { databaseType := .there ⟨rfl, rfl⟩
      tables := .there ⟨rfl, _, rfl, .cons ⟨_, rfl, hpatients⟩ .nil⟩
      relationships := .missing rfl rfl
      customTypes := .there ⟨rfl, _, rfl, .nil⟩
      name := .missing rfl rfl
      id := .missing rfl rfl }⟩

/-- The document mixes the spellings, leaves defaults out and has nulls, and gives back the diagram. -/
theorem document_gives_diagram :
    Form.object Diagram.WrittenIn diagram document ∧ diagram.WellNamed ∧
      Diagram.ofValue document = .ok diagram :=
  ⟨written_document, by decide,
    ((Diagram.ofValue_eq_ok_iff_of_written diagram).2 document written_document).mpr (by decide)⟩

end Clinic

end SchemaScribe
