import SchemaScribe.Proofs.Checks
import SchemaScribe.Proofs.Entries

/-!
# Values as a document writes them

A form says which values of a document write a given value. A check reads a value in a form if it gives that
value for everything that writes it, and this too is settled part by part: for the members of a list, and for
the one entry that an object has under a key, in whichever of the two spellings.
-/

namespace SchemaScribe.Document

/-- Which values of a document write a value. -/
abbrev Form (α : Type) : Type :=
  α → Value → Prop

namespace Form

variable {α : Type}

def text : Form String :=
  fun s v => v = .text s

def looseText : Form LooseText
  | .proper s, v => v = .text s
  | .broken t, v => v = .brokenText t

def boolean : Form Bool :=
  fun b v => v = .bool b

def integer : Form Int :=
  fun n v => v = .int n

/-- Where null counts as false too. -/
def flag : Form Bool :=
  fun b v => v = .bool b ∨ (b = false ∧ v = .null)

def word (name : α → String) : Form α :=
  fun a v => v = .text (name a)

def optional (form : Form α) : Form (Option α)
  | none, v => v = .null
  | some a, v => form a v

def list (form : Form α) : Form (List α) :=
  fun as v => ∃ items, v = .list items ∧ List.Forall₂ form as items

def object (written : α → List (String × Value) → Prop) : Form α :=
  fun a v => ∃ entries, v = .object entries ∧ written a entries

/-- Every value can be written. -/
def Total (form : Form α) : Prop :=
  ∀ a, ∃ v, form a v

theorem total_text : Total text :=
  fun s => ⟨.text s, rfl⟩

theorem total_looseText : Total looseText := by
  intro t
  cases t with
  | proper s => exact ⟨.text s, rfl⟩
  | broken t => exact ⟨.brokenText t, rfl⟩

theorem total_integer : Total integer :=
  fun n => ⟨.int n, rfl⟩

theorem total_optional {form : Form α} (h : form.Total) : (optional form).Total := by
  intro o
  cases o with
  | none => exact ⟨.null, rfl⟩
  | some a => exact h a

theorem total_list {form : Form α} (h : form.Total) : (list form).Total := by
  have hitems : ∀ as, ∃ items, List.Forall₂ form as items := by
    intro as
    induction as with
    | nil => exact ⟨[], .nil⟩
    | cons a as ih =>
        obtain ⟨v, hv⟩ := h a
        obtain ⟨items, hitems⟩ := ih
        exact ⟨v :: items, .cons hv hitems⟩
  intro as
  obtain ⟨items, hall⟩ := hitems as
  exact ⟨.list items, items, rfl, hall⟩

theorem total_object {written : α → List (String × Value) → Prop} (h : ∀ a, ∃ entries, written a entries) :
    (object written).Total := by
  intro a
  obtain ⟨entries, hentries⟩ := h a
  exact ⟨.object entries, entries, rfl, hentries⟩

end Form

namespace Check

variable {α : Type} {check : Value → Checked α} {form : Form α}

/-- Whatever writes the value passes the check with it. -/
def Reads (check : Value → Checked α) (form : Form α) (a : α) : Prop :=
  ∀ v, form a v → check v = .valid a

theorem reads_text {s : String} : Reads text Form.text s := by
  rintro _ rfl
  rfl

theorem reads_looseText {t : LooseText} : Reads looseText Form.looseText t := by
  intro v hv
  cases t with
  | proper s =>
      obtain rfl : v = .text s := hv
      rfl
  | broken t =>
      obtain rfl : v = .brokenText t := hv
      rfl

theorem reads_nonEmptyText {s : String} (hs : s ≠ "") : Reads nonEmptyText Form.text s := by
  rintro _ rfl
  simp only [nonEmptyText, text_text, Checked.andThen, if_neg hs]

theorem reads_boolean {b : Bool} : Reads boolean Form.boolean b := by
  rintro _ rfl
  rfl

theorem reads_integer {n : Int} : Reads integer Form.integer n := by
  rintro _ rfl
  rfl

theorem reads_choice {choices : List (String × α)} {name : α → String} {a : α}
    (hname : choices.lookup (name a) = some a) : Reads (choice choices) (Form.word name) a := by
  rintro _ rfl
  simp [choice, hname]

/-- An optional value is read where null is no way of writing a value that is there. -/
theorem reads_optional {o : Option α} (hnull : ∀ a, ¬ form a .null) (h : ∀ a ∈ o, Reads check form a) :
    Reads (optional check) (Form.optional form) o := by
  intro v hv
  cases o with
  | none =>
      obtain rfl : v = .null := hv
      rfl
  | some a =>
      have hread : check v = .valid a := h a rfl v hv
      cases v with
      | null => exact absurd hv (hnull a)
      | _ => simp [optional, hread, Checked.map]

theorem reads_optional_text {o : Option String} : Reads (optional text) (Form.optional Form.text) o :=
  reads_optional (fun _ => Value.noConfusion) fun _ _ => reads_text

theorem reads_optional_integer {o : Option Int} :
    Reads (optional integer) (Form.optional Form.integer) o :=
  reads_optional (fun _ => Value.noConfusion) fun _ _ => reads_integer

theorem itemsFrom_eq_valid_of_forall₂ {as : List α} {items : List Value} {index : Nat}
    (hitems : List.Forall₂ form as items) (h : ∀ a ∈ as, Reads check form a) :
    itemsFrom check index items = .valid as := by
  induction hitems generalizing index with
  | nil => rfl
  | @cons a v as items hhead _ ih =>
      have hfirst : check v = .valid a := h a List.mem_cons_self v hhead
      have hrest : itemsFrom check (index + 1) items = .valid as :=
        ih fun b hb => h b (List.mem_cons_of_mem a hb)
      rw [itemsFrom, hfirst, hrest]
      rfl

theorem reads_list {as : List α} (h : ∀ a ∈ as, Reads check form a) :
    Reads (listOf check) (Form.list form) as := by
  rintro _ ⟨items, rfl, hitems⟩
  exact itemsFrom_eq_valid_of_forall₂ hitems h

theorem reads_object {kind : String} {check : List (String × Value) → Checked α}
    {written : α → List (String × Value) → Prop} {a : α}
    (h : ∀ entries, written a entries → check entries = .valid a) :
    Reads (objectOf kind check) (Form.object written) a := by
  rintro _ ⟨entries, rfl, hentries⟩
  exact h entries hentries

end Check

namespace Key

variable {α : Type} {k : Key} {form : Form α} {check : Value → Checked α} {a : α}
  {entries : List (String × Value)}

/-- The entries under either spelling of a key. -/
def entriesIn (k : Key) (entries : List (String × Value)) : List (String × Value) :=
  entries.filter fun e => e.1 = k.name || e.1 = k.otherName

/-- The key stands there once, in one of its spellings, and what stands behind it writes the value. -/
inductive Holds (k : Key) (form : Form α) (a : α) (entries : List (String × Value)) : Prop where
  | once {name : String} {v : Value} (hentries : k.entriesIn entries = [(name, v)]) (hv : form a v)

/-- A value that is the default may be left out with its key. -/
inductive HoldsOr (k : Key) (default : α) (form : Form α) (a : α) (entries : List (String × Value)) :
    Prop where
  | there (h : k.Holds form a entries)
  | missing (hentries : k.entriesIn entries = []) (ha : a = default)

theorem find?_entriesIn : k.find? (k.entriesIn entries) = k.find? entries := by
  have hlookup : ∀ name, name = k.name ∨ name = k.otherName →
      (k.entriesIn entries).lookup name = entries.lookup name := by
    intro name hname
    exact Entries.lookup_filter (p := fun name => name = k.name || name = k.otherName) (by simpa using hname) _
  unfold find?
  rw [hlookup _ (Or.inl rfl), hlookup _ (Or.inr rfl)]

theorem find?_of_entriesIn_eq_nil (h : k.entriesIn entries = []) : k.find? entries = none := by
  rw [← find?_entriesIn, h]
  rfl

theorem find?_of_entriesIn_eq_singleton {name : String} {v : Value} (h : k.entriesIn entries = [(name, v)]) :
    k.find? entries = some (name, v) := by
  have hspelling : name = k.name ∨ name = k.otherName := by
    have hmem : (name, v) ∈ k.entriesIn entries := h ▸ List.mem_singleton_self _
    simpa using (List.mem_filter.mp hmem).2
  rw [← find?_entriesIn, h]
  by_cases hname : k.name = name
  · simp [find?, hname]
  · obtain rfl : name = k.otherName := hspelling.resolve_left (Ne.symm hname)
    simp [find?, List.lookup_cons, beq_eq_false_iff_ne.mpr hname]

theorem required_of_holds (h : k.Holds form a entries) (hreads : Check.Reads check form a) :
    k.required check entries = .valid a := by
  obtain ⟨hentries, hv⟩ := h
  have hread := hreads _ hv
  simp only [required, find?_of_entriesIn_eq_singleton hentries, hread, Checked.under]

theorem withDefault_of_holdsOr {default : α} (h : k.HoldsOr default form a entries)
    (hreads : Check.Reads check form a) : k.withDefault default check entries = .valid a := by
  rcases h with ⟨hentries, hv⟩ | ⟨hentries, rfl⟩
  · have hread := hreads _ hv
    simp only [withDefault, find?_of_entriesIn_eq_singleton hentries, hread, Checked.under]
  · simp only [withDefault, find?_of_entriesIn_eq_nil hentries]

theorem nonEmptyText_of_holdsOr {o : Option String} (hempty : o ≠ some "")
    (h : k.HoldsOr none (Form.optional Form.text) o entries) :
    nonEmpty <$> k.withDefault none (Check.optional Check.text) entries = .valid o := by
  rw [withDefault_of_holdsOr h Check.reads_optional_text]
  refine Checked.map_eq_valid_iff.mpr ⟨o, rfl, ?_⟩
  cases o with
  | none => rfl
  | some s => simpa [nonEmpty] using hempty

/-- A truth value that may be absent is read as false there, so null and false say the same. -/
theorem flag_of_holdsOr {b : Bool} (h : k.HoldsOr false Form.flag b entries) :
    (Option.getD · false) <$> k.withDefault none (Check.optional Check.boolean) entries = .valid b := by
  rcases h with ⟨hentries, rfl | ⟨rfl, rfl⟩⟩ | ⟨hentries, rfl⟩
  · simp only [withDefault, find?_of_entriesIn_eq_singleton hentries]
    rfl
  · simp only [withDefault, find?_of_entriesIn_eq_singleton hentries]
    rfl
  · simp only [withDefault, find?_of_entriesIn_eq_nil hentries]
    rfl

end Key

end SchemaScribe.Document
