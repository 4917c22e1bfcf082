import SchemaScribe.Configuration
import SchemaScribe.Proofs.Entries
import SchemaScribe.Proofs.LoadOutcome
import SchemaScribe.Proofs.PrintedPolicy

/-!
# Which settings a run has

A setting has the value that is given directly, and otherwise the one in the file. Whatever else is given or in
the file has no part in the configuration, nor in the problems with it. The cascade policy of a configuration
is trimmed, and trimming it again for the options changes nothing.
-/

namespace SchemaScribe

open Document

theorem FileTree.isFile_of_read {t : FileTree} {path : Path} {octets : List UInt8} (h : t.read path = .ok octets) :
    t.isFile path = .ok true := by
  unfold read at h
  unfold isFile
  split at h
  case h_5 hfind => rw [hfind]
  all_goals cases h

namespace Document.Key

theorem find?_plain (name : String) (entries : List (String × Value)) :
    (plain name).find? entries = (entries.lookup name).map (name, ·) := by
  unfold find? plain
  cases entries.lookup name <;> rfl

theorem withDefault_plain_congr {α : Type} {name : String} {default : α} {check : Value → Checked α}
    {entries others : List (String × Value)} (h : entries.lookup name = others.lookup name) :
    (plain name).withDefault default check entries = (plain name).withDefault default check others := by
  rw [withDefault, withDefault, find?_plain, find?_plain, h]

end Document.Key

namespace Configuration

/-! ### Precedence -/

/-- The value that a setting is given directly. Null is none. -/
def given? (given : List (String × Value)) (name : String) : Option Value :=
  (given.filter fun entry => isGiven entry.2).lookup name

/-- The value of a setting: the one given directly, and otherwise the one in the file. -/
def effective? (entries given : List (String × Value)) (name : String) : Option Value :=
  (given? given name).or (entries.lookup name)

/-- The settings that have a value, and nothing else. -/
def effective (entries given : List (String × Value)) : List (String × Value) :=
  settingNames.filterMap fun name => (effective? entries given name).map (name, ·)

variable {entries given : List (String × Value)} {name : String}

theorem lookup_givenSettings (hname : name ∈ settingNames) :
    (givenSettings given).lookup name = given? given name := by
  have hsplit : givenSettings given =
      (given.filter fun entry => isGiven entry.2).filter fun entry => settingNames.contains entry.1 := by
    rw [List.filter_filter]
    rfl
  rw [hsplit, Entries.lookup_filter (List.contains_iff_mem.mpr hname), given?]

theorem lookup_override (hname : name ∈ settingNames) :
    (override entries given).lookup name = effective? entries given name := by
  rw [override, List.lookup_append, lookup_givenSettings hname, effective?]

theorem lookup_effective (hname : name ∈ settingNames) :
    (effective entries given).lookup name = effective? entries given name :=
  Entries.lookup_filterMap _ hname

theorem check_congr {others : List (String × Value)}
    (h : ∀ name ∈ settingNames, entries.lookup name = others.lookup name) : check entries = check others := by
  unfold check
  rw [Key.withDefault_plain_congr (h "input_file" (by decide)),
    Key.withDefault_plain_congr (h "output_file" (by decide)),
    Key.withDefault_plain_congr (h "format_code" (by decide)),
    Key.withDefault_plain_congr (h "cascade" (by decide))]

theorem check_override : check (override entries given) = check (effective entries given) := by
  apply check_congr
  intro name hname
  rw [lookup_override hname, lookup_effective hname]

/-! ### Loading -/

/-- The entries that the file of a configuration has. A file that is not named, not there or empty has none. -/
inductive EntriesOf (files : FileTree) : Option String → List (String × Value) → Prop where
  | unnamed {file : Option String} (h : nonEmpty file = none) : EntriesOf files file []
  | missing {file : Option String} {path : String} (hpath : nonEmpty file = some path)
      (h : files.isFile (Path.ofString path) = .ok false) : EntriesOf files file []
  | null {file : Option String} {path : String} (hpath : nonEmpty file = some path)
      (h : files.HoldsIn .yaml path .null) : EntriesOf files file []
  | mapping {file : Option String} {path : String} {entries : List (String × Value)}
      (hpath : nonEmpty file = some path) (h : files.HoldsIn .yaml path (.object entries)) :
      EntriesOf files file entries

variable {files : FileTree} {file : Option String}

theorem result_readEntries {path : String} {v : Value} (h : files.HoldsIn .yaml path v)
    (hv : v = .null ∧ entries = [] ∨ v = .object entries) :
    ((readEntries path).on files).result = .ok entries := by
  obtain ⟨cs, hread, htext⟩ := h
  rw [Path.ofText_proper] at hread
  simp only [readEntries, Session.bind_eq, Session.result_bind, Session.result_mapFailure, Session.on_askIsFile,
    FileTree.isFile_of_read hread, Except.mapError, ok_bind, if_true,
    ((Session.isSilent_askIsFile _).mapFailure _).files_on, Session.on_readFile, hread,
    ((Session.isSilent_readFile _).mapFailure _).files_on, Session.on_ofExcept, Format.read_encodeUtf8, htext]
  obtain ⟨rfl, rfl⟩ | rfl := hv <;> rfl

theorem result_fileEntries (h : EntriesOf files file entries) : ((fileEntries file).on files).result = .ok entries := by
  unfold fileEntries
  cases h with
  | unnamed h =>
      rw [h]
      rfl
  | missing hpath h =>
      simp only [hpath, readEntries, Session.bind_eq, Session.result_bind, Session.result_mapFailure,
        Session.on_askIsFile, h, Except.mapError, ok_bind]
      rfl
  | null hpath h =>
      rw [hpath]
      exact result_readEntries h (Or.inl ⟨rfl, rfl⟩)
  | mapping hpath h =>
      rw [hpath]
      exact result_readEntries h (Or.inr rfl)

theorem result_ofEntries (files : FileTree) :
    ((ofEntries entries given).on files).result = (check (effective entries given)).toExcept.mapError .invalid := by
  simp only [ofEntries, Session.bind_eq, Session.result_bind, Session.on_reportAll, ok_bind, check_override]
  cases check (effective entries given) <;> rfl

theorem result_load (h : EntriesOf files file entries) :
    ((load file given).on files).result = (check (effective entries given)).toExcept.mapError .invalid := by
  rw [load, Session.bind_eq, Session.result_bind, result_fileEntries h, ok_bind, result_ofEntries]

/-! ### The cascade policy -/

/-- The policy that the value of the setting stands for: that of a text is the text trimmed. -/
inductive PolicyOf : Option Value → String → Prop where
  | absent : PolicyOf none ({} : Options).cascade
  | null : PolicyOf (some .null) ({} : Options).cascade
  | text {v : Value} {s : String} (h : Check.text v = .valid s) : PolicyOf (some v) (Text.trim s)

theorem dropWhile_of_head? {p : Char → Bool} {c : Char} {cs : List Char} (hhead : cs.head? = some c)
    (hc : p c = false) : cs.dropWhile p = cs := by
  obtain ⟨rest, rfl⟩ := List.head?_eq_some_iff.mp hhead
  rw [List.dropWhile_cons, if_neg (Bool.eq_false_iff.mp hc)]

theorem trim_of_isCascadePolicy {s : String} (h : IsCascadePolicy s) : Text.trim s = s := by
  obtain ⟨first, hfirst, hblank⟩ := h.head
  obtain ⟨last, hlast, hblank'⟩ := h.last
  rw [← List.head?_reverse] at hlast
  rw [Text.trim, Text.trimBy, dropWhile_of_head? hfirst hblank, Text.dropEndWhile,
    dropWhile_of_head? hlast hblank', List.reverse_reverse, String.ofList_toList]

theorem checkCascade_of_isCascadePolicy {s : String} (h : IsCascadePolicy s) :
    checkCascade (.text s) = .valid s := by
  have hne : s ≠ "" := by
    rintro rfl
    obtain ⟨_, hnone, _⟩ := h.head
    cases hnone
  simp only [checkCascade, Check.text_text, Checked.andThen, trim_of_isCascadePolicy h, if_neg hne]

theorem options_of_isCascadePolicy {c : Configuration} {s : String} (hc : c.cascade = some s)
    (h : IsCascadePolicy s) : c.options = .valid ⟨s⟩ := by
  have hcascade : (Key.plain "cascade").withDefault ({} : Options).cascade checkCascade [("cascade", .text s)] =
      .valid s := by
    rw [Key.withDefault, Key.find?_plain, List.lookup_cons_self, Option.map_some]
    simp only [checkCascade_of_isCascadePolicy h, Checked.under]
  rw [options, hc, Option.toList_some, List.map_singleton, Options.check, hcascade]
  rfl

theorem exists_policyOf_of_check {c : Configuration} (h : check entries = .valid c) :
    ∃ policy, PolicyOf (entries.lookup "cascade") policy ∧ c.options = .valid ⟨policy⟩ := by
  unfold check at h
  simp only [Checked.seq_eq_valid_iff, Checked.map_eq_valid_iff] at h
  obtain ⟨_, cascade, ⟨_, _, ⟨_, _, ⟨_, _, rfl⟩, _, rfl⟩, _, rfl⟩, hcascade, rfl⟩ := h
  rw [Key.withDefault, Key.find?_plain] at hcascade
  cases hlookup : entries.lookup "cascade" with
  | none =>
      rw [hlookup] at hcascade
      obtain rfl := Checked.valid.inj hcascade
      exact ⟨_, .absent, rfl⟩
  | some v =>
      rw [hlookup, Option.map_some] at hcascade
      obtain ⟨rfl, rfl⟩ | ⟨_, policy, hpolicy, rfl⟩ :=
        Check.optional_eq_valid_iff.mp (Checked.under_eq_valid_iff.mp hcascade)
      · exact ⟨_, .null, rfl⟩
      · have htrimmed := isCascadePolicy_of_checkCascade hpolicy
        obtain ⟨s, hs, htrim⟩ := Checked.andThen_eq_valid_iff.mp hpolicy
        by_cases hempty : Text.trim s = ""
        · rw [if_pos hempty] at htrim
          cases htrim
        · rw [if_neg hempty] at htrim
          obtain rfl := Checked.valid.inj htrim
          exact ⟨_, .text hs, options_of_isCascadePolicy rfl htrimmed⟩

/-- **A configuration is that of the settings in effect.** Each setting has the value that is given directly, and
otherwise the one in the file; only these values decide what is returned or which problems there are. The
options of a configuration are accepted, and their policy is that of the cascade in effect. -/
theorem load_eq_check_effective (h : EntriesOf files file entries) (given : List (String × Value)) :
    ((load file given).on files).result = (check (effective entries given)).toExcept.mapError .invalid ∧
    (∀ files' file' entries' given', EntriesOf files' file' entries' →
      (∀ name ∈ settingNames, effective? entries' given' name = effective? entries given name) →
      ((load file' given').on files').result = ((load file given).on files).result) ∧
    (∀ c, ((load file given).on files).result = .ok c →
      ∃ policy, PolicyOf (effective? entries given "cascade") policy ∧ c.options = .valid ⟨policy⟩) := by
  refine ⟨result_load h, ?_, ?_⟩
  · intro files' file' entries' given' h' hsame
    rw [result_load h, result_load h']
    have hcheck : check (effective entries' given') = check (effective entries given) := by
      apply check_congr
      intro name hname
      rw [lookup_effective hname, lookup_effective hname, hsame name hname]
    rw [hcheck]
  · intro c hc
    rw [result_load h] at hc
    cases hcheck : check (effective entries given) with
    | invalid problems =>
        rw [hcheck] at hc
        cases hc
    | valid read =>
        rw [hcheck] at hc
        obtain rfl := Except.ok.inj hc
        rw [← lookup_effective (by decide)]
        exact exists_policyOf_of_check hcheck

end Configuration

/-! ### A file that is overridden -/

theorem Document.Yaml.read_of_tokensOf {cs : List Char} {tokens : List Token} {node : Node}
    (hallowed : cs.all isAllowed = true) (htokens : tokensOf cs = (tokens, none))
    (hnode : Node.ofTokens tokens none = .ok node) : read cs = node.value := by
  rw [read, hallowed, htokens]
  show (Node.ofTokens tokens none).bind Node.value = _
  rw [hnode, ok_bind]

namespace HiddenPolicy

open Yaml

def text : List Char := "cascade: 1".toList

def files : FileTree where
  contents := [(["c.yaml"], .file (Text.encodeUtf8 text))]
  workingDirectory := []

/-- The key, by the codes of its characters. -/
def name : List Nat := [99, 97, 115, 99, 97, 100, 101]

def tokens : List Yaml.Token :=
  [.blockMapping, .key, .scalar true name, .value, .scalar true [49], .blockEnd, .streamEnd]

def node : Node :=
  .mapping .mapping [(.scalar .text name, .scalar .integer [49])]

theorem ofTokens_tokens : Node.ofTokens tokens none = .ok node := by
  have hkey : Reading.scalarTag true name none = .text := by decide +kernel
  have hcontent : Reading.scalarTag true [49] none = .integer := by decide +kernel
  rw [node, ← hkey, ← hcontent]
  rfl

theorem value_node : node.value = .ok (.object [("cascade", .int 1)]) := by
  have hkey : Node.denotedScalar .text (.scalar .text name) = .ok (.text "cascade") := rfl
  have hcontent : Node.denotedScalar .integer (.scalar .integer [49]) = .ok (.int 1) := rfl
  simp only [node, Node.value, Node.denoted, Node.allEntriesDenoted, Node.entriesDenoted, Node.isMergeKey,
    Node.tag?, Node.denotedKey, hkey, hcontent]
  rfl

theorem holdsIn : files.HoldsIn .yaml "c.yaml" (.object [("cascade", .int 1)]) := by
  have hread : Yaml.read text = node.value :=
    read_of_tokensOf (by decide +kernel) (by decide +kernel) ofTokens_tokens
  refine ⟨text, rfl, ?_⟩
  rw [Text.unifyLineEnds_eq_self (by decide), Format.readText, hread, value_node]

/-- A number is no policy, unless it is hidden by a policy that is given. -/
theorem given_policy_counts :
    Configuration.EntriesOf files (some "c.yaml") [("cascade", .int 1)] ∧
      ((Configuration.load (some "c.yaml") [("config", .text "c.yaml"), ("cascade", .text " merge ")]).on
        files).result = .ok { cascade := some "merge" } ∧
      (∃ policy, Configuration.PolicyOf (some (.text " merge ")) policy ∧
        Configuration.options { cascade := some "merge" } = .valid ⟨policy⟩) ∧
      ((Configuration.load (some "c.yaml") [("config", .text "c.yaml"), ("cascade", .null)]).on files).result =
        .error (.invalid [⟨[.key "cascade"], .notText⟩]) := by
  have hentries : Configuration.EntriesOf files (some "c.yaml") [("cascade", .int 1)] := .mapping rfl holdsIn
  obtain ⟨hgiven, _, hpolicy⟩ := Configuration.load_eq_check_effective hentries
    [("config", .text "c.yaml"), ("cascade", .text " merge ")]
  obtain ⟨hfile, _⟩ := Configuration.load_eq_check_effective hentries
    [("config", .text "c.yaml"), ("cascade", .null)]
  exact ⟨hentries, hgiven, hpolicy _ hgiven, hfile⟩

end HiddenPolicy

end SchemaScribe
