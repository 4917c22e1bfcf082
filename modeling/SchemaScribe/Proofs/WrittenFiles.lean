import SchemaScribe.Files.Tree
import SchemaScribe.Proofs.Entries

/-!
# Files after a write

A tree grows where directories are made in places that were empty. A path leads in the grown tree to where it
led before, since what it leads through is still a directory. So after a write the octets are in the file at
their path, every other file is what it was, and nothing is new but directories on the way.
-/

namespace SchemaScribe.FileTree

variable {t later last : FileTree} {path : Path} {place : Place} {content : Option FileContent}

/-! ### Places -/

/-- A new content can be seen. The root is a directory, whatever is set there. -/
theorem content?_set (hplace : t.content? place ≠ some .directory) (content : FileContent) (other : Place) :
    (t.set place content).content? other = if other = place then some content else t.content? other := by
  have hne : place ≠ [] := by
    rintro rfl
    exact hplace rfl
  unfold content? set
  by_cases hroot : other = []
  · subst hroot
    rw [if_neg (Ne.symm hne)]
    rfl
  · rw [List.isEmpty_eq_false_iff.mpr hroot, Entries.lookup_set]
    rfl

/-- The place where a path starts. -/
def start (t : FileTree) (path : Path) : Place :=
  if path.root = "" then t.workingDirectory else []

theorem find_eq_ok_iff :
    t.find path = .ok (place, content) ↔
      path.isBroken = false ∧ path.hasZeroCharacter = false ∧ path.render.utf8ByteSize < pathLimit ∧
        t.follow (t.start path) path.names = .ok place ∧ t.content? place = content := by
  unfold find
  cases path.isBroken with
  | true => simp
  | false =>
      cases path.hasZeroCharacter with
      | true => simp
      | false =>
          by_cases hlimit : pathLimit ≤ path.render.utf8ByteSize
          · simp [hlimit, Nat.not_lt.mpr hlimit]
          · rw [start]
            cases t.follow (if path.root = "" then t.workingDirectory else []) path.names with
            | error cause => simp [hlimit, Except.map]
            | ok found =>
                simp only [Bool.false_eq_true, if_false, hlimit, Except.map, Except.ok.injEq, Prod.mk.injEq,
                  Nat.lt_of_not_le hlimit, true_and]
                exact and_congr_right fun hfound => by rw [hfound]

theorem read_eq_ok_iff {octets : List UInt8} :
    t.read path = .ok octets ↔ ∃ place, t.find path = .ok (place, some (.file octets)) := by
  unfold read
  split <;> simp_all

/-! ### Trees that keep their directories -/

/-- Every directory is still one, and paths start where they did. -/
structure KeepsDirectories (t later : FileTree) : Prop where
  workingDirectory : later.workingDirectory = t.workingDirectory
  directories : ∀ place, t.content? place = some .directory → later.content? place = some .directory

theorem follow_of_keepsDirectories (h : t.KeepsDirectories later) {names : List String} {found : Place}
    (hfollow : t.follow place names = .ok found) : later.follow place names = .ok found := by
  induction names generalizing place with
  | nil => exact hfollow
  | cons name names ih =>
      unfold follow at hfollow ⊢
      split at hfollow
      case h_4 hdirectory =>
        rw [h.directories place hdirectory]
        split at hfollow
        · cases hfollow
        case isFalse hname =>
          simp only [if_neg hname]
          exact ih hfollow
      all_goals cases hfollow

theorem find_of_keepsDirectories (h : t.KeepsDirectories later) (hfind : t.find path = .ok (place, content)) :
    later.find path = .ok (place, later.content? place) := by
  obtain ⟨hbroken, hzero, hlimit, hfollow, _⟩ := find_eq_ok_iff.mp hfind
  have hstart : later.start path = t.start path := by rw [start, start, h.workingDirectory]
  exact find_eq_ok_iff.mpr ⟨hbroken, hzero, hlimit, hstart ▸ follow_of_keepsDirectories h hfollow, rfl⟩

theorem keepsDirectories_set (hplace : t.content? place ≠ some .directory) (content : FileContent) :
    t.KeepsDirectories (t.set place content) where
  workingDirectory := rfl
  directories := by
    intro other hother
    have hne : other ≠ place := by
      rintro rfl
      exact hplace hother
    rw [content?_set hplace, if_neg hne, hother]

/-! ### Making directories -/

/-- Directories on the way of a path have been made where there was nothing; nothing else has changed. -/
structure GrowsTo (t : FileTree) (path : Path) (later : FileTree) : Prop where
  workingDirectory : later.workingDirectory = t.workingDirectory
  contents : ∀ place, later.content? place = t.content? place ∨
    t.content? place = none ∧ ∃ names, names <+: path.names ∧
      later.find { path with names := names } = .ok (place, some .directory)

theorem GrowsTo.refl (t : FileTree) (path : Path) : t.GrowsTo path t :=
  ⟨rfl, fun _ => .inl rfl⟩

theorem GrowsTo.keepsDirectories (h : t.GrowsTo path later) : t.KeepsDirectories later where
  workingDirectory := h.workingDirectory
  directories := by
    intro place hplace
    rcases h.contents place with hsame | ⟨hnone, _⟩
    · rw [hsame, hplace]
    · rw [hplace] at hnone
      cases hnone

/-- A directory that is found is still found after the tree has grown further. -/
theorem find_directory_of_keepsDirectories (h : t.KeepsDirectories later)
    (hfind : t.find path = .ok (place, some .directory)) : later.find path = .ok (place, some .directory) := by
  obtain ⟨_, _, _, _, hcontent⟩ := find_eq_ok_iff.mp hfind
  rw [find_of_keepsDirectories h hfind, h.directories place hcontent]

theorem GrowsTo.trans (h : t.GrowsTo path later) (hlast : later.GrowsTo path last) : t.GrowsTo path last where
  workingDirectory := hlast.workingDirectory.trans h.workingDirectory
  contents := by
    intro place
    rcases hlast.contents place with hsame | ⟨hnone, hmade⟩
    · rw [hsame]
      refine (h.contents place).imp_right fun ⟨hnone, names, hnames, hfind⟩ => ⟨hnone, names, hnames, ?_⟩
      exact find_directory_of_keepsDirectories hlast.keepsDirectories hfind
    · rcases h.contents place with hsame | ⟨hnone', _⟩
      · exact .inr ⟨hsame ▸ hnone, hmade⟩
      · exact .inr ⟨hnone', hmade⟩

theorem GrowsTo.of_parent (h : t.GrowsTo path.parent later) : t.GrowsTo path later where
  workingDirectory := h.workingDirectory
  contents := fun place => (h.contents place).imp_right fun ⟨hnone, names, hnames, hfind⟩ =>
    ⟨hnone, names, hnames.trans (List.dropLast_prefix _), hfind⟩

theorem growsTo_of_makeDirectory (h : t.makeDirectory path = .ok later) : t.GrowsTo path later := by
  unfold makeDirectory at h
  split at h
  case h_3 place hfind =>
    obtain rfl := Except.ok.inj h
    obtain ⟨_, _, _, _, hnone⟩ := find_eq_ok_iff.mp hfind
    have hplace : t.content? place ≠ some .directory := by
      rw [hnone]
      exact nofun
    have hfound := find_of_keepsDirectories (keepsDirectories_set hplace .directory) hfind
    refine ⟨rfl, fun other => ?_⟩
    rw [content?_set hplace] at hfound ⊢
    by_cases hother : other = place
    · subst hother
      rw [if_pos rfl] at hfound ⊢
      exact .inr ⟨hnone, path.names, List.prefix_rfl, hfound⟩
    · exact .inl (if_neg hother)
  all_goals cases h

theorem growsTo_of_acceptDirectory {made : Except FileFault FileTree}
    (hmade : ∀ grown, made = .ok grown → t.GrowsTo path grown) (h : t.acceptDirectory path made = .ok later) :
    t.GrowsTo path later := by
  cases made with
  | ok grown =>
      obtain rfl := Except.ok.inj h
      exact hmade grown rfl
  | error fault =>
      rw [acceptDirectory] at h
      split at h
      case isTrue =>
        obtain rfl := Except.ok.inj h
        exact .refl t path
      case isFalse => cases h

theorem growsTo_of_makeDirectories (h : t.makeDirectories path = .ok later) : t.GrowsTo path later := by
  fun_induction makeDirectories t path generalizing later with
  | case1 => cases h
  | case2 => cases h
  | case3 path _ _ _ grown hparent ih =>
      have hgrown : t.GrowsTo path grown := (ih hparent).of_parent
      exact hgrown.trans (growsTo_of_acceptDirectory (fun _ => growsTo_of_makeDirectory) h)
  | case4 path _ => exact growsTo_of_acceptDirectory (fun _ => growsTo_of_makeDirectory) h

/-! ### Writing -/

/-- The tree after octets have been written to a path. They are in the file there. Every other file is read as
before, and in the places where there is something new directories on the way have been made. -/
structure HasWritten (t : FileTree) (path : Path) (octets : List UInt8) (later : FileTree) : Prop where
  read : later.read path = .ok octets
  others : ∀ other held, t.read other = .ok held → later.find other ≠ later.find path → later.read other = .ok held
  workingDirectory : later.workingDirectory = t.workingDirectory
  contents : ∀ place, later.find path = .ok (place, some (.file octets)) ∨ later.content? place = t.content? place ∨
    t.content? place = none ∧ ∃ names, names <+: path.names ∧
      later.find { path with names := names } = .ok (place, some .directory)

/-- A file is put in one place, which is no directory and to which the path leads afterwards. -/
theorem exists_of_putFile {octets : List UInt8} (h : t.putFile path octets = .ok later) :
    ∃ place, later.find path = .ok (place, some (.file octets)) ∧ t.KeepsDirectories later ∧
      ∀ other, later.content? other = if other = place then some (.file octets) else t.content? other := by
  unfold putFile at h
  split at h
  case h_4 place content hdirectory _ hfind =>
    obtain rfl := Except.ok.inj h
    obtain ⟨_, _, _, _, hcontent⟩ := find_eq_ok_iff.mp hfind
    have hnew : t.content? place ≠ some .directory := hcontent ▸ hdirectory
    have hset := content?_set hnew (.file octets)
    have hkeeps : t.KeepsDirectories (t.set place (.file octets)) := keepsDirectories_set hnew _
    have hfound := find_of_keepsDirectories hkeeps hfind
    rw [hset, if_pos rfl] at hfound
    exact ⟨place, hfound, hkeeps, hset⟩
  all_goals cases h

/-- **Writing a file.** A write that succeeds puts the UTF-8 octets of the text into the file at the path, and
changes no other file. -/
theorem hasWritten_of_write {text : String} (h : t.write path text = .ok later) :
    t.HasWritten path text.toUTF8.toList later := by
  unfold write at h
  split at h
  · cases h
  case h_2 grown hmade =>
    have hgrown : t.GrowsTo path grown := (growsTo_of_makeDirectories hmade).of_parent
    obtain ⟨place, hfound, hkeeps, hset⟩ := exists_of_putFile h
    refine ⟨read_eq_ok_iff.mpr ⟨place, hfound⟩, ?_, hkeeps.workingDirectory.trans hgrown.workingDirectory, ?_⟩
    · intro other held hread hother
      obtain ⟨there, hthere⟩ := read_eq_ok_iff.mp hread
      obtain ⟨_, _, _, _, hheld⟩ := find_eq_ok_iff.mp hthere
      have hlater := find_of_keepsDirectories hkeeps (find_of_keepsDirectories hgrown.keepsDirectories hthere)
      rw [hset] at hlater
      by_cases hsame : there = place
      · rw [if_pos hsame, hsame] at hlater
        exact absurd (hlater.trans hfound.symm) hother
      · rw [if_neg hsame] at hlater
        rcases hgrown.contents there with hunchanged | ⟨hnone, _⟩
        · rw [hunchanged, hheld] at hlater
          exact read_eq_ok_iff.mpr ⟨there, hlater⟩
        · rw [hheld] at hnone
          cases hnone
    · intro there
      by_cases hsame : there = place
      · exact .inl (hsame ▸ hfound)
      · rw [hset, if_neg hsame]
        rcases hgrown.contents there with hunchanged | ⟨hnone, names, hnames, hmade⟩
        · exact .inr (.inl hunchanged)
        · exact .inr (.inr ⟨hnone, names, hnames, find_directory_of_keepsDirectories hkeeps hmade⟩)

end SchemaScribe.FileTree
