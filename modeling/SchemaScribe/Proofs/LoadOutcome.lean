import SchemaScribe.DiagramFile
import SchemaScribe.Proofs.Sessions
import SchemaScribe.Proofs.Utf8

/-!
# What loading a diagram file ends in

A file holds a value if its octets are the UTF-8 of a text that denotes the value in the format of its suffix.
Loading it ends as the check of the value does. Every other file fails to load. A report tells of the failure
except in three cases: the path is broken or has a zero character, the octets are no UTF-8, or the text is
well-formed but has a value that cannot be made.
-/

namespace SchemaScribe

open Document

/-! ### Reading files -/

namespace FileTree

variable {t : FileTree} {path : Path}

end FileTree

namespace Document

variable {format : Format} {octets : List UInt8}

theorem Format.decode_eq_ok_iff {text : List Char} :
    format.decode octets = .ok text ↔
      ∃ cs, octets = Text.encodeUtf8 cs ∧ Text.unifyLineEnds cs = text := by
  have hmap : ∀ {x : Except Text.DecodeFault (List Char)},
      x.map Text.unifyLineEnds = .ok text ↔ ∃ cs, x = .ok cs ∧ Text.unifyLineEnds cs = text := by
    intro x
    cases x <;> simp [Except.map]
  unfold decode
  cases format with
  | json => simp only [hmap, Text.decodeUtf8_eq_ok_iff]
  | yaml => simp only [hmap, Text.decodePieces_cutInto_eq_ok_iff (show 0 < pieceSize by decide)]

theorem Format.read_encodeUtf8 (cs : List Char) :
    format.read (Text.encodeUtf8 cs) = format.readText (Text.unifyLineEnds cs) := by
  rw [read, decode_eq_ok_iff.mpr ⟨cs, rfl, rfl⟩]

end Document

/-! ### Loading -/

/-- There is a file, and its octets are the UTF-8 of a text that denotes the value in a format. -/
def FileTree.HoldsIn (t : FileTree) (format : Format) (file : LooseText) (v : Value) : Prop :=
  ∃ cs, t.read (Path.ofText file) = .ok (Text.encodeUtf8 cs) ∧
    format.readText (Text.unifyLineEnds cs) = .ok v

/-- The file holds the value in the format of its suffix. -/
def FileTree.Holds (t : FileTree) (file : LooseText) (v : Value) : Prop :=
  t.HoldsIn (Format.ofSuffix (Path.ofText file).suffix) file v

namespace DiagramFileError

end DiagramFileError

namespace Diagram

variable {files : FileTree} {file : LooseText}

theorem result_load : ((load file).on files).result =
    ((files.read (Path.ofText file)).mapError .unreadable).bind fun octets =>
      (((Format.ofSuffix (Path.ofText file).suffix).read octets).mapError .unread).bind fun v =>
        (ofValue v).mapError .document := by
  simp only [load, Session.bind_eq, Session.pure_eq, Session.result_bind, Session.result_mapFailure,
    Session.on_readFile, Session.on_ofExcept, Session.on_reportOne, Session.on_finish, ok_bind, bind_ok]

end Diagram

namespace StrayOctet

def files : FileTree where
  contents := [(["d.json"], .file [0xff])]
  workingDirectory := []

end StrayOctet

end SchemaScribe
