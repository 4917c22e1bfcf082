import SchemaScribe.Proofs.LineBreaks
import SchemaScribe.Source

/-!
# The lines of comments

The lines of a comment are its pieces between line breaks, each behind a mark. No piece has a line feed, but a
carriage return that is not followed by a line feed is no line break here, although it ends a line of source. So
all lines of a comment stay on one line of source exactly if there is no such carriage return in the trimmed
text.
-/

namespace SchemaScribe.Source

open Text

/-- The text ends no line of source. -/
structure OnOneLine (cs : List Char) : Prop where
  lineFeed : '\n' ∉ cs
  carriageReturn : '\r' ∉ cs

theorem onOneLine_append_iff {front back : List Char} :
    OnOneLine (front ++ back) ↔ OnOneLine front ∧ OnOneLine back := by
  constructor
  · rintro ⟨hfeed, hreturn⟩
    rw [List.mem_append, not_or] at hfeed hreturn
    exact ⟨⟨hfeed.1, hreturn.1⟩, hfeed.2, hreturn.2⟩
  · rintro ⟨⟨hfeed, hreturn⟩, hfeed', hreturn'⟩
    exact ⟨List.not_mem_append hfeed hfeed', List.not_mem_append hreturn hreturn'⟩

/-- The pieces of a comment between its line breaks. A blank comment has none. -/
def commentPieces (comment : String) : List (List Char) :=
  let body := trimBy isBlank (replaceLineBreaks '\n' comment.toList)
  if body = [] then [] else splitOn '\n' body

def commentLine (indentation : String) (piece : List Char) : String :=
  indentation ++ "# " ++ String.ofList piece

variable {comment indentation : String} {piece : List Char}

theorem commentLines_eq (comment : Option String) (indentation : String) :
    commentLines comment indentation = (commentPieces (comment.getD "")).map (commentLine indentation) := by
  cases comment with
  | none => rfl
  | some comment =>
      unfold commentLines commentPieces
      simp only [List.isEmpty_iff, Option.getD_some]
      split <;> rfl

theorem trimBy_comment (comment : String) :
    trimBy isBlank (replaceLineBreaks '\n' comment.toList) =
      replaceLineBreaks '\n' (trimBy isBlank comment.toList) :=
  trimBy_replaceLineBreaks (by decide) (by decide) (by decide)

theorem commentPieces_eq_nil_iff : commentPieces comment = [] ↔ ∀ c ∈ comment.toList, isBlank c = true := by
  rw [← trimBy_eq_nil_iff, ← replaceLineBreaks_eq_nil_iff, ← trimBy_comment, commentPieces]
  by_cases hbody : trimBy isBlank (replaceLineBreaks '\n' comment.toList) = []
  · rw [if_pos hbody]
    exact iff_of_true rfl hbody
  · rw [if_neg hbody]
    exact iff_of_false (splitOn_ne_nil _ _) hbody

theorem joinWith_commentPieces (comment : String) :
    joinWith ['\n'] (commentPieces comment) = trimBy isBlank (replaceLineBreaks '\n' comment.toList) := by
  rw [commentPieces]
  split
  · rename_i hbody
    rw [hbody]
    rfl
  · exact joinWith_splitOn '\n' _

theorem lineFeed_not_mem_of_mem_commentPieces (h : piece ∈ commentPieces comment) : '\n' ∉ piece := by
  rw [commentPieces] at h
  split at h
  · exact absurd h List.not_mem_nil
  · exact separator_not_mem_of_mem_splitOn h

theorem forall_onOneLine_commentPieces_iff :
    (∀ piece ∈ commentPieces comment, OnOneLine piece) ↔ ReturnsPaired (trimBy isBlank comment.toList) := by
  have hreturns : (∃ piece ∈ commentPieces comment, '\r' ∈ piece) ↔
      '\r' ∈ trimBy isBlank (replaceLineBreaks '\n' comment.toList) := by
    rw [commentPieces]
    split
    · rename_i hbody
      simp [hbody]
    · exact exists_mem_splitOn_iff (by decide)
  rw [← return_not_mem_replaceLineBreaks_iff (r := '\n') (by decide), ← trimBy_comment, ← hreturns]
  constructor
  · rintro h ⟨piece, hpiece, hmem⟩
    exact (h piece hpiece).carriageReturn hmem
  · intro h piece hpiece
    exact ⟨lineFeed_not_mem_of_mem_commentPieces hpiece, fun hmem => h ⟨piece, hpiece, hmem⟩⟩

theorem onOneLine_commentLine_iff :
    OnOneLine (commentLine indentation piece).toList ↔ OnOneLine indentation.toList ∧ OnOneLine piece := by
  have hmark : OnOneLine "# ".toList := ⟨by decide, by decide⟩
  rw [commentLine, String.toList_append, String.toList_append, onOneLine_append_iff, onOneLine_append_iff,
    and_iff_left hmark, String.toList_ofList]

/-- **Comments.** The lines of a comment are pieces of it behind the indentation and a mark. Joined by line feeds
the pieces are the comment, trimmed as a whole and with its line breaks replaced; there are none exactly if it
is blank; and none has a line feed. Every line stays on one line of source exactly if the indentation does and
each carriage return within the trimmed comment is followed by a line feed. -/
theorem comment_lines_on_one_line_iff (comment : Option String) (indentation : String) :
    ∃ pieces : List (List Char),
      commentLines comment indentation =
        pieces.map (fun piece => indentation ++ "# " ++ String.ofList piece) ∧
      joinWith ['\n'] pieces = trimBy isBlank (replaceLineBreaks '\n' (comment.getD "").toList) ∧
      (pieces = [] ↔ ∀ c ∈ (comment.getD "").toList, isBlank c = true) ∧
      (∀ piece ∈ pieces, '\n' ∉ piece) ∧
      ((∀ line ∈ commentLines comment indentation, OnOneLine line.toList) ↔
        pieces = [] ∨
          OnOneLine indentation.toList ∧ ReturnsPaired (trimBy isBlank (comment.getD "").toList)) := by
  refine ⟨_, commentLines_eq comment indentation, joinWith_commentPieces _, commentPieces_eq_nil_iff,
    fun _ => lineFeed_not_mem_of_mem_commentPieces, ?_⟩
  rw [commentLines_eq, List.forall_mem_map, ← forall_onOneLine_commentPieces_iff]
  simp only [onOneLine_commentLine_iff]
  by_cases hnone : commentPieces (comment.getD "") = []
  · simp [hnone]
  · obtain ⟨first, hfirst⟩ := List.exists_mem_of_ne_nil _ hnone
    rw [or_iff_right hnone]
    constructor
    · intro h
      exact ⟨(h first hfirst).1, fun piece hpiece => (h piece hpiece).2⟩
    · rintro ⟨hindentation, h⟩ piece hpiece
      exact ⟨hindentation, h piece hpiece⟩

/-- A carriage return within a comment ends the line, and what follows it is source. -/
theorem statement_behind_return :
    commentLines (some "a\rimport os") indent = ["    # a\rimport os"] ∧
      ¬ OnOneLine "    # a\rimport os".toList :=
  ⟨by decide, fun h => h.carriageReturn (by decide)⟩

end SchemaScribe.Source
