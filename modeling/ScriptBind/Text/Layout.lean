/-!
# The Layout of C Text

Generated code is put together from lines. A piece of code is a list of lines
without their line breaks, so pieces are joined by appending lists, and the
line breaks are written once, at the end, by `unlines`.

Two shapes recur in every piece: a body between braces, one step further in,
and a comment block with a star before each line.

## Main definitions

* `unlines`: Lines as one text, each line closed by a line break.
* `indented`: A line moved in by one step.
* `enclosed`, `braced`: A body between two lines, or two braces.
* `headed`: A body between braces after its head.
* `row`: Items between braces on one line.
* `starred`, `comment`: Comment lines and a comment block.

## Theorems

* `unlines_append`: The text of appended pieces is the appended text.
-/

namespace ScriptBind

namespace Text

/-- Lines as one text, each closed by a line break. -/
def unlines (lines : List String) : String :=
  lines.foldl (fun text line => text ++ line ++ "\n") ""

theorem foldl_lines (start : String) (lines : List String) :
    lines.foldl (fun text line => text ++ line ++ "\n") start = start ++ unlines lines := by
  induction lines generalizing start with
  | nil => simp [unlines]
  | cons line rest ih =>
    have h : unlines (line :: rest) = "" ++ line ++ "\n" ++ unlines rest := ih _
    rw [List.foldl_cons, ih, h, String.empty_append, String.append_assoc, String.append_assoc,
      String.append_assoc]

/-- The text of appended pieces is the appended text. -/
theorem unlines_append (front back : List String) :
    unlines (front ++ back) = unlines front ++ unlines back := by
  rw [unlines, List.foldl_append, foldl_lines, foldl_lines, String.empty_append]

/-- A line moved in by one step of four blanks; an empty line stays empty. -/
def indented (line : String) : String := if line = "" then "" else "    " ++ line

/-- A body between an opening and a closing line, one step further in. -/
def enclosed (opening : String) (body : List String) (closing : String) : List String :=
  opening :: body.map indented ++ [closing]

/-- A body between braces that stand on lines of their own. -/
def braced (body : List String) : List String := enclosed "\x7b" body "\x7d"

/-- A body that belongs to a head. -/
def headed (head : String) (body : List String) : List String := head :: braced body

/-- Items between braces on one line. -/
def row (items : List String) : String :=
  "\x7b " ++ ", ".intercalate items ++ " \x7d"

/-- A line of a comment block. -/
def starred (text : String) : String := " * " ++ text

/-- A comment block. -/
def comment (texts : List String) : List String :=
  "/*" :: texts.map starred ++ [" */"]

end Text

end ScriptBind
