import CheckScript.Source.Layout
import CheckScript.Text.Outline
import CheckScript.Text.Quoted

/-!
# The outline of a script

A script shown as the tree that was read from it, with the place of every part.
-/

namespace CheckScript

open Text

/-- A span as its two ends with dots between them. -/
def Span.outline (span : Span) : Outline :=
  .atom (toString span.start ++ ".." ++ toString span.stop).toList

/-- A line with its fields. -/
def Line.outline (line : Line) : Outline :=
  .record "Line".toList [
    ("text".toList, .atom (showQuoted line.text)),
    ("indent".toList, .atom (toString line.indent).toList),
    ("span".toList, line.span.outline)]

/-- A block of which the nodes are shown already. -/
def blockOutline (span : Span) (nodes : List Outline) : Outline :=
  .record "Block".toList [("nodes".toList, .list nodes), ("span".toList, span.outline)]

mutual

/-- A node as a line or a block. -/
def Node.outline : Node → Outline
  | .line l => .variant "Line".toList l.outline
  | .block nodes =>
    .variant "Block".toList (blockOutline (Block.span nodes) (Block.outlines nodes))

/-- The nodes of a block. -/
def Block.outlines : List Node → List Outline
  | [] => []
  | node :: nodes => node.outline :: Block.outlines nodes

end

/-- The outline of a script. -/
def Script.outline (script : Script) : String :=
  String.ofList (Outline.render 0 (.record "Script".toList [
    ("root".toList, blockOutline (Block.span script.root) (Block.outlines script.root)),
    ("source_id".toList, .atom (toString script.source).toList)]))

end CheckScript
