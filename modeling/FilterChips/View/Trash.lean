/-
FilterChips.View.Trash — the place where a dragged chip is dropped to delete it.
-/
import FilterChips.Screen.Paragraph

namespace FilterChips

/-- The trash: grey while nothing is dragged (`armed`), red during a drag, and filled with red while
the pointer is over it (`hovered`). -/
def trashParagraph (armed hovered : Bool) : Paragraph :=
  let style : Style :=
    match armed, hovered with
    | true, true => ((Style.colored .white).on .red).bold
    | true, false => .colored .red
    | false, _ => .colored .darkGray
  { text := "✕ Trash"
    style
    alignment := .center
    box := some (.untitled (if armed && hovered then .thick else .plain) style) }

end FilterChips
