/-!
Palettes: the colors that groups take in turn.
-/

namespace Flowchart

/-- At least one color. -/
structure Palette where
  first : String
  others : List String
deriving Repr, Inhabited, DecidableEq

namespace Palette

/-- The colors in order. -/
def colors (palette : Palette) : List String :=
  palette.first :: palette.others

/-- The palette of a list of colors, unless it is empty. -/
def ofList? : List String → Option Palette
  | [] => none
  | first :: others => some ⟨first, others⟩

/-- The colors of groups when none are given. -/
def standard : Palette :=
  ⟨"#fef3c7", ["#dbeafe", "#dcfce7", "#fce7f3", "#e0e7ff"]⟩

/-- The color at an index. The colors repeat without end in both directions. -/
def color (palette : Palette) (index : Int) : String :=
  palette.colors.getD (index % palette.colors.length).toNat palette.first

end Palette

end Flowchart
