import JobWatch.Display.View

/-!
Frames: the text of a view, one line for the header, one for every row, and an empty one at the end
of the final frame. Labels are padded to one width, counted in characters. Colour adds control
sequences around the header's glyphs and around values, and nothing else.
-/

namespace JobWatch

/-- Whether frames are coloured. -/
structure Theme where
  color : Bool
  deriving Repr, DecidableEq, Inhabited

namespace Theme

/-- A control sequence that selects a graphic rendition. -/
def rendition (codes : String) : String := "\x1b[" ++ codes ++ "m"

/-- The glyphs of the header. -/
def accent (t : Theme) (s : String) : String :=
  if t.color then rendition "38;5;205" ++ s ++ rendition "39" else s

/-- The values of the table. -/
def value (t : Theme) (s : String) : String :=
  if t.color then rendition "38;5;15" ++ rendition "1" ++ s ++ rendition "0" else s

end Theme

namespace View

def successGlyphs : String := "✔✔✔"

def failureGlyphs : String := "✗✗✗"

def headerText (t : Theme) : Header → String
  | .spinner frame => t.accent frame
  | .success => t.accent successGlyphs
  | .failure => t.accent failureGlyphs
  | .blank => ""

/-- The width of the longest label. -/
def labelWidth (rows : List Row) : Nat := (rows.map (·.label.length)).foldr max 0

def padded (width : Nat) (label : String) : String :=
  label ++ String.ofList (List.replicate (width - label.length) ' ')

def rowText (t : Theme) (width : Nat) (r : Row) : String :=
  padded width r.label ++ "\t" ++ t.value r.value ++ "\n"

def frame (v : View) (t : Theme) : String :=
  headerText t v.header ++ "\n" ++
    String.join (v.rows.map (rowText t (labelWidth v.rows))) ++
    (if v.trailingBlank then "\n" else "")

end View

end JobWatch
