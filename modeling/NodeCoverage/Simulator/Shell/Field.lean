import NodeCoverage.Simulator.Shell.Pattern

/-!
# Fields

How the pieces that a word expands to fall into fields: only what an expansion outside of quotes
put there is split, at the separators, of which blanks come together and others count each.
-/

namespace NodeCoverage.Simulator.Shell

/-- A piece of an expanded word. -/
inductive Piece where
  /-- A character; `splits` if it separates fields where it is a separator. -/
  | char (c : Char) (quoted splits : Bool)
  /-- Quotes, which make a field even if nothing is in them. -/
  | mark
  /-- The border between two arguments. -/
  | cut
  deriving DecidableEq, Repr

namespace Piece

/-- The pieces of a value that takes the place of a parameter. -/
def ofValue (quoted : Bool) (s : String) : List Piece :=
  s.toList.map fun c => .char c quoted (!quoted)

/-- The pieces of values that make fields of their own. -/
def ofValues (quoted : Bool) (values : List String) : List Piece :=
  [cut].intercalate <| values.map fun s =>
    if quoted then mark :: ofValue true s else ofValue false s

/-- The characters of pieces that are not split, with a text at each border. -/
def glyphs (border : List Char) (ps : List Piece) : List Glyph :=
  ps.flatMap fun
    | .char c quoted _ => [⟨c, quoted⟩]
    | .cut => border.map (⟨·, true⟩)
    | .mark => []

end Piece

/-- The fields so far and the field at hand, all in reverse. -/
structure Splitting where
  done : List (List Glyph) := []
  current : Option (List Glyph) := none
  /-- Whether blanks ended the last field, so that one separator more belongs to them. -/
  pending : Bool := false

namespace Splitting

/-- Ends the field at hand. -/
def flush (s : Splitting) : Splitting :=
  match s.current with
  | none => s
  | some glyphs => { s with done := glyphs.reverse :: s.done, current := none }

/-- Takes a piece. -/
def take (separators : List Char) (s : Splitting) : Piece → Splitting
  | .mark => { s with current := some (s.current.getD []), pending := false }
  | .cut => { s.flush with pending := s.pending || s.current.isSome }
  | .char c quoted splits =>
    if splits && separators.contains c then
      if c = ' ' ∨ c = '\t' ∨ c = '\n' then
        if s.current.isSome then { s.flush with pending := true } else s
      else if s.current.isSome then { s.flush with pending := false }
      else if s.pending then { s with pending := false }
      else { s with done := [] :: s.done }
    else { s with current := some (⟨c, quoted⟩ :: s.current.getD []), pending := false }

end Splitting

/-- The fields of pieces. -/
def splitFields (separators : List Char) (ps : List Piece) : List (List Glyph) :=
  (ps.foldl (Splitting.take separators) ({} : Splitting)).flush.done.reverse

end NodeCoverage.Simulator.Shell
