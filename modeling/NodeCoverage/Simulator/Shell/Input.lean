import NodeCoverage.Simulator.Shell.Report

/-!
# Input

How a line is read into variables: it falls into fields, and all that is left goes to the last
variable.
-/

namespace NodeCoverage.Simulator.Shell

namespace State

/-- The characters of a line, and whether each is quoted by a backslash; `raw` if backslashes mean
nothing, `escaped` if one came just before. Null characters count for nothing, and so does a
backslash that nothing follows. Also how many characters were taken, and whether the line has an
end. -/
def takeLine (raw escaped : Bool) : List Char → List Glyph × Nat × Bool
  | [] => ([], 0, false)
  | c :: rest =>
    if c = '\x00' then
      let (more, n, ended) := takeLine raw escaped rest
      (more, n + 1, ended)
    else if escaped then
      let (more, n, ended) := takeLine raw false rest
      (if c = '\n' then more else ⟨c, true⟩ :: more, n + 1, ended)
    else if c = '\n' then ([], 1, true)
    else if c = '\\' ∧ !raw then
      let (more, n, ended) := takeLine raw true rest
      (more, n + 1, ended)
    else
      let (more, n, ended) := takeLine raw false rest
      (⟨c, false⟩ :: more, n + 1, ended)

/-- What the last variable keeps of a line from its first separator on. `held` is what goes if
nothing that counts follows: blank separators, with one other among them while `spaced`, and any
quoted characters after them. -/
def kept (separators : List Char) : Bool → List Glyph → List Glyph → List Glyph
  | _, _, [] => []
  | spaced, held, g :: rest =>
    let separates := separators.contains g.char
    if g.quoted then
      if held.isEmpty then g :: kept separators false [] rest
      else kept separators false (held ++ [g]) rest
    else if separates && isSpace g.char then kept separators spaced (held ++ [g]) rest
    else if separates && spaced then kept separators false (held ++ [g]) rest
    else held ++ g :: kept separators false [] rest

/-- The values that a line gives to some variables: a field to each, and all that is left to the
last. -/
def distribute (separators : List Char) : List String → List Glyph → List (String × String)
  | [], _ => []
  | name :: names, s =>
    let separates := fun (g : Glyph) => !g.quoted && separators.contains g.char
    let blank := fun (g : Glyph) => separates g && isSpace g.char
    let s := s.dropWhile blank
    let field := s.takeWhile (!separates ·)
    let rest := s.drop field.length
    if names.isEmpty then
      let more :=
        match rest with
        | g :: more => kept separators (isSpace g.char) [g] more
        | [] => []
      [(name, glyphText (field ++ more))]
    else
      let rest := rest.dropWhile blank
      let rest :=
        match rest with
        | g :: more => if separates g then more else rest
        | [] => []
      (name, glyphText field) :: distribute separators names rest

/-- Reads a line into variables. -/
def readVariables (st : State) (arguments : List String) : State :=
  st.withOptions "read" "p:r" arguments fun given =>
    if given.rest.isEmpty then st.refuse "read" "arg count"
    else
      let bytes := st.readable 0
      let text := (textOfBytes bytes).toList
      let (line, count, ended) := takeLine (given.has 'r') false text
      let size := if (Text.ofUtf8? bytes).isSome then
          (Text.utf8 (String.ofList (text.take count))).length
        else count
      let st := (distribute st.separators given.rest line).foldl
        (fun st (name, value) =>
          if !st.goesOn then st
          else if !isName name then st.fail s!"{name}: bad variable name"
          else st.assign name value)
        (st.skip 0 size)
      if st.goesOn then st.done (if ended then 0 else 1) else st

end State

end NodeCoverage.Simulator.Shell
