import NodeCoverage.Toml.Node
import NodeCoverage.Toml.Scalar
import NodeCoverage.Toml.Text

/-!
# TOML documents

A document is read in two steps: its text is taken apart into statements, and its table is built
from these. Either step fails if the document is not sound.
-/

namespace NodeCoverage.Toml

/-- Lists, inline tables and dotted keys go less deep than this. -/
def depthLimit : Nat := 80

/-! ## Keys -/

/-- Whether a character may stand in a key without quotes. -/
def isKeyChar (c : Char) : Bool :=
  c.isAlphanum || c = '-' || c = '_'

/-- One part of a key. -/
def simpleKey? (s : List Char) : Option (String × List Char) :=
  match quoted? s with
  | some key => some key
  | none =>
    let key := s.takeWhile isKeyChar
    if key.length = 0 then none else some (String.ofList key, s.dropWhile isKeyChar)

theorem simpleKey?_consumes {s r : List Char} {key : String}
    (h : simpleKey? s = some (key, r)) : r.length < s.length := by
  simp only [simpleKey?] at h
  split at h
  · next hq => cases h; exact quoted?_consumes hq
  · split at h <;> cases h
    have : (s.takeWhile isKeyChar).length + (s.dropWhile isKeyChar).length = s.length := by
      rw [← List.length_append, List.takeWhile_append_dropWhile]
    omega

/-- The parts of a dotted key, with blanks around each. -/
def keyParts (done : List String) (s : List Char) : Option (List String × List Char) :=
  match hk : simpleKey? (skipBlanks s) with
  | none => none
  | some (key, r) =>
    match hr : skipBlanks r with
    | '.' :: rest =>
      have := simpleKey?_consumes hk
      have := skipBlanks_length_le s
      have := skipBlanks_length_le r
      have : (skipBlanks r).length = rest.length + 1 := by rw [hr]; rfl
      keyParts (key :: done) rest
    | rest => some ((key :: done).reverse, rest)
termination_by s.length

/-- A dotted key that is not too long. -/
def key? (s : List Char) : Option (List String × List Char) :=
  (keyParts [] s).filter fun found => found.1.length < depthLimit

theorem keyParts_consumes {done path : List String} {s r : List Char}
    (h : keyParts done s = some (path, r)) : r.length < s.length := by
  fun_induction keyParts done s with
  | case1 => cases h
  | case2 done s key r' hk rest hr h1 h2 h3 h4 ih =>
    have := ih h
    omega
  | case3 done s key r' hk hne =>
    cases h
    have := simpleKey?_consumes hk
    have := skipBlanks_length_le s
    have := skipBlanks_length_le r'
    omega

theorem key?_consumes {path : List String} {s r : List Char} (h : key? s = some (path, r)) :
    r.length < s.length := by
  exact keyParts_consumes (Option.filter_eq_some_iff.1 h).1

/-! ## Lists and inline tables -/

/-- The items of a list from a place on where one may stand, or the closing bracket. -/
def items {α : Type} (item : Scanner α) (done : List α) (s : List Char) :
    Option (List α × List Char) :=
  match hs : skipLines s with
  | ']' :: rest => some (done.reverse, rest)
  | start =>
    match hi : item.scan start with
    | none => none
    | some (a, r) =>
      match hr : skipLines r with
      | ',' :: rest =>
        have := item.consumes hi
        have := skipLines_length_le r
        have := skipLines_length_le s
        have : start.length = (skipLines s).length := by rw [hs]
        have : rest.length + 1 = (skipLines r).length := by rw [hr]; rfl
        items item (a :: done) rest
      | ']' :: rest => some ((a :: done).reverse, rest)
      | _ => none
termination_by s.length

/-- A key, an equals sign and a value. -/
def assignment? {α : Type} (item : Scanner α) (s : List Char) :
    Option ((List String × α) × List Char) :=
  match key? s with
  | some (path, '=' :: rest) => (item.scan (skipBlanks rest)).map fun (a, r) => ((path, a), r)
  | _ => none

theorem assignment?_consumes {α : Type} {item : Scanner α} {s r : List Char}
    {p : List String × α} (h : assignment? item s = some (p, r)) : r.length < s.length := by
  unfold assignment? at h
  split at h
  · next path rest hk =>
    obtain ⟨⟨a, r'⟩, hi, hr⟩ := Option.map_eq_some_iff.1 h
    cases hr
    have := key?_consumes hk
    have := item.consumes hi
    have := skipBlanks_length_le rest
    simp only [List.length_cons] at *
    omega
  · cases h

/-- The assignments of an inline table from a place on where one must stand. -/
def inlineEntries {α : Type} (item : Scanner α) (done : List (List String × α))
    (s : List Char) : Option (List (List String × α) × List Char) :=
  match ha : assignment? item s with
  | none => none
  | some (a, r) =>
    match hr : skipBlanks r with
    | ',' :: rest =>
      have := assignment?_consumes ha
      have := skipBlanks_length_le r
      have : rest.length + 1 = (skipBlanks r).length := by rw [hr]; rfl
      inlineEntries item (a :: done) rest
    | '\x7d' :: rest => some ((a :: done).reverse, rest)
    | _ => none
termination_by s.length

/-- An inline table, after its opening bracket. -/
def inlineTable? (item : Scanner Value) (s : List Char) : Option (Value × List Char) :=
  match skipBlanks s with
  | '\x7d' :: rest => some (.table [], rest)
  | start => do
    let (assignments, rest) ← inlineEntries item [] start
    let entries ← Entries.assignAll [] assignments
    some (.table (completeEntries entries), rest)

theorem items_consumes {α : Type} {item : Scanner α} {done xs : List α} {s r : List Char}
    (h : items item done s = some (xs, r)) : r.length < s.length := by
  have le := skipLines_length_le
  fun_induction items item done s with
  | case1 done s rest hs =>
    cases h
    have := le s
    rw [hs] at this
    exact this
  | case2 => cases h
  | case3 done s a r' rest hr h1 h2 h3 hne hi h4 h5 ih =>
    have := ih h
    omega
  | case4 done s a r' rest hr hne hi =>
    cases h
    have := item.consumes hi
    have := le s
    have := le r'
    rw [hr] at this
    simp only [List.length_cons] at this
    omega
  | case5 => cases h

theorem inlineEntries_consumes {α : Type} {item : Scanner α}
    {done xs : List (List String × α)} {s r : List Char}
    (h : inlineEntries item done s = some (xs, r)) : r.length < s.length := by
  fun_induction inlineEntries item done s with
  | case1 => cases h
  | case2 done s a r' ha rest hr h1 h2 h3 ih =>
    have := ih h
    omega
  | case3 done s a r' ha rest hr =>
    cases h
    have := assignment?_consumes ha
    have := skipBlanks_length_le r'
    rw [hr] at this
    simp only [List.length_cons] at this
    omega
  | case4 => cases h

theorem inlineTable?_consumes {item : Scanner Value} {s r : List Char} {v : Value}
    (h : inlineTable? item s = some (v, r)) : r.length < s.length := by
  have := skipBlanks_length_le s
  unfold inlineTable? at h
  split at h
  · next hs =>
    cases h
    rw [hs] at this
    exact this
  · simp only [Option.bind_eq_bind, Option.bind_eq_some_iff, Option.some.injEq,
      Prod.mk.injEq] at h
    obtain ⟨⟨xs, r'⟩, hi, _, _, _, rfl⟩ := h
    exact Nat.lt_of_lt_of_le (inlineEntries_consumes hi) this

/-! ## Values -/

/-- A value in which brackets are nested at most `depth` deep. -/
def value : (depth : Nat) → Scanner Value
  | 0 => {
      scan := fun s =>
        match text? s with
        | some (t, r) => some (.text t, r)
        | none => scalar? s
      consumes := fun {s r v} h => by
        split at h
        · next ht => cases h; exact text?_consumes ht
        · exact scalar?_consumes h }
  | depth + 1 => {
      scan := fun s =>
        match s with
        | '[' :: rest => (items (value depth) [] rest).map fun (vs, r) => (.list vs, r)
        | '\x7b' :: rest => inlineTable? (value depth) rest
        | s => (value 0).scan s
      consumes := fun {s r v} h => by
        split at h
        · obtain ⟨⟨vs, r'⟩, hi, hr⟩ := Option.map_eq_some_iff.1 h
          cases hr
          exact Nat.lt_succ_of_lt (items_consumes hi)
        · exact Nat.lt_succ_of_lt (inlineTable?_consumes h)
        · exact (value 0).consumes h }

/-! ## Statements -/

/-- What a header opens. -/
inductive Header where
  /-- A table. -/
  | table (path : List String)
  /-- A table in an array of tables. -/
  | element (path : List String)

/-- A line of a document that says something. -/
inductive Statement where
  /-- A value for a key. -/
  | assignment (path : List String) (v : Value)
  | header (h : Header)

/-- Takes a statement without the end of its line. -/
def statement? (s : List Char) : Option (Statement × List Char) :=
  match s with
  | '[' :: '[' :: rest =>
    match key? rest with
    | some (path, ']' :: ']' :: r) => some (.header (.element path), r)
    | _ => none
  | '[' :: rest =>
    match key? rest with
    | some (path, ']' :: r) => some (.header (.table path), r)
    | _ => none
  | s => (assignment? (value (depthLimit - 1)) s).map fun ((path, v), r) => (.assignment path v, r)

theorem statement?_consumes {s r : List Char} {a : Statement}
    (h : statement? s = some (a, r)) : r.length < s.length := by
  unfold statement? at h
  split at h
  · split at h
    · next hk =>
      cases h
      have := key?_consumes hk
      simp only [List.length_cons] at *
      omega
    · cases h
  · split at h
    · next hk =>
      cases h
      have := key?_consumes hk
      simp only [List.length_cons] at *
      omega
    · cases h
  · obtain ⟨⟨p, r'⟩, ha, hr⟩ := Option.map_eq_some_iff.1 h
    cases hr
    exact assignment?_consumes ha

/-- Whether a line says nothing, by its first character after the blanks. -/
def startsEmptyLine (c : Char) : Bool :=
  c = '#' || c = '\n' || c = '\r'

theorem lineEnd?_of_startsEmptyLine {c : Char} {rest r : List Char}
    (hc : startsEmptyLine c = true) (h : lineEnd? (c :: rest) = some r) :
    r.length ≤ rest.length := by
  simp only [startsEmptyLine, Bool.or_eq_true, decide_eq_true_eq] at hc
  unfold lineEnd? at h
  rcases hc with (rfl | rfl) | rfl
  · have hs : skipComment (skipBlanks ('#' :: rest)) = rest.dropWhile isText := rfl
    have := (List.dropWhile_suffix (l := rest) isText).length_le
    rw [hs] at h
    split at h
    · cases h; exact Nat.zero_le _
    · have := newline?_consumes h
      omega
  · cases h; exact Nat.le_refl _
  · have hs : skipComment (skipBlanks ('\r' :: rest)) = '\r' :: rest := rfl
    rw [hs] at h
    exact Nat.le_of_lt_succ (newline?_consumes h)

/-- The statements of a text, put in reverse before `done`. -/
def statements (done : List Statement) (s : List Char) : Option (List Statement) :=
  match hs : skipBlanks s with
  | [] => some done.reverse
  | c :: rest =>
    have le : rest.length < s.length := by
      have := skipBlanks_length_le s
      rw [hs] at this
      exact this
    if hc : startsEmptyLine c then
      match he : lineEnd? (c :: rest) with
      | none => none
      | some r =>
        have := lineEnd?_of_startsEmptyLine hc he
        statements done r
    else
      match hp : statement? (c :: rest) with
      | none => none
      | some (a, r) =>
        match he : lineEnd? r with
        | none => none
        | some r' =>
          have := statement?_consumes hp
          have := lineEnd?_length_le he
          have : (c :: rest).length = rest.length + 1 := rfl
          statements (a :: done) r'
termination_by s.length

/-! ## Documents -/

/-- The assignments before the first header, and each header with those below it. -/
def group :
    List Statement → List (List String × Value) × List (Header × List (List String × Value))
  | [] => ([], [])
  | .assignment path v :: rest => ((path, v) :: (group rest).1, (group rest).2)
  | .header h :: rest => ([], (h, (group rest).1) :: (group rest).2)

/-- Adds what a header opens. -/
def Entries.addSection (root : Entries) : Header × List (List String × Value) → Option Entries
  | (.table path, assignments) => root.addTable path assignments
  | (.element path, assignments) => root.addElement path assignments

/-- The root table of the statements of a document. -/
def Entries.ofStatements (ss : List Statement) : Option Entries := do
  let root ← Entries.assignAll [] (group ss).1
  (group ss).2.foldlM Entries.addSection root

/-- The text of a document without the byte order mark that it may start with. -/
def dropMark : List Char → List Char
  | '\uFEFF' :: rest => rest
  | s => s

/-- The entries of the root table of a document, if it is sound. -/
def parse? (document : String) : Option (List (String × Value)) := do
  let ss ← statements [] (dropMark document.toList)
  let root ← Entries.ofStatements ss
  some (completeEntries root)

end NodeCoverage.Toml
