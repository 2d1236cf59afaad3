import NodeCoverage.Toml.Scanner

/-!
# TOML strings

Basic strings take escapes and literal strings take none. Both have a form that runs over several
lines, in which a newline is always a line feed, a first newline is left out, and one or two quotes
may stand before the three that close it.
-/

namespace NodeCoverage.Toml

/-! ## Escapes -/

/-- The value of a hexadecimal digit. -/
def hexValue? (c : Char) : Option Nat :=
  if '0' ≤ c ∧ c ≤ '9' then some (c.toNat - 0x30)
  else if 'a' ≤ c ∧ c ≤ 'f' then some (c.toNat - 0x57)
  else if 'A' ≤ c ∧ c ≤ 'F' then some (c.toNat - 0x37)
  else none

/-- The character whose code point has `count` hexadecimal digits. -/
def codePoint? (count : Nat) (s : List Char) : Option (Char × List Char) :=
  let digits := s.take count
  match digits.foldlM (fun n c => (hexValue? c).map (16 * n + ·)) 0 with
  | none => none
  | some n =>
    if digits.length = count ∧ n.isValidChar then some (Char.ofNat n, s.drop count) else none

/-- An escape, after the backslash. -/
def escape? : List Char → Option (Char × List Char)
  | 'b' :: rest => some ('\x08', rest)
  | 'f' :: rest => some ('\x0C', rest)
  | 'n' :: rest => some ('\n', rest)
  | 'r' :: rest => some ('\r', rest)
  | 't' :: rest => some ('\t', rest)
  | '"' :: rest => some ('"', rest)
  | '\\' :: rest => some ('\\', rest)
  | 'u' :: rest => codePoint? 4 rest
  | 'U' :: rest => codePoint? 8 rest
  | _ => none

theorem codePoint?_length_le {count : Nat} {s r : List Char} {c : Char}
    (h : codePoint? count s = some (c, r)) : r.length ≤ s.length := by
  unfold codePoint? at h
  dsimp only at h
  split at h
  · cases h
  · split at h
    · cases h
      exact (List.drop_suffix count s).length_le
    · cases h

theorem escape?_consumes {s r : List Char} {c : Char} (h : escape? s = some (c, r)) :
    r.length < s.length := by
  unfold escape? at h
  split at h
  case h_8 => exact Nat.lt_succ_of_le (codePoint?_length_le h)
  case h_9 => exact Nat.lt_succ_of_le (codePoint?_length_le h)
  all_goals first | (cases h; simp) | cases h

/-! ## Strings on one line -/

/-- The characters of a basic string up to its closing quote, put in reverse before `done`. -/
def basicRest (done s : List Char) : Option (String × List Char) :=
  match s with
  | [] => none
  | c :: rest =>
    if c = '"' then some (String.ofList done.reverse, rest)
    else if c = '\\' then
      match h : escape? rest with
      | none => none
      | some (e, r) =>
        have := escape?_consumes h
        basicRest (e :: done) r
    else if isText c then basicRest (c :: done) rest
    else none
termination_by s.length

/-- The characters of a literal string up to its closing quote. -/
def literalRest (s : List Char) : Option (String × List Char) :=
  match s.dropWhile fun c => isText c && c ≠ '\'' with
  | '\'' :: rest => some (String.ofList (s.takeWhile fun c => isText c && c ≠ '\''), rest)
  | _ => none

/-! ## Strings on several lines -/

/-- The text without a newline at its start. -/
def dropNewline (s : List Char) : List Char :=
  (newline? s).getD s

/-- The text after the blanks and newlines at its start. -/
def skipWhite : List Char → List Char
  | ' ' :: rest => skipWhite rest
  | '\t' :: rest => skipWhite rest
  | '\n' :: rest => skipWhite rest
  | '\r' :: '\n' :: rest => skipWhite rest
  | s => s

/-- What a backslash at the end of a line leaves: the text from the next character that is neither
a blank nor a newline. -/
def continuation? (s : List Char) : Option (List Char) :=
  (newline? (skipBlanks s)).map skipWhite

/-- Takes the quotes that close a string of several lines: three, and before them up to two that
belong to it. The characters so far are in reverse. -/
def closing? (quote : Char) (done s : List Char) : Option (String × List Char) :=
  let quotes := s.takeWhile (· = quote)
  if quotes.length < 3 then none
  else
    let kept := min (quotes.length - 3) 2
    some (String.ofList ((List.replicate kept quote ++ done).reverse), s.drop (kept + 3))

theorem skipWhite_length_le (s : List Char) : (skipWhite s).length ≤ s.length := by
  fun_induction skipWhite s <;> simp_all <;> omega

theorem continuation?_length_le {s r : List Char} (h : continuation? s = some r) :
    r.length < s.length := by
  obtain ⟨t, ht, rfl⟩ := Option.map_eq_some_iff.1 h
  have := newline?_consumes ht
  have := skipBlanks_length_le s
  have := skipWhite_length_le t
  omega

theorem closing?_consumes {quote : Char} {done s r : List Char} {t : String}
    (h : closing? quote done s = some (t, r)) : r.length < s.length := by
  simp only [closing?] at h
  split at h
  · cases h
  · next hq =>
    cases h
    have := (List.takeWhile_prefix (l := s) (· = quote)).length_le
    simp only [List.length_drop]
    omega

/-- The characters of a basic string of several lines. -/
def longBasicRest (done s : List Char) : Option (String × List Char) :=
  match s with
  | [] => none
  | c :: rest =>
    match closing? '"' done (c :: rest) with
    | some closed => some closed
    | none =>
      if c = '\\' then
        match h : continuation? rest with
        | some r =>
          have := continuation?_length_le h
          longBasicRest done r
        | none =>
          match h : escape? rest with
          | none => none
          | some (e, r) =>
            have := escape?_consumes h
            longBasicRest (e :: done) r
      else
        match h : newline? (c :: rest) with
        | some r =>
          have : r.length < rest.length + 1 := newline?_consumes h
          longBasicRest ('\n' :: done) r
        | none => if isText c then longBasicRest (c :: done) rest else none
termination_by s.length

/-- The characters of a literal string of several lines. -/
def longLiteralRest (done s : List Char) : Option (String × List Char) :=
  match s with
  | [] => none
  | c :: rest =>
    match closing? '\'' done (c :: rest) with
    | some closed => some closed
    | none =>
      match h : newline? (c :: rest) with
      | some r =>
        have : r.length < rest.length + 1 := newline?_consumes h
        longLiteralRest ('\n' :: done) r
      | none => if isText c then longLiteralRest (c :: done) rest else none
termination_by s.length

/-! ## All forms -/

/-- A string on one line, as it may also be a key. -/
def quoted? : List Char → Option (String × List Char)
  | '"' :: rest => basicRest [] rest
  | '\'' :: rest => literalRest rest
  | _ => none

/-- A string of any form. -/
def text? : List Char → Option (String × List Char)
  | '"' :: '"' :: '"' :: rest => longBasicRest [] (dropNewline rest)
  | '\'' :: '\'' :: '\'' :: rest => longLiteralRest [] (dropNewline rest)
  | s => quoted? s

theorem basicRest_consumes {done s r : List Char} {t : String}
    (h : basicRest done s = some (t, r)) : r.length < s.length := by
  fun_induction basicRest done s <;> simp_all <;> omega

theorem literalRest_consumes {s r : List Char} {t : String}
    (h : literalRest s = some (t, r)) : r.length < s.length := by
  unfold literalRest at h
  split at h
  · next rest hd =>
    cases h
    have := (List.dropWhile_suffix (l := s) fun c => isText c && c ≠ '\'').length_le
    rw [hd] at this
    exact this
  · cases h

theorem longBasicRest_consumes {done s r : List Char} {t : String}
    (h : longBasicRest done s = some (t, r)) : r.length < s.length := by
  fun_induction longBasicRest done s with
  | case2 done c rest closed hc => cases h; exact closing?_consumes hc
  | _ => simp_all <;> omega

theorem longLiteralRest_consumes {done s r : List Char} {t : String}
    (h : longLiteralRest done s = some (t, r)) : r.length < s.length := by
  fun_induction longLiteralRest done s with
  | case2 done c rest closed hc => cases h; exact closing?_consumes hc
  | _ => simp_all <;> omega

theorem quoted?_consumes {s r : List Char} {t : String} (h : quoted? s = some (t, r)) :
    r.length < s.length := by
  unfold quoted? at h
  split at h
  · exact Nat.lt_succ_of_lt (basicRest_consumes h)
  · exact Nat.lt_succ_of_lt (literalRest_consumes h)
  · cases h

theorem dropNewline_length_le (s : List Char) : (dropNewline s).length ≤ s.length := by
  unfold dropNewline
  cases h : newline? s with
  | none => exact Nat.le_refl _
  | some r => exact Nat.le_of_lt (newline?_consumes h)

theorem text?_consumes {s r : List Char} {t : String} (h : text? s = some (t, r)) :
    r.length < s.length := by
  unfold text? at h
  split at h
  · next rest =>
    have := longBasicRest_consumes h
    have := dropNewline_length_le rest
    simp only [List.length_cons]; omega
  · next rest =>
    have := longLiteralRest_consumes h
    have := dropNewline_length_le rest
    simp only [List.length_cons]; omega
  · exact quoted?_consumes h

end NodeCoverage.Toml
