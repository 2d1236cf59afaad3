import Mathlib
import NodeCoverage.Proofs.Toml.Grammar

/-!
# Scanning blanks, strings and keys

The scanners take off the front of a text what the grammar says is there. Where the end of a thing
depends on what comes after it, that is a hypothesis about the rest.

Results:
* `Blanks.lineEnd?_eq`, `Gap.skipLines_cons`: what says nothing is passed over;
* `Chars.basicRest_eq`, `Chars.text?_eq`: a basic string is read as the text that its characters
  make up;
* `Key.simpleKey?_eq`, `Path.keyParts_eq`: keys and dotted keys are read as they are written;
* `Path.keyParts_extends`: a text that begins with dotted keys is read as these and perhaps more.
-/

namespace NodeCoverage.Toml

/-! ## Runs of characters -/

section Runs

variable {p : Char → Bool} {s t : List Char}

theorem takeWhile_append_eq (hs : ∀ c ∈ s, p c = true) (ht : ∀ c ∈ t.head?, p c = false) :
    (s ++ t).takeWhile p = s := by
  rw [List.takeWhile_append_of_pos hs]
  cases t with
  | nil => exact List.append_nil s
  | cons c t => rw [List.takeWhile_cons_of_neg (by simp [ht c rfl]), List.append_nil]

theorem dropWhile_append_eq (hs : ∀ c ∈ s, p c = true) (ht : ∀ c ∈ t.head?, p c = false) :
    (s ++ t).dropWhile p = t := by
  rw [List.dropWhile_append_of_pos hs]
  cases t with
  | nil => rfl
  | cons c t => rw [List.dropWhile_cons_of_neg (by simp [ht c rfl])]

end Runs

/-! ## What says nothing -/

section Nothing

variable {c : Char} {s t u v : List Char}

theorem skipBlanks_cons (h : isBlank c = false) : skipBlanks (c :: s) = c :: s := by
  unfold skipBlanks
  rw [List.dropWhile_cons_of_neg (by rw [h]; exact Bool.false_ne_true)]

theorem Blanks.skipBlanks_eq (h : Blanks s t) : skipBlanks s = skipBlanks t := by
  induction h with
  | nil => rfl
  | cons hc _ ih =>
    rw [← ih]
    unfold skipBlanks
    rw [List.dropWhile_cons_of_pos hc]

/-- Blanks are passed over up to the first character that is none. -/
theorem Blanks.skipBlanks_cons (h : Blanks s (c :: t)) (hc : isBlank c = false) :
    skipBlanks s = c :: t := by
  rw [h.skipBlanks_eq, Toml.skipBlanks_cons hc]

theorem Newline.newline?_eq (h : Newline s t) : newline? s = some t := by
  cases h <;> rfl

/-- What starts with the end of a line says no more on that line. -/
theorem LineEnd.fixed (h : LineEnd s t) :
    s.dropWhile isText = s ∧ skipComment s = s ∧ skipBlanks s = s := by
  cases h with
  | newline h => cases h <;> exact ⟨rfl, rfl, rfl⟩
  | document => exact ⟨rfl, rfl, rfl⟩

theorem Remark.dropWhile_eq (h : Remark s u) (hu : LineEnd u t) : s.dropWhile isText = u := by
  induction h with
  | nil => exact hu.fixed.1
  | cons hc _ ih => rw [List.dropWhile_cons_of_pos hc, ih hu]

theorem Comment.skipComment_eq (h : Comment s u) (hu : LineEnd u t) : skipComment s = u := by
  cases h with
  | absent => exact hu.fixed.2.1
  | present h => exact h.dropWhile_eq hu

/-- What stands before the end of a line is a comment or nothing, and no blank. -/
theorem Comment.skipBlanks_eq (h : Comment s u) (hu : LineEnd u t) : skipBlanks s = s := by
  cases h with
  | absent => exact hu.fixed.2.2
  | present _ => rfl

theorem Blanks.skipComment_skipBlanks (h : Blanks s u) (hc : Comment u v) (hv : LineEnd v t) :
    skipComment (skipBlanks s) = v := by
  rw [h.skipBlanks_eq, hc.skipBlanks_eq hv, hc.skipComment_eq hv]

/-- **The end of a line** is taken with the blanks and the comment before it. -/
theorem Blanks.lineEnd?_eq (h : Blanks s u) (hc : Comment u v) (hv : LineEnd v t) :
    lineEnd? s = some t := by
  unfold lineEnd?
  rw [h.skipComment_skipBlanks hc hv]
  cases hv with
  | newline hv => cases hv <;> rfl
  | document => rfl

theorem skipLines_eq (s : List Char) :
    skipLines s =
      match newline? (skipComment (skipBlanks s)) with
      | none => skipBlanks s
      | some rest => skipLines rest := by
  rw [skipLines]
  split <;> next h => simp only [h]

/-- Blanks, comments and newlines are passed over up to the first character that is none of
these. -/
theorem Gap.skipLines_cons (h : Gap s (c :: t)) (hb : isBlank c = false)
    (he : startsEmptyLine c = false) : skipLines s = c :: t := by
  generalize hr : c :: t = r at h
  induction h with
  | blanks h =>
    subst hr
    rw [skipLines_eq, h.skipBlanks_cons hb]
    simp only [startsEmptyLine, Bool.or_eq_false_iff, decide_eq_false_iff_not] at he
    have hcomment : skipComment (c :: t) = c :: t := by
      unfold skipComment
      split
      · next heq => exact absurd (List.cons.inj heq).1 he.1.1
      · rfl
    have hnewline : newline? (c :: t) = none := by
      unfold newline?
      split
      · next heq => exact absurd (List.cons.inj heq).1 he.1.2
      · next heq => exact absurd (List.cons.inj heq).1 he.2
      · rfl
    rw [hcomment, hnewline]
  | line h hc hn _ ih =>
    rw [skipLines_eq, h.skipComment_skipBlanks hc (.newline hn), hn.newline?_eq]
    exact ih hr

/-- Blanks show in front. -/
theorem Blanks.head? (h : Blanks s t) : s = t ∨ ∃ c ∈ s.head?, isBlank c = true := by
  cases h with
  | nil => exact .inl rfl
  | cons hc _ => exact .inr ⟨_, rfl, hc⟩

/-- What says nothing shows in front. -/
theorem Comment.head? (h : Comment s t) : s = t ∨ ∃ c ∈ s.head?, startsEmptyLine c = true := by
  cases h with
  | absent => exact .inl rfl
  | present _ => exact .inr ⟨_, rfl, rfl⟩

theorem Newline.head? (h : Newline s t) : ∃ c ∈ s.head?, startsEmptyLine c = true := by
  cases h <;> exact ⟨_, rfl, rfl⟩

theorem Gap.head? (h : Gap s t) :
    s = t ∨ ∃ c ∈ s.head?, isBlank c = true ∨ startsEmptyLine c = true := by
  cases h with
  | blanks h => exact h.head?.imp_right fun ⟨c, hmem, hc⟩ => ⟨c, hmem, .inl hc⟩
  | line h hc hn _ =>
    rcases h.head? with rfl | ⟨c, hmem, hc⟩
    · rcases hc.head? with rfl | ⟨c, hmem, hc⟩
      · obtain ⟨c, hmem, hc⟩ := hn.head?
        exact .inr ⟨c, hmem, .inr hc⟩
      · exact .inr ⟨c, hmem, .inr hc⟩
    · exact .inr ⟨c, hmem, .inl hc⟩

theorem Gap.head?_ne_quote (h : Gap s (c :: t)) (hc : c ≠ '"') : s.head? ≠ some '"' := by
  intro heq
  rcases h.head? with rfl | ⟨d, hmem, hd⟩
  · exact hc (Option.some.inj heq)
  · cases Option.some.inj (heq.symm.trans hmem)
    rcases hd with hd | hd <;> cases hd

end Nothing

/-! ## Strings -/

section Strings

variable {c d e : Char} {count n m : Nat} {s t u cs done : List Char}

theorem toNat_lt_of_isHexDigit (h : isHexDigit d = true) : d.toNat < 128 := by
  simp only [isHexDigit, Char.isDigit, Bool.or_eq_true, Bool.and_eq_true, decide_eq_true_eq,
    Char.le_def, UInt32.le_iff_toNat_le] at h
  rcases h with (h | h) | h
  · exact Nat.lt_of_le_of_lt h.2 (by decide)
  · exact Nat.lt_of_le_of_lt h.2 (by decide)
  · exact Nat.lt_of_le_of_lt h.2 (by decide)

theorem hexValue?_eq (h : isHexDigit d = true) : hexValue? d = some (digitValue d) := by
  have hall : ∀ n < 128, isHexDigit (Char.ofNat n) = true →
      hexValue? (Char.ofNat n) = some (digitValue (Char.ofNat n)) := by
    decide +kernel
  have hd := hall d.toNat (toNat_lt_of_isHexDigit h)
  rw [Char.ofNat_toNat] at hd
  exact hd h

/-- The digits are taken to the last and valued. -/
theorem Hex.foldlM_eq (h : Hex count n s m t) :
    (s.take count).foldlM (fun n c => (hexValue? c).map (16 * n + ·)) n = some m ∧
      (s.take count).length = count ∧ s.drop count = t := by
  induction h with
  | nil => exact ⟨rfl, rfl, rfl⟩
  | cons hd _ ih =>
    obtain ⟨hvalue, hlength, hrest⟩ := ih
    refine ⟨?_, by rw [List.take_succ_cons, List.length_cons, hlength], hrest⟩
    rw [List.take_succ_cons, List.foldlM_cons, hexValue?_eq hd]
    exact hvalue

theorem Hex.codePoint?_eq (h : Hex count 0 s c.toNat t) : codePoint? count s = some (c, t) := by
  obtain ⟨hvalue, hlength, hrest⟩ := h.foldlM_eq
  unfold codePoint?
  dsimp only
  rw [hvalue]
  dsimp only
  rw [if_pos ⟨hlength, c.valid⟩, hrest, Char.ofNat_toNat]

theorem Short.escape?_eq (h : Short e c) : escape? (e :: s) = some (c, s) := by
  cases h <;> rfl

theorem Hex.escape?_four (h : Hex 4 0 s c.toNat t) : escape? ('u' :: s) = some (c, t) :=
  h.codePoint?_eq

theorem Hex.escape?_eight (h : Hex 8 0 s c.toNat t) : escape? ('U' :: s) = some (c, t) :=
  h.codePoint?_eq

theorem basicRest_close : basicRest done ('"' :: t) = some (String.ofList done.reverse, t) := by
  rw [basicRest]
  rfl

theorem basicRest_escape (h : escape? s = some (e, t)) :
    basicRest done ('\\' :: s) = basicRest (e :: done) t := by
  rw [basicRest, if_neg (by decide), if_pos rfl]
  split
  · next heq =>
    rw [h] at heq
    cases heq
  · next heq =>
    rw [h] at heq
    cases heq
    rfl

theorem basicRest_plain (h : isText c = true) (hquote : c ≠ '"') (hslash : c ≠ '\\') :
    basicRest done (c :: s) = basicRest (c :: done) s := by
  rw [basicRest, if_neg hquote, if_neg hslash, if_pos h]

/-- **A basic string** is read as the text that its characters make up. -/
theorem Chars.basicRest_eq (h : Chars s cs t) :
    basicRest done s = some (String.ofList (done.reverse ++ cs), t) := by
  induction h generalizing done with
  | close => rw [basicRest_close, List.append_nil]
  | plain htext hquote hslash _ ih =>
    rw [basicRest_plain htext hquote hslash, ih, List.reverse_cons, List.append_assoc]
    rfl
  | short he _ ih =>
    rw [basicRest_escape he.escape?_eq, ih, List.reverse_cons, List.append_assoc]
    rfl
  | four hx _ ih =>
    rw [basicRest_escape hx.escape?_four, ih, List.reverse_cons, List.append_assoc]
    rfl
  | eight hx _ ih =>
    rw [basicRest_escape hx.escape?_eight, ih, List.reverse_cons, List.append_assoc]
    rfl

/-- A basic string does not start a string of several lines unless it is empty and a quote comes
after it. -/
theorem Chars.text?_eq (h : Chars s cs t) (ht : t.head? ≠ some '"') :
    text? ('"' :: s) = some (String.ofList cs, t) := by
  have hquoted : quoted? ('"' :: s) = some (String.ofList cs, t) := h.basicRest_eq
  unfold text?
  split
  · next rest heq =>
    cases heq
    cases h with
    | close => exact absurd rfl ht
    | plain _ hquote _ _ => exact absurd rfl hquote
  · next heq => cases heq
  · exact hquoted

end Strings

/-! ## Keys -/

section Keys

variable {c : Char} {k : String} {ks done path : List String} {s t u v r : List Char}

theorem endsKey_cons (h : isKeyChar c = false) : EndsKey (c :: t) := by
  intro d hd
  cases hd
  exact h

theorem Blanks.endsKey (h : Blanks s t) (ht : EndsKey t) : EndsKey s := by
  cases h with
  | nil => exact ht
  | cons hc _ =>
    simp only [isBlank, Bool.or_eq_true, decide_eq_true_eq] at hc
    rcases hc with rfl | rfl <;> exact endsKey_cons rfl

/-- A bare key is a path by itself. -/
theorem Path.word {k : List Char} (hne : k ≠ []) (hk : k.all isKeyChar = true) :
    Path (k ++ t) [String.ofList k] t :=
  .one .nil (.bare hne (List.all_eq_true.mp hk)) .nil

/-- Whether a key may start with a character. -/
def startsKey (c : Char) : Bool :=
  isKeyChar c || c = '"' || c = '\''

theorem Key.exists_cons (h : Key s k t) : ∃ c r, s = c :: r ∧ startsKey c = true := by
  cases h with
  | @bare cs _ hne hcs =>
    cases cs with
    | nil => exact absurd rfl hne
    | cons c cs =>
      refine ⟨c, cs ++ t, rfl, ?_⟩
      rw [startsKey, hcs c List.mem_cons_self]
      rfl
  | basic _ => exact ⟨_, _, rfl, rfl⟩
  | literal _ => exact ⟨_, _, rfl, rfl⟩

theorem startsKey_ne {d : Char} (h : startsKey c = true) (hd : startsKey d = false) : c ≠ d := by
  rintro rfl
  exact Bool.false_ne_true (hd.symm.trans h)

theorem isBlank_of_startsKey (h : startsKey c = true) : isBlank c = false := by
  rw [isBlank, decide_eq_false (startsKey_ne h rfl), decide_eq_false (startsKey_ne h rfl)]
  rfl

theorem startsEmptyLine_of_startsKey (h : startsKey c = true) : startsEmptyLine c = false := by
  rw [startsEmptyLine, decide_eq_false (startsKey_ne h rfl), decide_eq_false (startsKey_ne h rfl),
    decide_eq_false (startsKey_ne h rfl)]
  rfl

theorem simpleKey?_of_quoted (h : quoted? s = some (k, t)) : simpleKey? s = some (k, t) := by
  unfold simpleKey?
  rw [h]

/-- A literal string is read as it stands. -/
theorem literalRest_eq {cs : List Char} (h : ∀ c ∈ cs, isText c = true ∧ c ≠ '\'') :
    literalRest (cs ++ '\'' :: t) = some (String.ofList cs, t) := by
  have hall (c : Char) (hc : c ∈ cs) : (isText c && c ≠ '\'') = true := by
    rw [(h c hc).1, decide_eq_true (h c hc).2]
    rfl
  have hquote : ∀ c ∈ ('\'' :: t).head?, (isText c && c ≠ '\'') = false := by
    intro c hc
    cases hc
    rfl
  unfold literalRest
  rw [dropWhile_append_eq hall hquote, takeWhile_append_eq hall hquote]
  rfl

/-- **A key** is read as it is written. -/
theorem Key.simpleKey?_eq (h : Key s k t) (ht : EndsKey t) : simpleKey? s = some (k, t) := by
  cases h with
  | @bare cs _ hne hcs =>
    have hquoted : quoted? (cs ++ t) = none := by
      cases cs with
      | nil => exact absurd rfl hne
      | cons c cs =>
        have hc := hcs c List.mem_cons_self
        unfold quoted?
        split
        · next heq =>
          cases heq
          cases hc
        · next heq =>
          cases heq
          cases hc
        · rfl
    unfold simpleKey?
    rw [hquoted]
    dsimp only
    rw [takeWhile_append_eq hcs ht, dropWhile_append_eq hcs ht,
      if_neg (by rwa [List.length_eq_zero_iff])]
  | basic h => exact simpleKey?_of_quoted h.basicRest_eq
  | literal hcs => exact simpleKey?_of_quoted (literalRest_eq hcs)

theorem keyParts_eq (done : List String) (s : List Char) :
    keyParts done s =
      match simpleKey? (skipBlanks s) with
      | none => none
      | some (key, r) =>
        match skipBlanks r with
        | '.' :: rest => keyParts (key :: done) rest
        | rest => some ((key :: done).reverse, rest) := by
  rw [keyParts]
  split
  · next h => simp only [h]
  · next h =>
    simp only [h]
    split <;> rename_i hr <;> simp only [hr]

theorem keyParts_dot (hs : simpleKey? (skipBlanks s) = some (k, r))
    (hr : skipBlanks r = '.' :: t) : keyParts done s = keyParts (k :: done) t := by
  rw [keyParts_eq, hs]
  dsimp only
  rw [hr]
  rfl

theorem Blanks.skipBlanks_key (h : Blanks s u) (hk : Key u k v) : skipBlanks s = u := by
  obtain ⟨c, r, rfl, hc⟩ := hk.exists_cons
  exact h.skipBlanks_cons (isBlank_of_startsKey hc)

theorem Blanks.simpleKey?_eq (h : Blanks s u) (hk : Key u k v) (hv : EndsKey v) :
    simpleKey? (skipBlanks s) = some (k, v) := by
  rw [h.skipBlanks_key hk, hk.simpleKey?_eq hv]

/-- **Dotted keys** are read up to what can neither be a part of them nor follow them. -/
theorem Path.keyParts_eq (h : Path s ks (c :: t)) (hkey : isKeyChar c = false)
    (hblank : isBlank c = false) (hdot : c ≠ '.') :
    keyParts done s = some (done.reverse ++ ks, c :: t) := by
  generalize hr : c :: t = r at h
  induction h generalizing done with
  | one hs hk ht =>
    subst hr
    rw [Toml.keyParts_eq, hs.simpleKey?_eq hk (ht.endsKey (endsKey_cons hkey))]
    dsimp only
    rw [ht.skipBlanks_cons hblank]
    split
    · next heq => exact absurd (List.cons.inj heq).1 hdot
    · rw [List.reverse_cons]
  | dot hs hk hdots _ ih =>
    rw [keyParts_dot (hs.simpleKey?_eq hk (hdots.endsKey (endsKey_cons rfl)))
      (hdots.skipBlanks_cons rfl), ih hr, List.reverse_cons, List.append_assoc]
    rfl

theorem keyParts_extends (h : keyParts done s = some (path, r)) : done.reverse <+: path := by
  fun_induction keyParts done s with
  | case1 => cases h
  | case2 done s k _ _ _ _ _ _ _ _ ih =>
    have hlead := ih h
    rw [List.reverse_cons] at hlead
    exact (List.prefix_append _ _).trans hlead
  | case3 done s k =>
    cases h
    rw [List.reverse_cons]
    exact List.prefix_append _ _

/-- **The beginning of dotted keys** is read as such, whatever comes after it. -/
theorem Path.keyParts_extends (h : Path s ks t) (ht : EndsKey t)
    (hread : keyParts done s = some (path, r)) : done.reverse ++ ks <+: path := by
  induction h generalizing done with
  | one hs hk hblanks =>
    rw [Toml.keyParts_eq, hs.simpleKey?_eq hk (hblanks.endsKey ht)] at hread
    dsimp only at hread
    rw [← List.reverse_cons]
    split at hread
    · exact Toml.keyParts_extends hread
    · cases hread
      exact List.prefix_rfl
  | dot hs hk hdots _ ih =>
    rw [keyParts_dot (hs.simpleKey?_eq hk (hdots.endsKey (endsKey_cons rfl)))
      (hdots.skipBlanks_cons rfl)] at hread
    have hlead := ih ht hread
    rwa [List.reverse_cons, List.append_assoc] at hlead

end Keys

end NodeCoverage.Toml
