import NodeCoverage.Proofs.Skipping

/-!
# More text behind a text

What a scanner makes of a text, seen from everything that the text may go on with. Either the
scanner has reached the end and wants more, or it has come to a verdict, and then more text changes
nothing but what is left of it. There is one exception: the reader of a record that is written as
an array looks past the comma after the last value before it says what is wrong with it.

Results:
* `Settled.bind`, `Settled.map`: scanners that are put together;
* `Settled.of_skipBlank`: scanners that pass over blanks first;
* `settled_readWord`, `settled_readText`, `settled_skipText`: words and strings.
-/

namespace NodeCoverage.Json

/-! ## Verdicts -/

/-- What is read off a text, together with what is left of the text. -/
class Leaving (ρ : Type) where
  rest : ρ → List UInt8
  /-- The same with more text behind what is left. -/
  extend : ρ → List UInt8 → ρ
  extend_nil : ∀ a, extend a [] = a

/-- A failure that has a cause. -/
class Caused (ε : Type) where
  cause : ε → Cause
  /-- The same failure for another cause. -/
  withCause : ε → Cause → ε

open Leaving Caused

instance : Leaving (List UInt8) where
  rest s := s
  extend s t := s ++ t
  extend_nil := List.append_nil

instance {α : Type} : Leaving (α × List UInt8) where
  rest p := p.2
  extend p t := (p.1, p.2 ++ t)
  extend_nil p := by rw [List.append_nil]

instance : Caused Cause where
  cause e := e
  withCause _ e := e

instance : Caused Failure where
  cause f := f.cause
  withCause f e := { f with cause := e }

/-- What is wrong with a comma after the last value of an array, by the text that follows it. -/
def afterComma (t : List UInt8) : Malformation :=
  if (skipBlank t).head? = some 0x5D then .trailingComma else .trailingCharacters

/-- What a scanner makes of a text, and of the text with anything behind it. If the text is not
`clear`, which is to say that it may end within a number, then only what is left is known. -/
inductive Settled {ρ σ ε : Type} [Leaving ρ] [Leaving σ] [Caused ε] (clear : Prop)
    (k : ρ → Except ε σ) (a : ρ) : Prop
  /-- The text may end within a number. -/
  | unclear : ¬ clear → (∀ b, k a = .ok b → rest b <:+ rest a) → Settled clear k a
  /-- The text ends too early. -/
  | ended {e : ε} : k a = .error e → (cause e).kind = .ended → Settled clear k a
  /-- The scanner fails, whatever follows. -/
  | failed {e : ε} : (∀ t, k (extend a t) = .error e) → Settled clear k a
  /-- The text ends after a comma that should not be there, and what follows says why. -/
  | dangling {e : ε} {u w : List UInt8} : rest a = u ++ 0x2C :: w → Blanks w [] →
      (∀ t, k (extend a t) = .error (withCause e (.malformed (afterComma t)))) → Settled clear k a
  /-- The scanner succeeds, whatever follows. -/
  | found {b : σ} : rest b <:+ rest a → (∀ t, k (extend a t) = .ok (extend b t)) →
      Settled clear k a

namespace Settled

variable {ρ σ τ ε δ : Type} [Leaving ρ] [Leaving σ] [Leaving τ] [Caused ε] [Caused δ]
  {clear : Prop} {a : ρ}

theorem error (e : ε) : Settled clear (fun _ => .error e : ρ → Except ε σ) a :=
  .failed fun _ => rfl

omit [Leaving σ] [Caused ε] in
theorem eq_now {x : ρ → Except ε σ} {y : List UInt8 → Except ε σ}
    (h : ∀ t, x (extend a t) = y t) : x a = y [] := by
  rw [← h, extend_nil]

/-- What is left of a text is the end of it. -/
theorem suffix {k : ρ → Except ε σ} (h : Settled clear k a) {b : σ} (hb : k a = .ok b) :
    rest b <:+ rest a := by
  cases h with
  | unclear _ hsuffix => exact hsuffix b hb
  | ended h _ =>
    rw [hb] at h
    cases h
  | failed h =>
    have hnow := eq_now h
    rw [hb] at hnow
    cases hnow
  | dangling _ _ h =>
    have hnow := eq_now h
    rw [hb] at hnow
    cases hnow
  | found hrest h =>
    have hnow := eq_now h
    rw [hb, extend_nil] at hnow
    cases hnow
    exact hrest

/-- What is found is found in every longer text. -/
theorem ok_extend {k : ρ → Except ε σ} (h : Settled True k a) {b : σ} (hb : k a = .ok b)
    (t : List UInt8) : k (extend a t) = .ok (extend b t) := by
  cases h with
  | unclear hclear _ => exact absurd trivial hclear
  | ended h _ =>
    rw [hb] at h
    cases h
  | failed h =>
    have hnow := eq_now h
    rw [hb] at hnow
    cases hnow
  | dangling _ _ h =>
    have hnow := eq_now h
    rw [hb] at hnow
    cases hnow
  | found _ h =>
    have hnow := eq_now h
    rw [hb, extend_nil] at hnow
    cases hnow
    exact h t

/-- What fails before its end fails in every longer text, but for a comma that should not be
there. -/
theorem error_extend {k : ρ → Except ε σ} (h : Settled True k a) {e : ε} (he : k a = .error e)
    (hend : (cause e).kind ≠ .ended) :
    (∀ t, k (extend a t) = .error e) ∨
      ∃ u w f, rest a = u ++ 0x2C :: w ∧ Blanks w [] ∧
        e = withCause f (.malformed .trailingCharacters) ∧
        ∀ t, k (extend a t) = .error (withCause f (.malformed (afterComma t))) := by
  cases h with
  | unclear hclear _ => exact absurd trivial hclear
  | ended h hkind =>
    rw [he] at h
    cases h
    exact absurd hkind hend
  | failed h =>
    have hnow := eq_now h
    rw [he] at hnow
    cases hnow
    exact Or.inl h
  | dangling hu hw h =>
    have hnow := eq_now h
    rw [he] at hnow
    cases hnow
    exact Or.inr ⟨_, _, _, hu, hw, rfl, h⟩
  | found _ h =>
    have hnow := eq_now h
    rw [he] at hnow
    cases hnow

/-- A scanner that does on a text what another one does on the end of it. -/
theorem transfer {k : σ → Except ε τ} {g : ρ → Except ε τ} {b : σ} (h : Settled clear g a)
    (hrest : rest a <:+ rest b) (heq : ∀ t, k (extend b t) = g (extend a t)) :
    Settled clear k b := by
  have hnow : k b = g a := by
    have := heq []
    rwa [extend_nil, extend_nil] at this
  cases h with
  | unclear hclear hsuffix =>
    exact .unclear hclear fun c hc => (hsuffix c (hnow ▸ hc)).trans hrest
  | ended h he => exact .ended (hnow.trans h) he
  | failed h => exact .failed fun t => (heq t).trans (h t)
  | @dangling e u w hu hw h =>
    obtain ⟨d, hd⟩ := hrest
    have hend : rest b = d ++ u ++ 0x2C :: w := by
      rw [← hd, hu, List.append_assoc]
    exact .dangling hend hw fun t => (heq t).trans (h t)
  | found hr h => exact .found (hr.trans hrest) fun t => (heq t).trans (h t)

/-- **One scanner after another.** -/
theorem bind {x : ρ → Except ε σ} {k : σ → Except ε τ} (hx : Settled clear x a)
    (hk : ∀ b, x a = .ok b → rest b <:+ rest a → Settled clear k b) :
    Settled clear (fun a => (x a).bind k) a := by
  cases hx with
  | unclear hclear hsuffix =>
    refine .unclear hclear fun c hc => ?_
    cases hb : x a with
    | error e =>
      rw [hb] at hc
      cases hc
    | ok b =>
      rw [hb] at hc
      exact ((hk b hb (hsuffix b hb)).suffix hc).trans (hsuffix b hb)
  | ended h he => exact .ended (congrArg (Except.bind · k) h) he
  | failed h => exact .failed fun t => congrArg (Except.bind · k) (h t)
  | dangling hu hw h => exact .dangling hu hw fun t => congrArg (Except.bind · k) (h t)
  | @found b hrest h =>
    have hb := eq_now h
    rw [extend_nil] at hb
    exact (hk b hb hrest).transfer hrest fun t => congrArg (Except.bind · k) (h t)

/-- A scanner whose failures are changed, but not their causes. -/
theorem mapError {x : ρ → Except ε σ} (hx : Settled clear x a) {g : ε → δ}
    (hcause : ∀ e, cause (g e) = cause e) (hwith : ∀ e c, g (withCause e c) = withCause (g e) c) :
    Settled clear (fun a => (x a).mapError g) a := by
  cases hx with
  | unclear hclear hsuffix =>
    refine .unclear hclear fun b hb => ?_
    cases hx : x a with
    | error e =>
      rw [hx] at hb
      cases hb
    | ok b' =>
      rw [hx] at hb
      cases hb
      exact hsuffix b hx
  | ended h he => exact .ended (congrArg (Except.mapError g) h) (by rw [hcause]; exact he)
  | failed h => exact .failed fun t => congrArg (Except.mapError g) (h t)
  | @dangling e u w hu hw h =>
    refine .dangling (e := g e) hu hw fun t => ?_
    rw [h t, ← hwith]
    rfl
  | found hrest h => exact .found hrest fun t => congrArg (Except.mapError g) (h t)

/-- A scanner whose result is changed, but not what it leaves. -/
theorem map {x : ρ → Except ε σ} (hx : Settled clear x a) {f : σ → τ}
    (hrest : ∀ b, rest (f b) = rest b) (hextend : ∀ b t, f (extend b t) = extend (f b) t) :
    Settled clear (fun a => (x a).map f) a := by
  have hbind : (fun a => (x a).map f) = fun a => (x a).bind fun b => .ok (f b) := by
    funext a
    cases x a <;> rfl
  rw [hbind]
  refine hx.bind fun b _ _ => .found (b := f b) ?_ fun t => congrArg Except.ok (hextend b t)
  exact hrest b ▸ List.suffix_refl _

theorem of_suffix {k k' : List UInt8 → Except ε σ} {s r : List UInt8} (h : Settled clear k' r)
    (hr : r <:+ s) (heq : ∀ t, k (s ++ t) = k' (r ++ t)) : Settled clear k s :=
  h.transfer hr heq

/-- One scanner after another, where the first one gives a value and what is left. -/
theorem bind_pair {α : Type} {x : ρ → Except ε (α × List UInt8)}
    {k : α × List UInt8 → Except ε σ} (hx : Settled clear x a)
    (hk : ∀ b r, x a = .ok (b, r) → r <:+ rest a → Settled clear (fun r => k (b, r)) r) :
    Settled clear (fun a => (x a).bind k) a := by
  refine hx.bind ?_
  rintro ⟨b, r⟩ hb hr
  exact (hk b r hb hr).transfer (List.suffix_refl r) fun _ => rfl

theorem cons {k : List UInt8 → Except ε σ} {b : UInt8} {r : List UInt8}
    (h : Settled clear (fun r => k (b :: r)) r) : Settled clear k (b :: r) :=
  h.of_suffix (List.suffix_cons b r) fun _ => rfl

end Settled

theorem bind_eq_ok {α β ε : Type} {x : Except ε α} {k : α → Except ε β} {b : β} :
    x.bind k = .ok b ↔ ∃ a, x = .ok a ∧ k a = .ok b := by
  cases x <;> simp [Except.bind]

/-! ## Blanks and words -/

section Blanks

variable {ρ ε : Type} [Leaving ρ] [Caused ε] {clear : Prop} {b : UInt8} {s r : List UInt8}

theorem suffix_of_skipBlank (h : skipBlank s = b :: r) : b :: r <:+ s := by
  rw [← h]
  exact List.dropWhile_suffix _

theorem skipBlank_append (h : skipBlank s = b :: r) (t : List UInt8) :
    skipBlank (s ++ t) = b :: (r ++ t) := by
  unfold skipBlank at h ⊢
  rw [List.dropWhile_append, h]
  rfl

/-- A scanner that passes over blanks first. -/
theorem Settled.of_skipBlank {x : List UInt8 → Except ε ρ} {e : ε}
    {k : UInt8 → List UInt8 → Except ε ρ} (he : (cause e).kind = .ended)
    (hx : ∀ s, x s = match skipBlank s with
      | [] => .error e
      | b :: r => k b r)
    (hk : ∀ b r, skipBlank s = b :: r → Settled clear (k b) r) : Settled clear x s := by
  cases hs : skipBlank s with
  | nil => exact .ended (by rw [hx, hs]) he
  | cons b r =>
    have hr : r <:+ s := (List.suffix_cons b r).trans (suffix_of_skipBlank hs)
    exact (hk b r hs).of_suffix hr fun t => by rw [hx, skipBlank_append hs]

theorem settled_readWord (word s : List UInt8) : Settled clear (readWord word) s := by
  induction word generalizing s with
  | nil => exact .found (b := s) (List.suffix_refl s) fun _ => rfl
  | cons w word ih =>
    cases s with
    | nil => exact .ended rfl rfl
    | cons b s =>
      refine .cons ?_
      simp only [readWord]
      split
      · exact ih s
      · exact .error _

end Blanks

/-! ## Strings -/

section Strings

variable {clear : Prop} {b : UInt8} {s : List UInt8}

theorem settled_readHex4 (s : List UInt8) : Settled clear readHex4 s := by
  rcases s with _ | ⟨b, _ | ⟨c, _ | ⟨d, _ | ⟨e, s⟩⟩⟩⟩
  · exact .ended rfl rfl
  · exact .ended rfl rfl
  · exact .ended rfl rfl
  · exact .ended rfl rfl
  · refine .cons (.cons (.cons (.cons ?_)))
    simp only [readHex4]
    cases hexNumber? [b, c, d, e] with
    | none => exact .error _
    | some n => exact .found (b := (n, s)) (List.suffix_refl s) fun _ => rfl

theorem readLowSurrogate_of_ne (high : Nat) (h : b ≠ 0x5C) :
    readLowSurrogate high (b :: s) = .error (.malformed .brokenSurrogatePair) := by
  unfold readLowSurrogate
  split
  · next heq => cases heq
  · next heq => exact absurd (List.cons.inj heq).1 h
  · next heq => exact absurd (List.cons.inj heq).1 h
  · rfl

theorem readLowSurrogate_backslash_of_ne (high : Nat) (h : b ≠ 0x75) :
    readLowSurrogate high (0x5C :: b :: s) = .error (.malformed .brokenSurrogatePair) := by
  unfold readLowSurrogate
  split
  · next heq => cases heq
  · next heq => cases heq
  · next heq => exact absurd (List.cons.inj (List.cons.inj heq).2).1 h
  · rfl

theorem readLowSurrogate_escape (high : Nat) (s : List UInt8) :
    readLowSurrogate high (0x5C :: 0x75 :: s) = (readHex4 s).bind fun p =>
      if 0xDC00 ≤ p.1 ∧ p.1 ≤ 0xDFFF then
        .ok (0x10000 + 0x400 * (high - 0xD800) + (p.1 - 0xDC00), p.2)
      else .error (.malformed .loneSurrogate) := by
  simp only [readLowSurrogate]
  cases readHex4 s <;> rfl

theorem settled_readLowSurrogate (high : Nat) (s : List UInt8) :
    Settled clear (readLowSurrogate high) s := by
  rcases s with _ | ⟨b, s⟩
  · exact .ended rfl rfl
  by_cases hb : b = 0x5C
  · subst hb
    rcases s with _ | ⟨c, s⟩
    · exact .ended rfl rfl
    by_cases hc : c = 0x75
    · subst hc
      refine .cons (.cons ?_)
      simp only [readLowSurrogate_escape]
      refine (settled_readHex4 s).bind_pair fun low r _ _ => ?_
      simp only
      split
      · exact .found (b := (0x10000 + 0x400 * (high - 0xD800) + (low - 0xDC00), r))
          (List.suffix_refl r) fun _ => rfl
      · exact .error _
    · exact .failed fun t => readLowSurrogate_backslash_of_ne high hc
  · exact .failed fun t => readLowSurrogate_of_ne high hb

theorem readCodePoint_eq (s : List UInt8) :
    readCodePoint s = (readHex4 s).bind fun p =>
      if 0xDC00 ≤ p.1 ∧ p.1 ≤ 0xDFFF then .error (.malformed .loneSurrogate)
      else if 0xD800 ≤ p.1 ∧ p.1 ≤ 0xDBFF then readLowSurrogate p.1 p.2
      else .ok p := by
  unfold readCodePoint
  cases readHex4 s <;> rfl

theorem settled_readCodePoint (s : List UInt8) : Settled clear readCodePoint s := by
  simp only [funext readCodePoint_eq]
  refine (settled_readHex4 s).bind_pair fun n r _ _ => ?_
  simp only
  split
  · exact .error _
  · split
    · exact settled_readLowSurrogate n r
    · exact .found (b := (n, r)) (List.suffix_refl r) fun _ => rfl

theorem settled_readEscape (s : List UInt8) : Settled clear readEscape s := by
  cases s with
  | nil => exact .ended rfl rfl
  | cons b s =>
    refine .cons ?_
    simp only [readEscape]
    split
    · exact (settled_readCodePoint s).map (fun _ => rfl) fun _ _ => rfl
    · cases shortEscape? b with
      | none => exact .error _
      | some c => exact .found (b := ([c], s)) (List.suffix_refl s) fun _ => rfl

theorem settled_skipEscape (s : List UInt8) : Settled clear skipEscape s := by
  cases s with
  | nil => exact .ended rfl rfl
  | cons b s =>
    refine .cons ?_
    simp only [skipEscape]
    split
    · exact (settled_readHex4 s).map (fun _ => rfl) fun _ _ => rfl
    · cases shortEscape? b with
      | none => exact .error _
      | some c => exact .found (b := s) (List.suffix_refl s) fun _ => rfl

theorem readBytes_cons (done : List UInt8) (b : UInt8) (s : List UInt8) :
    readBytes done (b :: s) =
      if b = 0x22 then .ok (done.reverse, s)
      else if b = 0x5C then
        (readEscape s).bind fun p => readBytes (p.1.reverse ++ done) p.2
      else if b < 0x20 then .error (.malformed .controlCharacter)
      else readBytes (b :: done) s := by
  rw [readBytes]
  split
  · rfl
  split
  · split
    · next h => simp only [h, Except.bind]
    · next h => simp only [h, Except.bind]
  · rfl

theorem settled_readBytes (done s : List UInt8) : Settled clear (readBytes done) s := by
  match s with
  | [] => exact .ended (by rw [readBytes]) rfl
  | b :: s =>
    refine .cons ?_
    simp only [readBytes_cons]
    split
    · exact .found (b := (done.reverse, s)) (List.suffix_refl s) fun _ => rfl
    split
    · refine (settled_readEscape s).bind_pair fun bytes r h _ => ?_
      have := readEscape_consumes h
      exact settled_readBytes (bytes.reverse ++ done) r
    split
    · exact .error _
    · exact settled_readBytes _ s
termination_by s.length

theorem readText_eq (s : List UInt8) :
    readText s = (readBytes [] s).bind fun p =>
      match Text.ofUtf8? p.1 with
      | some text => .ok (text, p.2)
      | none => .error (.malformed .invalidUnicode) := by
  unfold readText
  cases readBytes [] s <;> rfl

/-- A string is read to its closing quote. -/
theorem settled_readText (s : List UInt8) : Settled clear readText s := by
  simp only [funext readText_eq]
  refine (settled_readBytes [] s).bind_pair fun bytes r _ _ => ?_
  simp only
  cases Text.ofUtf8? bytes with
  | none => exact .error _
  | some text => exact .found (b := (text, r)) (List.suffix_refl r) fun _ => rfl

theorem skipText_cons (b : UInt8) (s : List UInt8) :
    skipText (b :: s) =
      if b = 0x22 then .ok s
      else if b = 0x5C then (skipEscape s).bind skipText
      else if b < 0x20 then .error (.malformed .controlCharacter)
      else skipText s := by
  rw [skipText]
  split
  · rfl
  split
  · split
    · next h => simp only [h, Except.bind]
    · next h => simp only [h, Except.bind]
  · rfl

/-- A string is passed over to its closing quote. -/
theorem settled_skipText (s : List UInt8) : Settled clear skipText s := by
  match s with
  | [] => exact .ended (by rw [skipText]) rfl
  | b :: s =>
    refine .cons ?_
    simp only [skipText_cons]
    split
    · exact .found (b := s) (List.suffix_refl s) fun _ => rfl
    split
    · refine (settled_skipEscape s).bind fun r h _ => ?_
      have := skipEscape_consumes h
      exact settled_skipText r
    split
    · exact .error _
    · exact settled_skipText s
termination_by s.length

end Strings

end NodeCoverage.Json
