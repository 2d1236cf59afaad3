import NodeCoverage.Json.Skip
import NodeCoverage.Proofs.Scanning

/-!
# Passing over what the grammar derives

A value that nobody asks for is passed over as a whole, whatever its nesting: the skipper stops
right after it, with the same brackets open as before.

Results:
* `skip_value`, `skip_first`, `skip_member`, `skip_next`: one step of the skipper each;
* `WellFormed.skipped`: what it makes of a value, and of the rest of a list or of a record, by
  induction on the derivation;
* **`WellFormed.skipValue_eq`**: it passes over one value and the blanks before it.
-/

namespace NodeCoverage.Json

variable {b : UInt8} {s t u r : List UInt8} {nests : List Nest}

/-! ## Where a value starts -/

/-- A value may start here: there is a byte, and it neither is a blank nor closes a list. -/
def StartsValue : List UInt8 → Prop
  | [] => False
  | b :: _ => isBlank b = false ∧ b ≠ 0x5D

theorem startsValue_of_isDigit (h : isDigit b = true) : StartsValue (b :: s) := by
  refine ⟨?_, isDigit_ne h rfl⟩
  simp only [isBlank, Bool.or_eq_false_iff, beq_eq_false_iff_ne]
  exact ⟨⟨⟨isDigit_ne h rfl, isDigit_ne h rfl⟩, isDigit_ne h rfl⟩, isDigit_ne h rfl⟩

/-- A number starts with a sign or a digit. -/
theorem Integer.exists_cons {i : Int} (h : Integer s i t) :
    ∃ d r, s = d :: r ∧ (d = 0x2D ∨ isDigit d = true) := by
  cases h with
  | natural hn =>
    obtain ⟨d, r, rfl, hd⟩ := hn.exists_cons
    exact ⟨d, r, rfl, Or.inr hd⟩
  | negative _ => exact ⟨_, _, rfl, Or.inl rfl⟩

theorem Integer.startsValue {i : Int} (h : Integer s i t) : StartsValue s := by
  obtain ⟨d, r, rfl, rfl | hd⟩ := h.exists_cons
  · exact ⟨rfl, by decide⟩
  · exact startsValue_of_isDigit hd

theorem WellFormed.startsValue (h : WellFormed .value s t) : StartsValue s := by
  cases h with
  | number hn =>
    obtain ⟨hi, -, -⟩ := hn
    exact hi.startsValue
  | _ => exact ⟨rfl, by decide⟩

theorem Blanks.skipBlank_startsValue (h : Blanks r s) (hs : StartsValue s) : skipBlank r = s := by
  cases s with
  | nil => exact hs.elim
  | cons b s => exact h.skipBlank_cons hs.1

/-! ## Single steps of the skipper -/

theorem skip_value (nests : List Nest) (s : List UInt8) :
    skip .value nests s =
      match skipBlank s with
      | [] => .error (.ended .value)
      | b :: rest =>
        if b = 0x5B then skip .first (.list :: nests) rest
        else if b = 0x7B then skip .first (.record :: nests) rest
        else (skipScalar b rest).bind (skip .next nests) := by
  conv => lhs; rw [skip]
  split
  · next h => simp only [h]
  · next b rest h =>
    simp only [h]
    cases skipScalar b rest <;> rfl

theorem skip_member (nests : List Nest) (s : List UInt8) :
    skip .member nests s = (skipKey s).bind (skip .value nests) := by
  conv => lhs; rw [skip]
  split
  · next h => simp only [h, Except.bind]
  · next h => simp only [h, Except.bind]

theorem skip_first (nest : Nest) (nests : List Nest) (s : List UInt8) :
    skip .first (nest :: nests) s =
      match skipBlank s with
      | [] => .error nest.unfinished
      | b :: rest =>
        if b = nest.closing then skip .next nests rest
        else
          match nest with
          | .list => skip .value (.list :: nests) s
          | .record => skip .member (.record :: nests) s := by
  conv => lhs; rw [skip.eq_def]
  dsimp only
  split
  · next h => simp only [h]
  · next h =>
    -- the two matches on the bracket need not be one and the same, so they are compared by cases
    cases nest
    · simp only [h]
    · simp only [h]

theorem skip_next (nest : Nest) (nests : List Nest) (s : List UInt8) :
    skip .next (nest :: nests) s =
      match skipBlank s with
      | [] => .error nest.unfinished
      | b :: rest =>
        if b = 0x2C then
          match nest with
          | .list => skip .value (.list :: nests) rest
          | .record => skip .member (.record :: nests) rest
        else if b = nest.closing then skip .next nests rest
        else .error nest.unseparated := by
  conv => lhs; rw [skip.eq_def]
  dsimp only
  split
  · next h => simp only [h]
  · next h =>
    cases nest
    · simp only [h]
    · simp only [h]

theorem Key.skipKey_eq (h : Key s t) : skipKey s = .ok t := by
  obtain ⟨hquote, hletters, hcolon⟩ := h
  simp only [skipKey, hquote.skipBlank_cons rfl, if_true, hletters.skipText_eq,
    hcolon.skipBlank_cons rfl]

theorem Key.exists_quote (h : Key s t) : ∃ u, skipBlank s = 0x22 :: u := by
  obtain ⟨hquote, -, -⟩ := h
  exact ⟨_, hquote.skipBlank_cons rfl⟩

/-! ## Whole values -/

/-- What the skipper makes of a part: it stops right after it, whatever is open around it. -/
def Skipped : Part → List UInt8 → List UInt8 → Prop
  | .value, s, t => Stops t → ∀ r nests, Blanks r s → skip .value nests r = skip .next nests t
  | .items, s, t => Stops s ∧ ∀ nests, skip .next (.list :: nests) s = skip .next nests t
  | .members, s, t => Stops s ∧ ∀ nests, skip .next (.record :: nests) s = skip .next nests t

theorem skipped_scalar (hlist : b ≠ 0x5B) (hrecord : b ≠ 0x7B) (hblank : isBlank b = false)
    (h : Stops t → skipScalar b s = .ok t) : Skipped .value (b :: s) t := by
  intro ht r nests hr
  rw [skip_value, hr.skipBlank_cons hblank]
  simp only [if_neg hlist, if_neg hrecord, h ht, Except.bind]

theorem skipped_number (h : Number.Written s t) : Skipped .value s t := by
  have hscan := fun ht => h.exists_scan (e := .malformed .invalidNumber) ht
  obtain ⟨hi, -, -⟩ := h
  obtain ⟨d, r, rfl, hd⟩ := hi.exists_cons
  have hne : ∀ b, b ≠ 0x2D → isDigit b = false → d ≠ b := by
    rintro b hminus hdigit rfl
    exact hd.elim hminus fun h => isDigit_ne h hdigit rfl
  refine skipped_scalar (hne _ (by decide) rfl) (hne _ (by decide) rfl) hi.startsValue.1 ?_
  intro ht
  obtain ⟨l, hl⟩ := hscan ht
  rw [skipScalar, if_neg (hne _ (by decide) rfl), if_neg (hne _ (by decide) rfl),
    if_neg (hne _ (by decide) rfl), if_neg (hne _ (by decide) rfl), if_pos hd, hl]
  rfl

theorem isBlank_closing (nest : Nest) : isBlank nest.closing = false := by
  cases nest
  · rfl
  · rfl

theorem closing_ne_comma (nest : Nest) : nest.closing ≠ 0x2C := by
  cases nest
  · decide
  · decide

/-- A bracket that closes at once. -/
theorem skip_first_end (nest : Nest) (h : Blanks s (nest.closing :: t)) :
    skip .first (nest :: nests) s = skip .next nests t := by
  simp only [skip_first, h.skipBlank_cons (isBlank_closing nest), if_true]

theorem skip_next_end (nest : Nest) (h : Blanks s (nest.closing :: t)) :
    skip .next (nest :: nests) s = skip .next nests t := by
  simp only [skip_next, h.skipBlank_cons (isBlank_closing nest), if_neg (closing_ne_comma nest),
    if_true]

theorem skip_first_list (h : Blanks s u) (hu : StartsValue u) :
    skip .first (.list :: nests) s = skip .value (.list :: nests) s := by
  cases u with
  | nil => exact hu.elim
  | cons b u =>
    rw [skip_first, h.skipBlank_cons hu.1]
    exact if_neg hu.2

theorem skip_first_record (h : Key s t) :
    skip .first (.record :: nests) s = skip .value (.record :: nests) t := by
  obtain ⟨u, hquote⟩ := h.exists_quote
  rw [skip_first, hquote]
  simp only [Nest.closing, skip_member, h.skipKey_eq, Except.bind]
  exact if_neg (by decide)

theorem WellFormed.skipped {part : Part} (h : WellFormed part s t) : Skipped part s t := by
  induction h with
  | null => exact skipped_scalar (by decide) (by decide) rfl fun _ => rfl
  | yes => exact skipped_scalar (by decide) (by decide) rfl fun _ => rfl
  | no => exact skipped_scalar (by decide) (by decide) rfl fun _ => rfl
  | number hn => exact skipped_number hn
  | text hl => exact skipped_scalar (by decide) (by decide) rfl fun _ => hl.skipText_eq
  | emptyList hend =>
    intro _ r nests hr
    simp only [skip_value, hr.skipBlank_cons rfl, if_true]
    exact skip_first_end .list hend
  | list hblank hvalue _ ihvalue ihitems =>
    intro _ r nests hr
    simp only [skip_value, hr.skipBlank_cons rfl, if_true]
    rw [skip_first_list hblank hvalue.startsValue, ihvalue ihitems.1 _ _ hblank, ihitems.2]
  | listEnd hend =>
    refine ⟨hend.stops stops_listEnd, fun nests => ?_⟩
    exact skip_next_end .list hend
  | item hcomma hblank _ _ ihvalue ihitems =>
    refine ⟨hcomma.stops stops_comma, fun nests => ?_⟩
    simp only [skip_next, hcomma.skipBlank_cons rfl, if_true]
    rw [ihvalue ihitems.1 _ _ hblank, ihitems.2]
  | emptyRecord hend =>
    intro _ r nests hr
    simp only [skip_value, hr.skipBlank_cons rfl, if_true]
    exact skip_first_end .record hend
  | record hkey hblank _ _ ihvalue ihmembers =>
    intro _ r nests hr
    simp only [skip_value, hr.skipBlank_cons rfl, if_true]
    rw [if_neg (by decide), skip_first_record hkey, ihvalue ihmembers.1 _ _ hblank, ihmembers.2]
  | recordEnd hend =>
    refine ⟨hend.stops stops_recordEnd, fun nests => ?_⟩
    exact skip_next_end .record hend
  | member hcomma hkey hblank _ _ ihvalue ihmembers =>
    refine ⟨hcomma.stops stops_comma, fun nests => ?_⟩
    simp only [skip_next, hcomma.skipBlank_cons rfl, if_true, skip_member, hkey.skipKey_eq,
      Except.bind]
    rw [ihvalue ihmembers.1 _ _ hblank, ihmembers.2]

/-- **The skipper passes over one value** and the blanks before it, and stops right after it. -/
theorem WellFormed.skipValue_eq (h : WellFormed .value s t) (ht : Stops t) (hr : Blanks r s) :
    skipValue r = .ok t := by
  rw [skipValue, h.skipped ht r [] hr, skip]

end NodeCoverage.Json
