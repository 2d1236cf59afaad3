import NodeCoverage.Proofs.Reading
import NodeCoverage.Proofs.Stopped

/-!
# More text behind a value

Readers that are put together come to a verdict as their parts do. The one verdict that more text
may change is that on a comma after the last value of a record that is written as an array.

Results:
* `settled_readHead`, `settled_skip`: the start of a value, and values that are passed over;
* `Reader.Settles.list`, `Reader.Settles.optional`: lists and choices;
* **`RecordForm.settles_reader`**: records.
-/

namespace NodeCoverage.Json

open Leaving Caused

/-! ## Values -/

/-- The text does not end within a number. -/
def Clear (s : List UInt8) : Prop :=
  s ≠ [] → Closed s

section Values

variable {clear : Prop} {b : UInt8} {s r : List UInt8}

theorem Clear.of_suffix (h : Clear s) (hr : r <:+ s) : Clear r := by
  intro hne
  have hs : s ≠ [] := fun hs => hne (List.suffix_nil.mp (hs ▸ hr))
  exact (h hs).of_suffix hr hne

/-- The scanner of a value gets to see its first byte and what follows it. -/
theorem Clear.closed_of_skipBlank (h : Clear s) (hs : skipBlank s = b :: r) : Closed (b :: r) :=
  h.of_suffix (suffix_of_skipBlank hs) (List.cons_ne_nil b r)

theorem settled_readHeadAt (h : clear → Closed (b :: s)) : Settled clear (readHeadAt b) s := by
  unfold readHeadAt
  split
  · exact (settled_readWord _ s).map (fun _ => rfl) fun _ _ => rfl
  split
  · exact (settled_readWord _ s).map (fun _ => rfl) fun _ _ => rfl
  split
  · exact (settled_readWord _ s).map (fun _ => rfl) fun _ _ => rfl
  split
  · exact (settled_readText s).map (fun _ => rfl) fun _ _ => rfl
  split
  · exact .found (b := (Head.list, s)) (List.suffix_refl s) fun _ => rfl
  split
  · exact .found (b := (Head.record, s)) (List.suffix_refl s) fun _ => rfl
  split
  · exact (Stopped.settled_tail stopped_readNumber readNumber_suffix readNumber_consumes h).map
      (fun _ => rfl) fun _ _ => rfl
  · exact .error _

/-- **The start of a value is read**, and a number to its end. -/
theorem settled_readHead (h : clear → Clear s) : Settled clear readHead s :=
  .of_skipBlank rfl (fun _ => rfl) fun _ _ hs =>
    settled_readHeadAt fun hclear => (h hclear).closed_of_skipBlank hs

/-! ## Passing over values -/

theorem settled_skipScalar (h : clear → Closed (b :: s)) : Settled clear (skipScalar b) s := by
  unfold skipScalar
  split
  · exact settled_readWord _ s
  split
  · exact settled_readWord _ s
  split
  · exact settled_readWord _ s
  split
  · exact settled_skipText s
  split
  · exact (Stopped.settled_tail (stopped_scan _) scan_suffix Literal.scan_consumes h).map
      (fun _ => rfl) fun _ _ => rfl
  · exact .error _

theorem settled_readColon (s : List UInt8) : Settled clear readColon s := by
  refine .of_skipBlank rfl (fun _ => rfl) fun b r _ => ?_
  split
  · exact .found (b := r) (List.suffix_refl r) fun _ => rfl
  · exact .error _

theorem skipKey_eq (s : List UInt8) :
    skipKey s =
      match skipBlank s with
      | [] => .error (.ended .record)
      | b :: rest =>
        if b = 0x22 then (skipText rest).bind readColon else .error (.malformed .keyNotText) := by
  unfold skipKey readColon
  cases skipBlank s with
  | nil => rfl
  | cons b rest =>
    by_cases hb : b = 0x22
    · simp only [if_pos hb]
      cases skipText rest <;> rfl
    · simp only [if_neg hb]

theorem settled_skipKey (s : List UInt8) : Settled clear skipKey s := by
  refine .of_skipBlank rfl skipKey_eq fun b r _ => ?_
  split
  · exact (settled_skipText r).bind fun r _ _ => settled_readColon r
  · exact .error _

theorem kind_unfinished (nest : Nest) : (Caused.cause nest.unfinished).kind = .ended := by
  cases nest <;> rfl

/-- **A value is passed over** with all that is still open around it. -/
theorem settled_skip (awaiting : Awaiting) (nests : List Nest) {s : List UInt8}
    (h : clear → Clear s) : Settled clear (skip awaiting nests) s := by
  match awaiting, nests with
  | .next, [] => exact .found (b := s) (List.suffix_refl s) fun t => by rw [skip]
  | .next, nest :: nests =>
    refine .of_skipBlank (kind_unfinished nest) (skip_next nest nests) fun b r hs => ?_
    have hr (hclear : clear) : Clear r :=
      (h hclear).of_suffix ((List.suffix_cons b r).trans (suffix_of_skipBlank hs))
    have := length_of_skipBlank hs
    split
    · cases nest with
      | list => exact settled_skip .value (.list :: nests) hr
      | record => exact settled_skip .member (.record :: nests) hr
    split
    · exact settled_skip .next nests hr
    · exact .error _
  | .first, [] => exact .found (b := s) (List.suffix_refl s) fun t => by rw [skip]
  | .first, nest :: nests =>
    cases hs : skipBlank s with
    | nil => exact .ended (by rw [skip_first, hs]) (kind_unfinished nest)
    | cons b r =>
      have hr : r <:+ s := (List.suffix_cons b r).trans (suffix_of_skipBlank hs)
      have := length_of_skipBlank hs
      have hfirst (t : List UInt8) := skip_first nest nests (s ++ t)
      simp only [skipBlank_append hs] at hfirst
      by_cases hb : b = nest.closing
      · simp only [if_pos hb] at hfirst
        exact (settled_skip .next nests fun hclear => (h hclear).of_suffix hr).of_suffix hr hfirst
      · -- the first byte is looked at again, and that once only
        simp only [if_neg hb] at hfirst
        cases nest with
        | list =>
          exact (settled_skip .value (.list :: nests) h).of_suffix (List.suffix_refl s) hfirst
        | record =>
          exact (settled_skip .member (.record :: nests) h).of_suffix (List.suffix_refl s) hfirst
  | .member, nests =>
    rw [funext (skip_member nests)]
    refine (settled_skipKey s).bind fun r hr hsuffix => ?_
    have := skipKey_consumes hr
    exact settled_skip .value nests fun hclear => (h hclear).of_suffix hsuffix
  | .value, nests =>
    refine .of_skipBlank rfl (skip_value nests) fun b r hs => ?_
    have hr (hclear : clear) : Clear r :=
      (h hclear).of_suffix ((List.suffix_cons b r).trans (suffix_of_skipBlank hs))
    have := length_of_skipBlank hs
    split
    · exact settled_skip .first (.list :: nests) hr
    split
    · exact settled_skip .first (.record :: nests) hr
    refine (settled_skipScalar fun hclear => (h hclear).closed_of_skipBlank hs).bind
      fun r' hr' hsuffix => ?_
    have := skipScalar_length_le hr'
    exact settled_skip .next nests fun hclear => (hr hclear).of_suffix hsuffix
termination_by (s.length, if awaiting = .first then 1 else 0)
decreasing_by all_goals (simp_wf; first | (left; omega) | (right; trivial))

end Values

/-! ## Steps -/

section Steps

variable {clear : Prop} {b : UInt8} {s r : List UInt8}

instance : Leaving Reader.ListStep where
  rest
    | .done r => r
    | .element u => u
  extend
    | .done r, t => .done (r ++ t)
    | .element u, t => .element (u ++ t)
  extend_nil step := by
    cases step with
    | done r => exact congrArg Reader.ListStep.done (List.append_nil r)
    | element u => exact congrArg Reader.ListStep.element (List.append_nil u)

instance : Leaving ObjectStep where
  rest
    | .done r => r
    | .key k => k
  extend
    | .done r, t => .done (r ++ t)
    | .key k, t => .key (k ++ t)
  extend_nil step := by
    cases step with
    | done r => exact congrArg ObjectStep.done (List.append_nil r)
    | key k => exact congrArg ObjectStep.key (List.append_nil k)

theorem settled_nextElement (first : Bool) (s : List UInt8) :
    Settled clear (Reader.nextElement first) s := by
  cases hs : skipBlank s with
  | nil => exact .ended (by unfold Reader.nextElement; rw [hs]) rfl
  | cons b r =>
    have hr : r <:+ s := (List.suffix_cons b r).trans (suffix_of_skipBlank hs)
    have hstep (t : List UInt8) : Reader.nextElement first (s ++ t) =
        if b = 0x5D then .ok (.done (r ++ t))
        else if first then .ok (.element (b :: (r ++ t)))
        else if b = 0x2C then
          match skipBlank (r ++ t) with
          | [] => .error (.ended .value)
          | c :: more =>
            if c = 0x5D then .error (.malformed .trailingComma) else .ok (.element (c :: more))
        else .error (.malformed .expectedListEnd) := by
      have happend := skipBlank_append hs t
      unfold Reader.nextElement
      generalize skipBlank (s ++ t) = u at happend ⊢
      subst happend
      rfl
    by_cases hend : b = 0x5D
    · simp only [if_pos hend] at hstep
      exact .found (b := .done r) hr hstep
    simp only [if_neg hend] at hstep
    cases first with
    | true =>
      simp only [if_true] at hstep
      exact .found (b := .element (b :: r)) (suffix_of_skipBlank hs) hstep
    | false =>
      simp only [Bool.false_eq_true, if_false] at hstep
      by_cases hcomma : b = 0x2C
      · simp only [if_pos hcomma] at hstep
        cases hmore : skipBlank r with
        | nil =>
          have hnow := hstep []
          simp only [List.append_nil, hmore] at hnow
          exact .ended hnow rfl
        | cons c more =>
          simp only [skipBlank_append hmore] at hstep
          by_cases hlast : c = 0x5D
          · simp only [if_pos hlast] at hstep
            exact .failed hstep
          · simp only [if_neg hlast] at hstep
            exact .found (b := .element (c :: more)) ((suffix_of_skipBlank hmore).trans hr) hstep
      · simp only [if_neg hcomma] at hstep
        exact .failed hstep

theorem settled_nextKey (first : Bool) (s : List UInt8) : Settled clear (nextKey first) s := by
  refine .of_skipBlank rfl (fun _ => rfl) fun b r _ => ?_
  split
  · exact .found (b := .done r) (List.suffix_refl r) fun _ => rfl
  split
  · split
    · exact .found (b := .key r) (List.suffix_refl r) fun _ => rfl
    · exact .error _
  split
  · refine .of_skipBlank rfl (fun _ => rfl) fun c more _ => ?_
    split
    · exact .found (b := .key more) (List.suffix_refl more) fun _ => rfl
    split
    · exact .error _
    · exact .error _
  · exact .error _

/-- What comes after blanks is not changed by them. -/
theorem skipBlank_append_of_blank (h : skipBlank s = []) (t : List UInt8) :
    skipBlank (s ++ t) = skipBlank t := by
  unfold skipBlank at h ⊢
  rw [List.dropWhile_append, h]
  rfl

/-- Blanks are what is passed over. -/
theorem blanks_skipBlank (s : List UInt8) : Blanks s (skipBlank s) := by
  induction s with
  | nil => exact .nil
  | cons b s ih =>
    cases hb : isBlank b with
    | false =>
      rw [skipBlank_cons_of_not_blank hb]
      exact .nil
    | true =>
      have hskip : skipBlank (b :: s) = skipBlank s := List.dropWhile_cons_of_pos hb
      rw [hskip]
      exact .cons hb ih

theorem blanks_of_skipBlank (h : skipBlank s = []) : Blanks s [] :=
  h ▸ blanks_skipBlank s

/-- **The end of an array** is looked for past a comma. -/
theorem settled_readArrayEnd (s : List UInt8) : Settled clear readArrayEnd s := by
  cases hs : skipBlank s with
  | nil => exact .ended (by unfold readArrayEnd; rw [hs]) rfl
  | cons b r =>
    have hbr : b :: r <:+ s := suffix_of_skipBlank hs
    have hstep (t : List UInt8) : readArrayEnd (s ++ t) =
        if b = 0x5D then .ok (r ++ t)
        else if b = 0x2C then .error (.malformed (afterComma (r ++ t)))
        else .error (.malformed .trailingCharacters) := by
      unfold readArrayEnd afterComma
      rw [skipBlank_append hs]
      simp only
      split
      · rfl
      split
      · split
        · next h => rw [h]; rfl
        · next h =>
          rw [if_neg]
          intro hhead
          exact h _ (List.eq_cons_of_mem_head? hhead)
      · rfl
    by_cases hend : b = 0x5D
    · simp only [if_pos hend] at hstep
      exact .found (b := r) ((List.suffix_cons b r).trans hbr) hstep
    simp only [if_neg hend] at hstep
    by_cases hcomma : b = 0x2C
    · simp only [if_pos hcomma] at hstep
      cases hmore : skipBlank r with
      | nil =>
        obtain ⟨u, hu⟩ := hbr
        rw [hcomma] at hu
        refine .dangling (e := .malformed .trailingCharacters) hu.symm
          (blanks_of_skipBlank hmore) fun t => (hstep t).trans ?_
        rw [afterComma, skipBlank_append_of_blank hmore]
        rfl
      | cons c more =>
        have hafter (t : List UInt8) : afterComma (r ++ t) = afterComma r := by
          rw [afterComma, afterComma, skipBlank_append hmore, hmore]
          rfl
        simp only [hafter] at hstep
        exact .failed hstep
    · simp only [if_neg hcomma] at hstep
      exact .failed hstep

end Steps

/-! ## Readers -/

/-- The reader comes to a verdict on every text that has not ended, and on blanks it wants more. -/
structure Reader.Settles {α : Type} (reader : Reader α) : Prop where
  blank {s : List UInt8} : skipBlank s = [] →
    ∃ f, reader.read s = .error f ∧ f.cause.kind = .ended
  settled {clear : Prop} {s : List UInt8} : (clear → Clear s) → Settled clear reader.read s

theorem mapError_eq_ok {α ε δ : Type} {g : ε → δ} {x : Except ε α} {a : α} :
    x.mapError g = .ok a ↔ x = .ok a := by
  cases x <;> simp [Except.mapError]

/-- A cause at a place. -/
theorem Settled.at {ρ σ : Type} [Leaving ρ] [Leaving σ] {clear : Prop} {x : ρ → Except Cause σ}
    {a : ρ} (h : Settled clear x a) (path : List Segment) :
    Settled clear (fun a => (x a).mapError (⟨·, path⟩ : Cause → Failure)) a :=
  h.mapError (fun _ => rfl) fun _ _ => rfl

theorem Settled.mismatch {ρ α : Type} [Leaving ρ] {clear : Prop} {a : ρ} (m : Mismatch) :
    Settled clear (fun _ => Json.mismatch m : ρ → Except Failure (α × List UInt8)) a :=
  .error _

namespace Reader

variable {α β : Type} {reader : Reader α}

theorem read_ofHead (value : Head → Except Mismatch α) (s : List UInt8) :
    (ofHead value).read s =
      ((readHead s).mapError (⟨·, []⟩ : Cause → Failure)).bind fun p =>
        match value p.1 with
        | .error m => mismatch m
        | .ok a => .ok (a, p.2) := by
  simp only [ofHead]
  cases readHead s <;> rfl

theorem settles_ofHead (value : Head → Except Mismatch α) : (ofHead value).Settles where
  blank {s} hs := ⟨⟨.ended .value, []⟩, by simp only [ofHead, readHead, hs], rfl⟩
  settled {clear s} h := by
    rw [funext (read_ofHead value)]
    refine ((settled_readHead h).at []).bind_pair fun head r _ _ => ?_
    simp only
    cases value head with
    | error m => exact .error _
    | ok a => exact .found (b := (a, r)) (List.suffix_refl r) fun _ => rfl

theorem settles_int128 : int128.Settles where
  blank {s} hs := ⟨⟨.ended .value, []⟩, by simp only [int128, readInt128, hs], rfl⟩
  settled {clear s} h := by
    have hread (s : List UInt8) : readInt128 s = match skipBlank s with
        | [] => .error ⟨.ended .value, []⟩
        | b :: r => (scanInteger Int128.ofInt? (Int128.bound.toNat + 1) (b :: r)).mapError
          (⟨·, []⟩ : Cause → Failure) := by
      unfold readInt128
      cases skipBlank s with
      | nil => rfl
      | cons b r =>
        simp only
        cases scanInteger Int128.ofInt? (Int128.bound.toNat + 1) (b :: r) <;> rfl
    refine .of_skipBlank rfl hread fun b r hs => ?_
    exact (Stopped.settled_tail (stopped_scanInteger _ _) scanInteger_suffix scanInteger_consumes
      fun hclear => (h hclear).closed_of_skipBlank hs).at []

namespace Settles

theorem within (h : reader.Settles) (segment : Segment) : (reader.within segment).Settles where
  blank hs := by
    obtain ⟨f, hf, hkind⟩ := h.blank hs
    exact ⟨f.within segment, congrArg (Except.mapError _) hf, hkind⟩
  settled hclear := (h.settled hclear).mapError (fun _ => rfl) fun _ _ => rfl

theorem map (h : reader.Settles) (f : α → β) : (reader.map f).Settles where
  blank hs := by
    obtain ⟨e, he, hkind⟩ := h.blank hs
    exact ⟨e, congrArg (Except.map _) he, hkind⟩
  settled hclear := (h.settled hclear).map (fun _ => rfl) fun _ _ => rfl

theorem member {R : Type} (h : reader.Settles) (name : String) (set : α → R → R) :
    (Member.of name reader set).update.Settles :=
  h.map set

/-- Null, or a value. -/
theorem optional (h : reader.Settles) : (Reader.optional reader).Settles where
  blank {s} hs := by
    obtain ⟨e, he, hkind⟩ := (h.map some).blank hs
    exact ⟨e, by simp only [Reader.optional, hs, he], hkind⟩
  settled {clear s} hclear := by
    cases hs : skipBlank s with
    | nil =>
      obtain ⟨e, he, hkind⟩ := (h.map some).blank hs
      exact .ended (by simp only [Reader.optional, hs, he]) hkind
    | cons b r =>
      by_cases hb : b = 0x6E
      · subst hb
        have hword : Settled clear (readWord [0x75, 0x6C, 0x6C]) r := settled_readWord _ r
        have hnull := (hword.map
          (f := fun r => ((none : Option α), r)) (fun _ => rfl) fun _ _ => rfl).at []
        refine hnull.of_suffix ((List.suffix_cons _ r).trans (suffix_of_skipBlank hs)) fun t => ?_
        simp only [Reader.optional, skipBlank_append hs]
        cases readWord [0x75, 0x6C, 0x6C] (r ++ t) <;> rfl
      · refine ((h.map some).settled hclear).of_suffix (List.suffix_refl s) fun t => ?_
        simp only [Reader.optional, skipBlank_append hs]
        split
        · next heq => exact absurd (List.cons.inj heq).1 hb
        · rfl

theorem elements_eq (item : Reader α) (i : Nat) (done : List α) (s : List UInt8) :
    Reader.elements item i done s =
      ((nextElement (i == 0) s).mapError (⟨·, []⟩ : Cause → Failure)).bind fun
        | .done t => .ok (done.reverse, t)
        | .element u => ((item.within (.index i)).read u).bind fun p =>
          Reader.elements item (i + 1) (p.1 :: done) p.2 := by
  rw [elements_step]
  rcases nextElement (i == 0) s with e | (t | u) <;> rfl

/-- The items of a list, one after another. -/
theorem elements (h : reader.Settles) (i : Nat) (done : List α) {clear : Prop} {s : List UInt8}
    (hclear : clear → Clear s) : Settled clear (Reader.elements reader i done) s := by
  rw [funext (elements_eq reader i done)]
  refine ((settled_nextElement (i == 0) s).at []).bind fun step hstep hsuffix => ?_
  cases step with
  | done t => exact .found (b := (done.reverse, t)) (List.suffix_refl t) fun _ => rfl
  | element u =>
    have hu (hc : clear) : Clear u := (hclear hc).of_suffix hsuffix
    have hshort := nextElement_element (mapError_eq_ok.mp hstep)
    refine Settled.transfer (g := fun u => ((reader.within (.index i)).read u).bind fun p =>
      Reader.elements reader (i + 1) (p.1 :: done) p.2) ?_ (List.suffix_refl u) fun _ => rfl
    refine ((h.within (.index i)).settled hu).bind_pair fun a r hr hrest => ?_
    have := (reader.within (.index i)).consumes hr
    exact elements h (i + 1) (a :: done) fun hc => (hu hc).of_suffix hrest
termination_by s.length

theorem read_list (item : Reader α) (s : List UInt8) :
    (Reader.list item).read s =
      ((readHead s).mapError (⟨·, []⟩ : Cause → Failure)).bind fun p =>
        match p.1 with
        | .list => Reader.elements item 0 [] p.2
        | head => mismatch (.wrongType head.found "a sequence") := by
  simp only [Reader.list]
  rcases readHead s with e | ⟨_ | _ | _ | _ | _ | _, r⟩ <;> rfl

/-- A list of any length. -/
theorem list (h : reader.Settles) : (Reader.list reader).Settles where
  blank {s} hs := ⟨⟨.ended .value, []⟩, by simp only [Reader.list, readHead, hs], rfl⟩
  settled {clear s} hclear := by
    rw [funext (read_list reader)]
    refine ((settled_readHead hclear).at []).bind_pair fun head r _ hrest => ?_
    cases head with
    | list => exact h.elements 0 [] fun hc => (hclear hc).of_suffix hrest
    | null | boolean | number | text | record =>
      simp only
      exact .mismatch _

end Settles

end Reader

/-! ## Records -/

namespace RecordForm

variable {R : Type} {form : RecordForm R} {clear : Prop} {s : List UInt8}

theorem readPositional_nil (i : Nat) (record : R) (s : List UInt8) :
    form.readPositional [] i record s =
      ((readArrayEnd s).mapError (⟨·, []⟩ : Cause → Failure)).map (record, ·) := by
  simp only [readPositional]
  cases readArrayEnd s <;> rfl

theorem readPositional_cons_eq (m : Member R) (ms : List (Member R)) (i : Nat) (record : R)
    (s : List UInt8) :
    form.readPositional (m :: ms) i record s =
      ((Reader.nextElement (i == 0) s).mapError (⟨·, []⟩ : Cause → Failure)).bind fun
        | .done t =>
          if form.strict then
            mismatch (.wrongLength i s!"{form.phrase} with {form.members.length} elements")
          else .ok (record, t)
        | .element u => ((m.update.within (.index i)).read u).bind fun p =>
          form.readPositional ms (i + 1) (p.1 record) p.2 := by
  simp only [readPositional]
  rcases Reader.nextElement (i == 0) s with e | (t | u)
  · rfl
  · rfl
  · simp only [Except.mapError, Except.bind]
    cases (m.update.within (.index i)).read u <;> rfl

/-- The values of an array, one after another. -/
theorem settled_readPositional {ms : List (Member R)} (h : ∀ m ∈ ms, m.update.Settles) (i : Nat)
    (record : R) (hclear : clear → Clear s) :
    Settled clear (form.readPositional ms i record) s := by
  induction ms generalizing i record s with
  | nil =>
    rw [funext (readPositional_nil i record)]
    exact ((settled_readArrayEnd s).at []).map (fun _ => rfl) fun _ _ => rfl
  | cons m ms ih =>
    rw [funext (readPositional_cons_eq m ms i record)]
    refine ((settled_nextElement (i == 0) s).at []).bind fun step _ hsuffix => ?_
    cases step with
    | done t =>
      refine Settled.transfer (g := fun t => if form.strict then
        mismatch (.wrongLength i s!"{form.phrase} with {form.members.length} elements")
        else .ok (record, t)) ?_ (List.suffix_refl t) fun _ => rfl
      split
      · exact .error _
      · exact .found (b := (record, t)) (List.suffix_refl t) fun _ => rfl
    | element u =>
      have hu (hc : clear) : Clear u := (hclear hc).of_suffix hsuffix
      refine Settled.transfer (g := fun u => ((m.update.within (.index i)).read u).bind fun p =>
        form.readPositional ms (i + 1) (p.1 record) p.2) ?_ (List.suffix_refl u) fun _ => rfl
      refine (((h m List.mem_cons_self).within (.index i)).settled hu).bind_pair
        fun set r _ hrest => ?_
      exact ih (fun m hm => h m (List.mem_cons_of_mem _ hm)) (i + 1) (set record)
        fun hc => (hu hc).of_suffix hrest

theorem readValue_eq (key : String) (s : List UInt8) :
    form.readValue key s =
      ((readColon s).mapError (⟨·, []⟩ : Cause → Failure)).bind fun r =>
        match form.member? key with
        | some m => (m.update.within (.field key)).read r
        | none => ((skipValue r).mapError (⟨·, [.field key]⟩ : Cause → Failure)).map (id, ·) := by
  unfold readValue
  cases readColon s with
  | error e => rfl
  | ok r =>
    simp only [Except.mapError, Except.bind]
    cases form.member? key with
    | some m => rfl
    | none =>
      simp only
      cases skipValue r <;> rfl

/-- The value of a key, whether the record has the key or not. -/
theorem settled_readValue (h : ∀ m ∈ form.members, m.update.Settles) (key : String)
    (hclear : clear → Clear s) : Settled clear (form.readValue key) s := by
  rw [funext (readValue_eq key)]
  refine ((settled_readColon s).at []).bind fun r _ hrest => ?_
  have hr (hc : clear) : Clear r := (hclear hc).of_suffix hrest
  cases hm : form.member? key with
  | some m =>
    exact ((h m (List.mem_of_find?_eq_some hm)).within (.field key)).settled hr
  | none =>
    exact ((settled_skip .value [] hr).at [.field key]).map (fun _ => rfl) fun _ _ => rfl

theorem readKey_eq (seen : List String) (s : List UInt8) :
    readKey seen s =
      ((readText s).mapError (⟨·, [.unknown]⟩ : Cause → Failure)).bind fun p =>
        if seen.contains p.1 then mismatch (.duplicateField p.1) else .ok p := by
  unfold readKey
  cases readText s <;> rfl

theorem settled_readKey (seen : List String) (s : List UInt8) :
    Settled clear (readKey seen) s := by
  rw [funext (readKey_eq seen)]
  refine ((settled_readText s).at [.unknown]).bind_pair fun key r _ _ => ?_
  simp only
  split
  · exact .error _
  · exact .found (b := (key, r)) (List.suffix_refl r) fun _ => rfl

theorem readKeyed_eq (first : Bool) (seen : List String) (record : R) (s : List UInt8) :
    form.readKeyed first seen record s =
      ((nextKey first s).mapError (⟨·, [.unknown]⟩ : Cause → Failure)).bind fun
        | .done t =>
          match form.missing? seen with
          | some name => mismatch (.missingField name)
          | none => .ok (record, t)
        | .key k => (readKey seen k).bind fun key => (form.readValue key.1 key.2).bind fun value =>
          form.readKeyed false (if (form.member? key.1).isSome then key.1 :: seen else seen)
            (value.1 record) value.2 := by
  rw [readKeyed_step]
  rcases nextKey first s with e | (t | k) <;> rfl

/-- The members of an object, one after another. -/
theorem settled_readKeyed (h : ∀ m ∈ form.members, m.update.Settles) (first : Bool)
    (seen : List String) (record : R) {s : List UInt8} (hclear : clear → Clear s) :
    Settled clear (form.readKeyed first seen record) s := by
  rw [funext (readKeyed_eq first seen record)]
  refine ((settled_nextKey first s).at [.unknown]).bind fun step hstep hsuffix => ?_
  cases step with
  | done t =>
    refine Settled.transfer (g := fun t => match form.missing? seen with
      | some name => mismatch (.missingField name)
      | none => .ok (record, t)) ?_ (List.suffix_refl t) fun _ => rfl
    cases form.missing? seen with
    | some name => exact .error _
    | none => exact .found (b := (record, t)) (List.suffix_refl t) fun _ => rfl
  | key k =>
    have hk (hc : clear) : Clear k := (hclear hc).of_suffix hsuffix
    have := nextKey_key (mapError_eq_ok.mp hstep)
    refine Settled.transfer (g := fun k => (readKey seen k).bind fun key =>
      (form.readValue key.1 key.2).bind fun value =>
        form.readKeyed false (if (form.member? key.1).isSome then key.1 :: seen else seen)
          (value.1 record) value.2) ?_ (List.suffix_refl k) fun _ => rfl
    refine (settled_readKey seen k).bind_pair fun key c hkey hc => ?_
    have hcolon (hclear : clear) : Clear c := (hk hclear).of_suffix hc
    simp only
    refine (settled_readValue h key hcolon).bind_pair fun set r hvalue hr => ?_
    have := readKey_consumes hkey
    have := form.readValue_consumes hvalue
    exact settled_readKeyed h false _ (set record) fun hclear => (hcolon hclear).of_suffix hr
termination_by s.length

theorem read_reader (form : RecordForm R) (s : List UInt8) :
    form.reader.read s =
      ((readHead s).mapError (⟨·, []⟩ : Cause → Failure)).bind fun p =>
        match p.1 with
        | .list => form.readPositional form.members 0 form.blank p.2
        | .record => form.readKeyed true [] form.blank p.2
        | head => mismatch (.wrongType head.found form.phrase) := by
  simp only [reader]
  rcases readHead s with e | ⟨_ | _ | _ | _ | _ | _, r⟩ <;> rfl

/-- **The reader of a record comes to a verdict** if the readers of its fields do. -/
theorem settles_reader (h : ∀ m ∈ form.members, m.update.Settles) : form.reader.Settles where
  blank {s} hs := ⟨⟨.ended .value, []⟩, by simp only [reader, readHead, hs], rfl⟩
  settled {clear s} hclear := by
    rw [funext (read_reader form)]
    refine ((settled_readHead hclear).at []).bind_pair fun head r _ hrest => ?_
    have hr (hc : clear) : Clear r := (hclear hc).of_suffix hrest
    cases head with
    | list => exact settled_readPositional h 0 form.blank hr
    | record => exact settled_readKeyed h true [] form.blank hr
    | null | boolean | number | text =>
      simp only
      exact .mismatch _

end RecordForm

end NodeCoverage.Json
