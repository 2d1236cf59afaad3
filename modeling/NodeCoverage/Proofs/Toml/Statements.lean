import NodeCoverage.Proofs.Toml.Values

/-!
# Taking documents apart

A document is taken apart line by line. Lines of the grammar are taken whole, whatever comes after
them, and a line that begins with a path is taken, if at all, as a statement about that path.

Results:
* `Line.statements_eq`, `Lines.statements_eq`: lines give the statements that they make;
* `Document.statements_eq`: a document is taken apart into its statements;
* `Opens.exists_statement`: where a line begins with a path, and whatever comes after that, a
  statement about the path is taken or the document is not sound;
* `Mark.statements_eq`, `Mark.exists_statement`: a byte order mark makes no difference.
-/

namespace NodeCoverage.Toml

variable {c : Char} {k : String} {ks found : List String} {a : Option Statement} {b : Statement}
  {v : Value} {ss done : List Statement} {s t u w r : List Char}

/-! ## Single statements -/

theorem statements_eq (done : List Statement) (s : List Char) :
    statements done s =
      match skipBlanks s with
      | [] => some done.reverse
      | c :: rest =>
        if startsEmptyLine c then
          match lineEnd? (c :: rest) with
          | none => none
          | some r => statements done r
        else
          match statement? (c :: rest) with
          | none => none
          | some (a, r) =>
            match lineEnd? r with
            | none => none
            | some r' => statements (a :: done) r' := by
  rw [statements]
  split
  · next h => simp only [h]
  · next h =>
    simp only [h]
    split
    · split <;> rename_i he <;> simp only [he]
    · split
      · next hp => simp only [hp]
      · next hp =>
        simp only [hp]
        split <;> rename_i he <;> simp only [he]

theorem statements_nil : statements done [] = some done.reverse := by
  rw [statements_eq]
  rfl

theorem statements_of_blank (hs : skipBlanks s = c :: u) (hc : startsEmptyLine c = true)
    (he : lineEnd? (c :: u) = some r) : statements done s = statements done r := by
  rw [statements_eq, hs]
  dsimp only
  rw [if_pos hc, he]

theorem statements_of_statement (hs : skipBlanks s = c :: u) (hc : startsEmptyLine c = false)
    (hb : statement? (c :: u) = some (b, w)) (he : lineEnd? w = some r) :
    statements done s = statements (b :: done) r := by
  rw [statements_eq, hs]
  dsimp only
  rw [if_neg (by rw [hc]; exact Bool.false_ne_true), hb]
  dsimp only
  rw [he]

/-- Statements that are there stay there. -/
theorem statements_extends (h : statements done s = some ss) : done.reverse <+: ss := by
  fun_induction statements done s with
  | case1 =>
    cases h
    exact List.prefix_rfl
  | case2 => cases h
  | case3 _ _ _ _ _ _ _ _ _ _ ih => exact ih h
  | case4 => cases h
  | case5 => cases h
  | case6 _ _ _ _ _ _ _ _ _ _ _ _ _ _ _ ih =>
    have hlead := ih h
    rw [List.reverse_cons] at hlead
    exact (List.prefix_append _ _).trans hlead

/-! ## Lines -/

theorem Path.exists_cons (h : Path s ks t) :
    ∃ c u, skipBlanks s = c :: u ∧ startsKey c = true ∧ Path (c :: u) ks t := by
  cases h with
  | one hs hk ht =>
    obtain ⟨c, r, rfl, hc⟩ := hk.exists_cons
    exact ⟨c, r, hs.skipBlanks_cons (isBlank_of_startsKey hc), hc, .one .nil hk ht⟩
  | dot hs hk hdots hrest =>
    obtain ⟨c, r, rfl, hc⟩ := hk.exists_cons
    exact ⟨c, r, hs.skipBlanks_cons (isBlank_of_startsKey hc), hc, .dot .nil hk hdots hrest⟩

theorem Path.head? (h : Path s ks t) :
    ∃ c ∈ s.head?, isBlank c = true ∨ startsKey c = true := by
  have hkey {s u : List Char} {k : String} {v : List Char} (hs : Blanks s u) (hk : Key u k v) :
      ∃ c ∈ s.head?, isBlank c = true ∨ startsKey c = true := by
    rcases hs.head? with rfl | ⟨c, hmem, hc⟩
    · obtain ⟨c, r, rfl, hc⟩ := hk.exists_cons
      exact ⟨c, rfl, .inr hc⟩
    · exact ⟨c, hmem, .inl hc⟩
  cases h with
  | one hs hk _ => exact hkey hs hk
  | dot hs hk _ _ => exact hkey hs hk

/-- A path of one key is short enough. -/
theorem Path.key?_eq (h : Path s [k] (c :: t)) (hkey : isKeyChar c = false)
    (hblank : isBlank c = false) (hdot : c ≠ '.') : key? s = some ([k], c :: t) := by
  unfold key?
  rw [h.keyParts_eq hkey hblank hdot]
  rfl

theorem Written.skipBlanks_eq (h : Written s v t) : skipBlanks s = s := by
  cases h with
  | text _ => rfl
  | integer h _ =>
    obtain ⟨c, r, rfl, hc, -⟩ := h.exists_cons
    refine skipBlanks_cons ?_
    rw [Bool.eq_false_iff]
    intro hblank
    simp only [isBlank, Bool.or_eq_true, decide_eq_true_eq] at hblank
    rcases hblank with rfl | rfl <;> rcases hc with hc | hc | hc <;> cases hc
  | list _ => rfl

/-- What may follow a value on its line ends it. -/
theorem Blanks.stops (h : Blanks s u) (hc : Comment u w) (hw : LineEnd w t) : Stops s := by
  have hends {d : Char} {s : List Char} (hmem : d ∈ s.head?)
      (hd : isBlank d = true ∨ startsEmptyLine d = true) : Stops s := by
    intro c hc
    cases Option.some.inj (hmem.symm.trans hc)
    simp only [isBlank, startsEmptyLine, Bool.or_eq_true, decide_eq_true_eq] at hd
    rcases hd with (rfl | rfl) | (rfl | rfl) | rfl <;> exact ⟨rfl, by decide⟩
  rcases h.head? with rfl | ⟨d, hmem, hd⟩
  · rcases hc.head? with rfl | ⟨d, hmem, hd⟩
    · cases hw with
      | newline hw =>
        obtain ⟨d, hmem, hd⟩ := hw.head?
        exact hends hmem (.inr hd)
      | document =>
        intro c hc
        cases hc
    · exact hends hmem (.inr hd)
  · exact hends hmem (.inl hd)

theorem statement?_of_ne (h : c ≠ '[') : statement? (c :: s) =
    (assignment? (value (depthLimit - 1)) (c :: s)).map
      fun ((path, v), r) => (.assignment path v, r) := by
  unfold statement?
  split
  · next heq => exact absurd (List.cons.inj heq).1 h
  · next heq => exact absurd (List.cons.inj heq).1 h
  · rfl

theorem assignment?_eq {α : Type} {item : Scanner α} {a : α}
    (hkey : key? s = some (found, '=' :: r)) (hitem : item.scan (skipBlanks r) = some (a, t)) :
    assignment? item s = some ((found, a), t) := by
  unfold assignment?
  rw [hkey]
  change Option.map _ _ = _
  rw [hitem]
  rfl

theorem statement?_brackets (u : List Char) : statement? ('[' :: '[' :: u) =
    match key? u with
    | some (path, ']' :: ']' :: r) => some (.header (.element path), r)
    | _ => none :=
  rfl

theorem statement?_bracket (hne : ∀ t, u ≠ '[' :: t) : statement? ('[' :: u) =
    match key? u with
    | some (path, ']' :: r) => some (.header (.table path), r)
    | _ => none := by
  unfold statement?
  split
  · next heq => exact absurd (List.cons.inj heq).2 (hne _)
  · next heq =>
    cases heq
    rfl
  · next hne' => exact absurd rfl (hne' u)

theorem Path.ne_bracket (h : Path s ks t) (u : List Char) : s ≠ '[' :: u := by
  rintro rfl
  obtain ⟨c, hmem, hc⟩ := h.head?
  cases hmem
  rcases hc with hc | hc <;> cases hc

/-- **A line** gives what it says. -/
theorem Line.statements_eq (h : Line s a u) (hc : Comment u w) (hw : LineEnd w t) :
    statements done s = statements (a.toList ++ done) t := by
  cases h with
  | nothing h =>
    have hskip : skipBlanks s = u := h.skipBlanks_eq.trans (hc.skipBlanks_eq hw)
    have hend := Blanks.nil.lineEnd?_eq hc hw
    rcases hc.head? with rfl | ⟨d, hmem, hd⟩
    · cases hw with
      | newline hw =>
        obtain ⟨d, hmem, hd⟩ := hw.head?
        obtain ⟨r, rfl⟩ := List.head?_eq_some_iff.mp hmem
        exact statements_of_blank hskip hd hend
      | document =>
        rw [statements_eq, hskip, statements_nil]
        rfl
    · obtain ⟨r, rfl⟩ := List.head?_eq_some_iff.mp hmem
      exact statements_of_blank hskip hd hend
  | entry hpath hblanks hwritten hend =>
    obtain ⟨c, r, hs, hkey, hpath'⟩ := hpath.exists_cons
    have hscan : (value (depthLimit - 1)).scan _ = _ :=
      hwritten.value_scan_eq (by decide) (hend.stops hc hw)
    rw [← hwritten.skipBlanks_eq, ← hblanks.skipBlanks_eq] at hscan
    refine statements_of_statement hs (startsEmptyLine_of_startsKey hkey) ?_
      (hend.lineEnd?_eq hc hw)
    rw [statement?_of_ne (startsKey_ne hkey rfl)]
    rw [assignment?_eq (hpath'.key?_eq rfl rfl (by decide)) hscan]
    rfl
  | header hs hpath hend =>
    exact statements_of_statement (hs.skipBlanks_cons rfl) rfl
      (by rw [statement?_bracket hpath.ne_bracket, hpath.key?_eq rfl rfl (by decide)]; rfl)
      (hend.lineEnd?_eq hc hw)

theorem Lines.statements_eq (h : Lines s ss t) :
    statements done s = statements (ss.reverse ++ done) t := by
  induction h generalizing done with
  | nil => rfl
  | @cons _ _ _ _ _ a ss hline hc hn _ ih =>
    rw [hline.statements_eq hc (.newline hn), ih, List.reverse_append, List.append_assoc]
    cases a <;> rfl

/-- **A document** is taken apart into its statements. -/
theorem Document.statements_eq (h : Document s ss) : statements [] s = some ss := by
  cases h with
  | @intro _ _ a ss hlines hline hc =>
    rw [hlines.statements_eq, hline.statements_eq hc .document, statements_nil, List.append_nil,
      List.reverse_append, List.reverse_reverse]
    cases a <;> rfl

/-! ## Beginnings -/

theorem Path.key?_extends (h : Path s ks t) (ht : EndsKey t) (hread : key? s = some (found, r)) :
    ks <+: found :=
  h.keyParts_extends ht (Option.filter_eq_some_iff.mp hread).1

theorem Path.assignment?_extends {α : Type} {item : Scanner α} {b : α} (h : Path s ks t)
    (ht : EndsKey t) (hread : assignment? item s = some ((found, b), r)) : ks <+: found := by
  unfold assignment? at hread
  split at hread
  · next hkey =>
    obtain ⟨_, -, heq⟩ := Option.map_eq_some_iff.mp hread
    cases heq
    exact h.key?_extends ht hkey
  · cases hread

/-- **A line that begins with a path** is taken as a statement about it, or not at all. -/
theorem Opens.statement?_extends {above ks : List String} (h : Opens above s ks) :
    ∃ c u, skipBlanks s = c :: u ∧ startsEmptyLine c = false ∧
      ∀ b r, statement? (c :: u) = some (b, r) → ks <+: b.path above := by
  cases h with
  | assignment hpath ht =>
    obtain ⟨c, u, hs, hkey, hpath'⟩ := hpath.exists_cons
    refine ⟨c, u, hs, startsEmptyLine_of_startsKey hkey, fun b r hb => ?_⟩
    rw [statement?_of_ne (startsKey_ne hkey rfl)] at hb
    obtain ⟨_, hassignment, heq⟩ := Option.map_eq_some_iff.mp hb
    cases heq
    exact List.prefix_append_right_inj above |>.mpr (hpath'.assignment?_extends ht hassignment)
  | table hs hpath ht =>
    refine ⟨_, _, hs.skipBlanks_cons rfl, rfl, fun b r hb => ?_⟩
    rw [statement?_bracket hpath.ne_bracket] at hb
    split at hb
    · next hkey =>
      cases hb
      exact hpath.key?_extends ht hkey
    · cases hb
  | element hs hpath ht =>
    refine ⟨_, _, hs.skipBlanks_cons rfl, rfl, fun b r hb => ?_⟩
    rw [statement?_brackets] at hb
    split at hb
    · next hkey =>
      cases hb
      exact hpath.key?_extends ht hkey
    · cases hb

/-- **Where a line begins with a path**, and whatever comes after that, a statement about the path
is taken or the document is not sound. -/
theorem Opens.exists_statement {above ks : List String} (h : Opens above s ks)
    (hread : statements done s = some ss) :
    ∃ b more, ss = done.reverse ++ b :: more ∧ ks <+: b.path above := by
  obtain ⟨c, u, hs, hc, hb⟩ := h.statement?_extends
  rw [statements_eq, hs] at hread
  dsimp only at hread
  rw [if_neg (by rw [hc]; exact Bool.false_ne_true)] at hread
  split at hread
  · cases hread
  · next b r hstatement =>
    split at hread
    · cases hread
    · obtain ⟨more, rfl⟩ := statements_extends hread
      exact ⟨b, more, by rw [List.reverse_cons, List.append_assoc]; rfl, hb b r hstatement⟩

/-! ## Byte order marks -/

/-- The text does not start with a byte order mark. -/
def Unmarked (s : List Char) : Prop :=
  s.head? ≠ some '\uFEFF'

theorem Mark.dropMark_eq (h : Mark s t) (ht : Unmarked t) : dropMark s = t := by
  cases h with
  | absent =>
    unfold dropMark
    split
    · exact absurd rfl ht
    · rfl
  | present => rfl

theorem unmarked_of_head? {p : Char → Bool} (h : ∃ c ∈ s.head?, p c = true)
    (hp : p '\uFEFF' = false) : Unmarked s := by
  intro heq
  obtain ⟨c, hmem, hc⟩ := h
  cases Option.some.inj (heq.symm.trans hmem)
  exact Bool.false_ne_true (hp.symm.trans hc)

theorem Blanks.unmarked (h : Blanks s t) (ht : Unmarked t) : Unmarked s := by
  rcases h.head? with rfl | hs
  · exact ht
  · exact unmarked_of_head? hs rfl

theorem Comment.unmarked (h : Comment s u) (hu : LineEnd u t) : Unmarked s := by
  rcases h.head? with rfl | hs
  · cases hu with
    | newline hu => exact unmarked_of_head? hu.head? rfl
    | document => nofun
  · exact unmarked_of_head? hs rfl

theorem Path.unmarked (h : Path s ks t) : Unmarked s := by
  obtain ⟨c, hmem, hc | hc⟩ := h.head?
  · exact unmarked_of_head? ⟨c, hmem, hc⟩ rfl
  · exact unmarked_of_head? ⟨c, hmem, hc⟩ rfl

theorem Line.unmarked (h : Line s a u) (hc : Comment u w) (hw : LineEnd w t) : Unmarked s := by
  cases h with
  | nothing h => exact h.unmarked (hc.unmarked hw)
  | entry hpath _ _ _ => exact hpath.unmarked
  | header hs _ _ => exact hs.unmarked nofun

theorem Lines.unmarked (h : Lines s ss t) (ht : Unmarked t) : Unmarked s := by
  cases h with
  | nil => exact ht
  | cons hline hc hn _ => exact hline.unmarked hc (.newline hn)

theorem Document.unmarked (h : Document s ss) : Unmarked s := by
  obtain ⟨hlines, hline, hc⟩ := h
  exact hlines.unmarked (hline.unmarked hc .document)

theorem Opens.unmarked {above : List String} (h : Opens above s ks) : Unmarked s := by
  cases h with
  | assignment hpath _ => exact hpath.unmarked
  | table hs _ _ => exact hs.unmarked nofun
  | element hs _ _ => exact hs.unmarked nofun

/-! ## Whole texts -/

/-- **A document** is taken apart into its statements, with a byte order mark or without. -/
theorem Mark.statements_eq (h : Mark s t) (ht : Document t ss) :
    statements [] (dropMark s) = some ss := by
  rw [h.dropMark_eq ht.unmarked, ht.statements_eq]

/-- **A text that goes on with a path after whole lines** makes a statement about this path, below
what the lines opened, or is not sound. -/
theorem Mark.exists_statement (h : Mark s t) (hlines : Lines t done u)
    (hopens : Opens (below [] done) u ks) (hread : statements [] (dropMark s) = some ss) :
    ∃ b more, ss = done ++ b :: more ∧ ks <+: b.path (below [] done) := by
  rw [h.dropMark_eq (hlines.unmarked hopens.unmarked), hlines.statements_eq] at hread
  obtain ⟨b, more, rfl, hb⟩ := hopens.exists_statement hread
  exact ⟨b, more, by rw [List.append_nil, List.reverse_reverse], hb⟩

end NodeCoverage.Toml
