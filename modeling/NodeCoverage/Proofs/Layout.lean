import Mathlib.Data.List.Nodup
import NodeCoverage.Json.Failure
import NodeCoverage.Proofs.Spelling

/-!
# Layouts of records

The fields of a record with how each is written, read off the record and put into it. The texts of
a record are described here by what they give: an object by its members, an array by its values. A
record holds what is given when each given field has its value and every other field its default.
This does not say in which order anything is put into the record, and yet there is exactly one such
record.

Results:
* `get_applyAll_of_mem`, `get_applyAll_of_notMem`: what members make of one field, by induction on
  the members;
* **`Layout.holds_iff`**: members, put into the blank record one after another, make the one record
  that holds what they give;
* `Layout.recordText_iff`: the texts of a record are those objects and arrays;
* `Layout.NullText.textOf`: null in the place of a field is as if nothing were there.
-/

namespace NodeCoverage.Json

/-- Which texts give a field of some record in them for the second time: the key, and the way to
that record. Whatever comes after the key is no part of the matter. -/
abbrev Repetition := List UInt8 → String → List Segment → Prop

/-- A value without records in it gives nothing twice. -/
def Repetition.never : Repetition :=
  fun _ _ _ => False

/-- A list gives a field twice in the item after some that are spelled as they should be. -/
inductive ListRepeats {α : Type} (S : Spelling α) (T : Repetition) : Repetition
  | item {last : Bool} {s u v : List UInt8} {as : List α} {key : String} {path : List Segment} :
      Items S true s as last u → Apart last u v → T v key path →
      ListRepeats S T (0x5B :: s) key (.index as.length :: path)

/-- A field of a record: how it is written and what it is if nobody gives it, and how it is read
off the record and put into it. -/
structure RecordField (R : Type) where
  name : String
  Value : Type
  spelling : Spelling Value
  default : Value
  get : R → Value
  set : Value → R → R
  /-- The texts of a value that give a field twice inside of it. -/
  repeats : Repetition := .never

namespace RecordField

variable {R : Type}

/-- The field as it is written. -/
def text (f : RecordField R) : FieldText R :=
  .of f.name f.spelling f.set

/-- The field, given with a value. -/
def given (f : RecordField R) (a : f.Value) : Given R :=
  ⟨some f.name, f.set a⟩

/-- The field with a value, in its place of an array. -/
def placed (f : RecordField R) (a : f.Value) : Position R :=
  ⟨f.text, f.set a⟩

end RecordField

/-- The fields of a record. Each is read off as it was put in, whatever is put into the others, and
together they are all that the record is. -/
structure Layout (R : Type) where
  fields : List (RecordField R)
  /-- The record that nobody gave a field of. -/
  blank : R
  distinct : (fields.map (·.name)).Nodup
  get_blank : ∀ f ∈ fields, f.get blank = f.default
  get_set : ∀ f ∈ fields, ∀ a r, f.get (f.set a r) = a
  get_set_of_ne : ∀ f ∈ fields, ∀ g ∈ fields, f.name ≠ g.name → ∀ a r, f.get (g.set a r) = f.get r
  ext : ∀ r r', (∀ f ∈ fields, f.get r = f.get r') → r = r'

namespace Layout

variable {R : Type} {layout : Layout R} {f g : RecordField R} {gs gs' : List (Given R)}
  {ps : List (Position R)} {r r' : R} {s t : List UInt8}

/-- The fields as they are written. -/
def texts (layout : Layout R) : List (FieldText R) :=
  layout.fields.map (·.text)

theorem map_name_texts (layout : Layout R) :
    layout.texts.map (·.name) = layout.fields.map (·.name) := by
  rw [texts, List.map_map]
  rfl

theorem eq_of_name_eq (hf : f ∈ layout.fields) (hg : g ∈ layout.fields) (h : f.name = g.name) :
    f = g :=
  List.inj_on_of_nodup_map layout.distinct hf hg h

/-! ## What is given -/

/-- A member gives a field of the record, or nothing. -/
inductive Gives (layout : Layout R) : Given R → Prop
  | field {f : RecordField R} (a : f.Value) : f ∈ layout.fields → Gives layout (f.given a)
  | other : Gives layout ⟨none, id⟩

/-- The record holds what the members give, and the default of every field that none of them
gives. -/
structure Holds (layout : Layout R) (gs : List (Given R)) (r : R) : Prop where
  given : ∀ f ∈ layout.fields, ∀ a, f.given a ∈ gs → f.get r = a
  absent : ∀ f ∈ layout.fields, f.name ∉ givenFields gs → f.get r = f.default

theorem gives_of_spells {text : FieldText R} (htext : text ∈ layout.texts) {change : R → R}
    (h : text.spells s change t) : layout.Gives ⟨some text.name, change⟩ := by
  obtain ⟨f, hf, rfl⟩ := List.mem_map.mp htext
  obtain ⟨a, -, rfl⟩ := h
  exact .field a hf

theorem gives_of_memberText {g : Given R} (h : MemberText layout.texts s g t) :
    layout.Gives g := by
  cases h with
  | field _ _ _ hf hw => exact gives_of_spells hf hw
  | other _ _ _ _ _ => exact .other

/-- A field that none of the members gives stays what it is. -/
theorem get_applyAll_of_notMem (hf : f ∈ layout.fields) (hgs : ∀ g ∈ gs, layout.Gives g)
    (hnot : f.name ∉ givenFields gs) (r : R) : f.get (applyAll gs r) = f.get r := by
  induction gs generalizing r with
  | nil => rfl
  | cons g gs ih =>
    obtain ⟨hg, hrest⟩ := List.forall_mem_cons.mp hgs
    cases hg with
    | @field g a hg =>
      obtain ⟨hne, hnot⟩ := not_or.mp fun h => hnot (List.mem_cons.mpr h)
      exact (ih hrest hnot _).trans (layout.get_set_of_ne f hf g hg hne a r)
    | other => exact ih hrest hnot r

/-- A field has the value with which it is given: no other member changes it. -/
theorem get_applyAll_of_mem (hf : f ∈ layout.fields) (hgs : ∀ g ∈ gs, layout.Gives g)
    (hdistinct : (givenFields gs).Nodup) {a : f.Value} (ha : f.given a ∈ gs) (r : R) :
    f.get (applyAll gs r) = a := by
  induction gs generalizing r with
  | nil => exact absurd ha List.not_mem_nil
  | cons g gs ih =>
    obtain ⟨hg, hrest⟩ := List.forall_mem_cons.mp hgs
    rcases List.mem_cons.mp ha with rfl | hlater
    · have hnot : f.name ∉ givenFields gs := (List.nodup_cons.mp hdistinct).1
      exact (get_applyAll_of_notMem hf hrest hnot _).trans (layout.get_set f hf a r)
    · cases hg with
      | field _ _ => exact ih hrest (List.nodup_cons.mp hdistinct).2 hlater _
      | other => exact ih hrest hdistinct hlater r

theorem holds_applyAll (hgs : ∀ g ∈ gs, layout.Gives g) (hdistinct : (givenFields gs).Nodup) :
    layout.Holds gs (applyAll gs layout.blank) where
  given _ hf _ ha := get_applyAll_of_mem hf hgs hdistinct ha _
  absent f hf hnot := (get_applyAll_of_notMem hf hgs hnot _).trans (layout.get_blank f hf)

/-- What is given says all about the record. -/
theorem Holds.unique (hgs : ∀ g ∈ gs, layout.Gives g) (h : layout.Holds gs r)
    (h' : layout.Holds gs r') : r = r' := by
  refine layout.ext r r' fun f hf => ?_
  by_cases hmem : f.name ∈ givenFields gs
  · obtain ⟨g, hg, hname⟩ := List.mem_filterMap.mp hmem
    cases hgs g hg with
    | @field f' a hf' =>
      obtain rfl := eq_of_name_eq hf' hf (Option.some.inj hname)
      rw [h.given f' hf a hg, h'.given f' hf a hg]
    | other => exact absurd hname nofun
  · rw [h.absent f hf hmem, h'.absent f hf hmem]

/-- **What members make of the blank record** is the one record that holds what they give. -/
theorem holds_iff (hgs : ∀ g ∈ gs, layout.Gives g) (hdistinct : (givenFields gs).Nodup) :
    layout.Holds gs r ↔ r = applyAll gs layout.blank := by
  constructor
  · intro h
    exact h.unique hgs (holds_applyAll hgs hdistinct)
  · rintro rfl
    exact holds_applyAll hgs hdistinct

/-- The order of the members is of no account. -/
theorem holds_perm (h : gs.Perm gs') : layout.Holds gs r ↔ layout.Holds gs' r := by
  have hfields : (givenFields gs).Perm (givenFields gs') := h.filterMap _
  constructor
  · intro hr
    exact ⟨fun f hf a ha => hr.given f hf a (h.mem_iff.mpr ha),
      fun f hf hnot => hr.absent f hf fun hmem => hnot (hfields.mem_iff.mp hmem)⟩
  · intro hr
    exact ⟨fun f hf a ha => hr.given f hf a (h.mem_iff.mp ha),
      fun f hf hnot => hr.absent f hf fun hmem => hnot (hfields.mem_iff.mpr hmem)⟩

/-- A field that is given with its default might as well not be given. -/
theorem Holds.of_default (hf : f ∈ layout.fields) (h : layout.Holds (f.given f.default :: gs) r) :
    layout.Holds gs r where
  given g hg a ha := h.given g hg a (List.mem_cons_of_mem _ ha)
  absent g hg hnot := by
    by_cases hname : g.name = f.name
    · obtain rfl := eq_of_name_eq hg hf hname
      exact h.given g hg g.default List.mem_cons_self
    · exact h.absent g hg fun hmem => (List.mem_cons.mp hmem).elim hname hnot

/-! ## Texts -/

/-- An object with its members: fields, none of them twice, among keys that nobody asks for. -/
inductive ObjectText (layout : Layout R) : Spelling (List (Given R))
  | intro {last : Bool} {s u t : List UInt8} {gs : List (Given R)} :
      Items (MemberText layout.texts) true s gs last u → (givenFields gs).Nodup →
      Blanks u (0x7D :: t) → ObjectText layout (0x7B :: s) gs t

/-- An array with its values, which are those of the first fields. -/
inductive ArrayText (layout : Layout R) : Spelling (List (Position R))
  | intro {last : Bool} {left : List (FieldText R)} {s u t : List UInt8} {ps : List (Position R)} :
      Items PositionText true s ps last u → ps.map (·.field) ++ left = layout.texts →
      Blanks u (0x5D :: t) → ArrayText layout (0x5B :: s) ps t

/-- A record in which the field is null, and what is given apart from that: an object with null at
its key, or an array that has null in its place and ends there. -/
inductive NullText (layout : Layout R) (f : RecordField R) : Spelling (List (Given R))
  | member {mid last : Bool} {s u k c v x y t : List UInt8} {before after : List (Given R)} :
      Items (MemberText layout.texts) true s before mid u → Apart mid u (0x22 :: k) →
      Chars k f.name.toList c → Blanks c (0x3A :: v) →
      Blanks v (0x6E :: 0x75 :: 0x6C :: 0x6C :: x) →
      Items (MemberText layout.texts) false x after last y → Blanks y (0x7D :: t) →
      (givenFields before ++ f.name :: givenFields after).Nodup →
      NullText layout f (0x7B :: s) (before ++ after) t
  | position {mid : Bool} {left : List (FieldText R)} {s u x t : List UInt8}
      {ps : List (Position R)} :
      Items PositionText true s ps mid u → ps.map (·.field) ++ f.text :: left = layout.texts →
      Apart mid u (0x6E :: 0x75 :: 0x6C :: 0x6C :: x) → Blanks x (0x5D :: t) →
      NullText layout f (0x5B :: s) (ps.map (·.given)) t

/-- A record gives a field twice: the key comes again, or the value that comes next gives a field
twice inside of it. What comes before is spelled as it should be. -/
inductive Repeats (layout : Layout R) : Repetition
  | here {last : Bool} {s u k c : List UInt8} {gs : List (Given R)} {key : String} :
      Items (MemberText layout.texts) true s gs last u → (givenFields gs).Nodup →
      Apart last u (0x22 :: k) → Chars k key.toList c → key ∈ givenFields gs →
      Repeats layout (0x7B :: s) key []
  | member {last : Bool} {s u k c v w : List UInt8} {gs : List (Given R)} {f : RecordField R}
      {key : String} {path : List Segment} :
      Items (MemberText layout.texts) true s gs last u → (givenFields gs).Nodup →
      Apart last u (0x22 :: k) → Chars k f.name.toList c → f ∈ layout.fields →
      f.name ∉ givenFields gs → Blanks c (0x3A :: v) → Blanks v w → f.repeats w key path →
      Repeats layout (0x7B :: s) key (.field f.name :: path)
  | position {last : Bool} {left : List (FieldText R)} {s u v : List UInt8}
      {ps : List (Position R)} {f : RecordField R} {key : String} {path : List Segment} :
      Items PositionText true s ps last u → ps.map (·.field) ++ f.text :: left = layout.texts →
      f ∈ layout.fields → Apart last u v → f.repeats v key path →
      Repeats layout (0x5B :: s) key (.index ps.length :: path)

theorem ObjectText.gives (h : layout.ObjectText s gs t) :
    (∀ g ∈ gs, layout.Gives g) ∧ (givenFields gs).Nodup := by
  obtain ⟨hitems, hdistinct, -⟩ := h
  exact ⟨hitems.forall_of fun _ _ _ => gives_of_memberText, hdistinct⟩

/-- The values of an array give the fields in whose place they stand. -/
theorem givenFields_map_given (ps : List (Position R)) :
    givenFields (ps.map (·.given)) = (ps.map (·.field)).map (·.name) := by
  induction ps with
  | nil => rfl
  | cons p ps ih => exact congrArg (p.field.name :: ·) ih

theorem ArrayText.gives (h : layout.ArrayText s ps t) :
    (∀ g ∈ ps.map (·.given), layout.Gives g) ∧ (givenFields (ps.map (·.given))).Nodup := by
  obtain @⟨_, left, _, _, _, _, hitems, hfields, -⟩ := h
  constructor
  · intro g hg
    obtain ⟨p, hp, rfl⟩ := List.mem_map.mp hg
    have hfield : p.field ∈ layout.texts := by
      rw [← hfields]
      exact List.mem_append_left left (List.mem_map_of_mem hp)
    obtain ⟨_, _, hspells⟩ := hitems.forall_of (P := fun p => ∃ s t, p.field.spells s p.change t)
      (fun s p t hp => ⟨s, t, hp⟩) p hp
    exact gives_of_spells hfield hspells
  · have hdistinct := layout.distinct
    rw [← map_name_texts, ← hfields, List.map_append] at hdistinct
    rw [givenFields_map_given]
    exact hdistinct.of_append_left

/-- **The texts of a record** are the objects and the arrays of its layout, and each stands for the
record that holds what it gives. -/
theorem recordText_iff :
    RecordText layout.blank layout.texts false s r t ↔
      (∃ gs, layout.ObjectText s gs t ∧ layout.Holds gs r) ∨
        ∃ ps, layout.ArrayText s ps t ∧ layout.Holds (ps.map (·.given)) r := by
  constructor
  · intro h
    cases h with
    | object hitems hdistinct _ hend =>
      have htext : layout.ObjectText _ _ _ := .intro hitems hdistinct hend
      exact .inl ⟨_, htext, holds_applyAll htext.gives.1 hdistinct⟩
    | array hitems hfields _ hend =>
      have htext : layout.ArrayText _ _ _ := .intro hitems hfields hend
      exact .inr ⟨_, htext, holds_applyAll htext.gives.1 htext.gives.2⟩
  · rintro (⟨gs, htext, hr⟩ | ⟨ps, htext, hr⟩)
    · rw [(holds_iff htext.gives.1 htext.gives.2).mp hr]
      obtain ⟨hitems, hdistinct, hend⟩ := htext
      exact .object hitems hdistinct nofun hend
    · rw [(holds_iff htext.gives.1 htext.gives.2).mp hr]
      obtain ⟨hitems, hfields, hend⟩ := htext
      exact .array hitems hfields nofun hend

/-- A text of the one record that holds what is given. -/
def TextOf (layout : Layout R) : Spelling (List (Given R)) :=
  fun s gs t => (∀ g ∈ gs, layout.Gives g) ∧
    ∃ r, RecordText layout.blank layout.texts false s r t ∧ layout.Holds gs r

theorem ObjectText.textOf (h : layout.ObjectText s gs t) : layout.TextOf s gs t :=
  have hr := holds_applyAll h.gives.1 h.gives.2
  ⟨h.gives.1, _, recordText_iff.mpr (.inl ⟨gs, h, hr⟩), hr⟩

theorem ArrayText.textOf (h : layout.ArrayText s ps t) :
    layout.TextOf s (ps.map (·.given)) t :=
  have hr := holds_applyAll h.gives.1 h.gives.2
  ⟨h.gives.1, _, recordText_iff.mpr (.inr ⟨ps, h, hr⟩), hr⟩

/-- A field that is given with its default, wherever, might as well not be given. -/
theorem TextOf.of_default (hf : f ∈ layout.fields) (h : layout.TextOf s gs t)
    (hgs : gs.Perm (f.given f.default :: gs')) : layout.TextOf s gs' t := by
  obtain ⟨hgives, r, hr, hholds⟩ := h
  refine ⟨fun g hg => hgives g ?_, r, hr, ((holds_perm hgs).mp hholds).of_default hf⟩
  exact hgs.mem_iff.mpr (List.mem_cons_of_mem _ hg)

/-- **A field that is null** is as if it were not there, when null stands for its default. -/
theorem NullText.textOf (hf : f ∈ layout.fields)
    (hnull : ∀ t, f.spelling (0x6E :: 0x75 :: 0x6C :: 0x6C :: t) f.default t)
    (h : layout.NullText f s gs t) : layout.TextOf s gs t := by
  have hspells : ∀ t, f.text.spells (0x6E :: 0x75 :: 0x6C :: 0x6C :: t) (f.set f.default) t :=
    fun t => ⟨f.default, hnull t, rfl⟩
  cases h with
  | @member _ _ s _ k _ _ x _ _ before after hbefore hkey hname hcolon hblank hafter hend
      hdistinct =>
    have hmember : MemberText layout.texts (0x22 :: k) (f.given f.default) x :=
      .field hname hcolon hblank (List.mem_map_of_mem hf) (hspells x)
    have htext : layout.ObjectText (0x7B :: s) (before ++ f.given f.default :: after) t := by
      refine .intro (hbefore.append (.cons hkey hmember hafter)) ?_ hend
      rw [givenFields_append]
      exact hdistinct
    exact htext.textOf.of_default hf List.perm_middle
  | @position _ left s _ x _ ps hitems hfields hu hend =>
    have hall : (ps ++ [f.placed f.default]).map (·.field) ++ left = layout.texts := by
      rw [List.map_append, List.append_assoc]
      exact hfields
    have htext : layout.ArrayText (0x5B :: s) (ps ++ [f.placed f.default]) t :=
      .intro (hitems.append (.cons hu (hspells x) .nil)) hall hend
    refine htext.textOf.of_default hf ?_
    rw [List.map_append]
    exact List.perm_append_singleton _ _

end Layout

end NodeCoverage.Json
