import NodeCoverage.Int128
import NodeCoverage.Proofs.Scanning

/-!
# Spellings of values

A spelling says which texts stand for which values. The spellings here are those of JSON with all
the freedom that it gives: blanks anywhere between tokens, the members of an object in any order
and among members that nobody asks for, keys with escapes, and a record as the array of its first
fields.

The items of a list, the members of an object and the values of an array are one relation, `Items`,
of three spellings.
-/

namespace NodeCoverage.Json

/-- Which text stands for which value, and what is left of the text. -/
abbrev Spelling (α : Type) := List UInt8 → α → List UInt8 → Prop

/-! ## Scalars and choices -/

/-- A word of 64 bits in decimal. -/
def WordText : Spelling UInt64 :=
  fun s n t => Numeral s n.toNat t

/-- A word of 32 bits in decimal. -/
def HalfWordText : Spelling UInt32 :=
  fun s n t => Numeral s n.toNat t

/-- An integer of 128 bits in decimal. -/
def Int128Text : Spelling Int128 :=
  fun s i t => Integer s i.val t

/-- A string with its quotes. -/
inductive StringText : Spelling String
  | intro {s t : List UInt8} {text : String} : Chars s text.toList t →
      StringText (0x22 :: s) text t

/-- Null, or a value. -/
inductive OptionText {α : Type} (S : Spelling α) : Spelling (Option α)
  | none {t : List UInt8} : OptionText S (0x6E :: 0x75 :: 0x6C :: 0x6C :: t) none t
  | some {s t : List UInt8} {a : α} : S s a t → OptionText S s (some a) t

/-! ## Items -/

/-- What stands before an item: blanks, and a comma among them unless it is the first. -/
inductive Apart : Bool → List UInt8 → List UInt8 → Prop
  | first {s t : List UInt8} : Blanks s t → Apart true s t
  | next {s u t : List UInt8} : Blanks s (0x2C :: u) → Blanks u t → Apart false s t

/-- Items one after another. The flags say whether no item stands before the text and before what
is left of it. -/
inductive Items {α : Type} (S : Spelling α) :
    Bool → List UInt8 → List α → Bool → List UInt8 → Prop
  | nil {first : Bool} {s : List UInt8} : Items S first s [] first s
  | cons {first last : Bool} {s u v t : List UInt8} {a : α} {as : List α} : Apart first s u →
      S u a v → Items S false v as last t → Items S first s (a :: as) last t

/-- A list. -/
inductive ListText {α : Type} (S : Spelling α) : Spelling (List α)
  | intro {last : Bool} {s u t : List UInt8} {as : List α} : Items S true s as last u →
      Blanks u (0x5D :: t) → ListText S (0x5B :: s) as t

section Items

variable {α : Type} {S : Spelling α} {first mid last : Bool} {as as' : List α}
  {s t u v : List UInt8}

/-- An item that is not the first ends a number before it. -/
theorem Apart.stops (h : Apart false s u) : Stops s := by
  cases h with
  | next hcomma _ => exact hcomma.stops stops_comma

theorem Items.stops (h : Items S false s as last t) (ht : Stops t) : Stops s := by
  cases h with
  | nil => exact ht
  | cons hs _ _ => exact hs.stops

theorem Items.last_eq_false (h : Items S false s as last u) : last = false := by
  generalize hfirst : false = first at h
  induction h with
  | nil => rfl
  | cons _ _ _ ih => exact (ih rfl).trans hfirst

/-- After items the next one is set apart by a comma, so that a number before it ends there. -/
theorem Items.stops_of_apart (h : Items S first s as last u) (hne : as ≠ [])
    (hu : Apart last u v) : Stops u := by
  cases h with
  | nil => exact absurd rfl hne
  | cons _ _ hrest =>
    rw [hrest.last_eq_false] at hu
    exact hu.stops

theorem Items.append (h : Items S first s as mid u) (h' : Items S mid u as' last t) :
    Items S first s (as ++ as') last t := by
  induction h with
  | nil => exact h'
  | cons hs ha _ ih => exact .cons hs ha (ih h')

/-- What holds of all that is spelled holds of every item. -/
theorem Items.forall_of {P : α → Prop} (h : Items S first s as last t)
    (hP : ∀ s a t, S s a t → P a) : ∀ a ∈ as, P a := by
  induction h with
  | nil => exact fun _ ha => absurd ha List.not_mem_nil
  | cons _ ha _ ih => exact List.forall_mem_cons.mpr ⟨hP _ _ _ ha, ih⟩

end Items

/-! ## Records -/

/-- A field of a record as it is written: its name, and what each text of its value makes of the
record. -/
structure FieldText (R : Type) where
  name : String
  spells : Spelling (R → R)

/-- The field of a name, by the spelling of its value and a setter. -/
def FieldText.of {R α : Type} (name : String) (S : Spelling α) (set : α → R → R) : FieldText R where
  name := name
  spells s f t := ∃ a, S s a t ∧ f = set a

/-- One member of an object: the field that it gives, if it is one, and what it makes of the
record. -/
structure Given (R : Type) where
  field? : Option String
  change : R → R

/-- The fields that members give. -/
def givenFields {R : Type} (gs : List (Given R)) : List String :=
  gs.filterMap (·.field?)

/-- What members make of a record, one after another. -/
def applyAll {R : Type} (gs : List (Given R)) (record : R) : R :=
  gs.foldl (fun r g => g.change r) record

/-- One value of an array: the field in whose place it stands, and what it makes of the record. -/
structure Position (R : Type) where
  field : FieldText R
  change : R → R

/-- A value in the place of a field gives the field. -/
def Position.given {R : Type} (p : Position R) : Given R :=
  ⟨some p.field.name, p.change⟩

section Records

variable {R : Type}

/-- A member of an object: a field with its value, or a key that nobody asks for with any value. -/
inductive MemberText (fields : List (FieldText R)) : Spelling (Given R)
  | field {k c v w x : List UInt8} {f : FieldText R} {change : R → R} : Chars k f.name.toList c →
      Blanks c (0x3A :: v) → Blanks v w → f ∈ fields → f.spells w change x →
      MemberText fields (0x22 :: k) ⟨some f.name, change⟩ x
  | other {k c v w x : List UInt8} {key : String} : Chars k key.toList c →
      Blanks c (0x3A :: v) → Blanks v w → key ∉ fields.map (·.name) → WellFormed .value w x →
      MemberText fields (0x22 :: k) ⟨none, id⟩ x

/-- A value of an array: one of the field in whose place it stands. -/
def PositionText : Spelling (Position R) :=
  fun s p t => p.field.spells s p.change t

/-- A record, as an object or as the array of its first fields. No field is given twice, and if all
of them are `required` each of them is given. -/
inductive RecordText (blank : R) (fields : List (FieldText R)) (required : Bool) : Spelling R
  | object {last : Bool} {s u t : List UInt8} {gs : List (Given R)} :
      Items (MemberText fields) true s gs last u → (givenFields gs).Nodup →
      (required = true → ∀ f ∈ fields, f.name ∈ givenFields gs) → Blanks u (0x7D :: t) →
      RecordText blank fields required (0x7B :: s) (applyAll gs blank) t
  | array {left : List (FieldText R)} {last : Bool} {s u t : List UInt8} {ps : List (Position R)} :
      Items PositionText true s ps last u → ps.map (·.field) ++ left = fields →
      (required = true → left = []) → Blanks u (0x5D :: t) →
      RecordText blank fields required (0x5B :: s) (applyAll (ps.map (·.given)) blank) t

theorem givenFields_append (gs gs' : List (Given R)) :
    givenFields (gs ++ gs') = givenFields gs ++ givenFields gs' :=
  List.filterMap_append

end Records

end NodeCoverage.Json
