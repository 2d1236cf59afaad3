import NodeCoverage.Proofs.Gap
import NodeCoverage.Proofs.Layout

/-!
# Fields that are given twice

A reader goes through a text from the left and fails at the first key that it has seen before, at
whatever depth that key stands and whatever comes after it. The failure names the key and the way
to the record that gives it twice.

Results:
* `Reader.Rejects.map`, `Reader.Rejects.optional`, `Reader.Rejects.list`: readers that are put
  together reject what their parts reject;
* `RecordForm.Reads.fails_repeated`: a key that comes again;
* **`Layout.Fits.rejects_repeats`**: a record rejects a field given twice, in itself or inside one
  of its values.
-/

namespace NodeCoverage.Json

/-- The failure at a field that is given twice. -/
def givenTwice (key : String) (path : List Segment) : Failure :=
  ⟨.mismatched (.duplicateField key), path⟩

/-- The reader fails on every text that gives a field twice, for that reason and at that place. -/
structure Reader.Rejects {α : Type} (reader : Reader α) (T : Repetition) : Prop where
  starts {s : List UInt8} {key : String} {path : List Segment} : T s key path → StartsValue s
  fails {s : List UInt8} {key : String} {path : List Segment} : T s key path →
    reader.Fails s (givenTwice key path)

namespace Reader.Rejects

variable {α β : Type} {reader : Reader α} {S : Spelling α} {T : Repetition}

/-- There is nothing to reject in a value without records. -/
theorem never (reader : Reader α) : reader.Rejects .never where
  starts h := h.elim
  fails h := h.elim

theorem map (h : reader.Rejects T) (f : α → β) : (reader.map f).Rejects T where
  starts := h.starts
  fails hs := (h.fails hs).map f

/-- Null gives nothing twice. -/
theorem optional (h : reader.Rejects T) (hnull : ∀ s key path, ¬ T (0x6E :: s) key path) :
    (Reader.optional reader).Rejects T where
  starts := h.starts
  fails {s key path} hs r hr := by
    simp only [Reader.optional, hr.skipBlank_startsValue (h.starts hs)]
    split
    · exact absurd hs (hnull _ _ _)
    · exact (h.fails hs).map some r hr

theorem list (h : reader.Rejects T) (hitem : reader.Takes S) :
    (Reader.list reader).Rejects (ListRepeats S T) where
  starts hs := by
    cases hs with
    | item => exact ⟨rfl, by decide⟩
  fails hs := by
    cases hs with
    | item hitems hv hrepeats =>
      exact (h.fails hrepeats).list hitem hitems hv (h.starts hrepeats)

end Reader.Rejects

/-! ## Records -/

section Records

variable {R : Type} {form : RecordForm R} {layout : Layout R} {f : RecordField R} {key : String}
  {path : List Segment} {s t : List UInt8}

/-- A key that was seen before is not read. -/
theorem Chars.readKey_eq_error {k c : List UInt8} (h : Chars k key.toList c) {seen : List String}
    (hkey : key ∈ seen) : RecordForm.readKey seen k = .error (givenTwice key []) := by
  have hcontains : seen.contains key = true := List.contains_iff_mem.mpr hkey
  simp only [RecordForm.readKey, h.readText_eq, String.ofList_toList, hcontains, if_true]
  rfl

/-- **A key that comes again** fails the record, whatever comes after it. -/
theorem RecordForm.Reads.fails_repeated {fields : List (FieldText R)} (h : form.Reads fields)
    {last : Bool} {gs : List (Given R)} {u k c : List UInt8}
    (hs : Items (MemberText fields) true s gs last u) (hdistinct : (givenFields gs).Nodup)
    (hkey : Apart last u (0x22 :: k)) (hname : Chars k key.toList c)
    (hgiven : key ∈ givenFields gs) : form.reader.Fails (0x7B :: s) (givenTwice key []) := by
  intro r hr
  have hseen : key ∈ (givenFields gs).reverse := List.mem_reverse.mpr hgiven
  rw [h.read_object hr hs hdistinct fun hne => hs.stops_of_apart hne hkey, readKeyed_step]
  simp only [hkey.nextKey_eq, hname.readKey_eq_error hseen, Except.bind]

/-- The member reads the field and rejects what gives a field twice inside of it. -/
structure Member.Rejects (m : Member R) (f : RecordField R) : Prop where
  name_eq : m.name = f.name
  update : m.update.Rejects f.repeats

theorem Member.Rejects.of {α : Type} {name : String} {value : Reader α} {set : α → R → R}
    (hname : name = f.name) (h : value.Rejects f.repeats) :
    (Member.of name value set).Rejects f where
  name_eq := hname
  update := h.map set

namespace Layout

/-- No record is null. -/
theorem Repeats.ne_null : ¬ layout.Repeats (0x6E :: s) key path := by
  intro h
  cases h

/-- The form reads records of the layout: it starts from the same blank record and leaves away what
is not given, and each of its members reads the field in its place. -/
structure Fits (layout : Layout R) (form : RecordForm R) : Prop where
  blank_eq : form.blank = layout.blank
  strict_eq : form.strict = false
  reads : form.Reads layout.texts
  rejects : List.Forall₂ Member.Rejects form.members layout.fields

namespace Fits

theorem takes (h : layout.Fits form) :
    form.reader.Takes (RecordText layout.blank layout.texts false) := by
  rw [← h.blank_eq, ← h.strict_eq]
  exact h.reads.takes

/-- Every field is read by some member. -/
theorem exists_member (h : layout.Fits form) (hf : f ∈ layout.fields) :
    ∃ m ∈ form.members, m.Rejects f := by
  obtain ⟨i, rfl⟩ := List.mem_iff_get.mp hf
  have hi : i.1 < form.members.length := lt_of_lt_of_eq i.2 h.rejects.length_eq.symm
  exact ⟨_, List.get_mem _ ⟨i.1, hi⟩, h.rejects.get hi i.2⟩

/-- Every member reads some field, and its name says which. -/
theorem update_rejects (h : layout.Fits form) (hf : f ∈ layout.fields) {m : Member R}
    (hm : m ∈ form.members) (hname : m.name = f.name) : m.update.Rejects f.repeats := by
  obtain ⟨i, rfl⟩ := List.mem_iff_get.mp hm
  have hi : i.1 < layout.fields.length := lt_of_lt_of_eq i.2 h.rejects.length_eq
  have hrejects := h.rejects.get i.2 hi
  have hfield : f = layout.fields.get ⟨i.1, hi⟩ :=
    eq_of_name_eq hf (List.get_mem _ _) (hname.symm.trans hrejects.name_eq)
  rw [hfield]
  exact hrejects.update

/-- **A record rejects a field that is given twice**, in itself or inside one of its values. -/
theorem rejects_repeats (h : layout.Fits form) : form.reader.Rejects layout.Repeats where
  starts hs := by
    cases hs with
    | here => exact ⟨rfl, by decide⟩
    | member => exact ⟨rfl, by decide⟩
    | position => exact ⟨rfl, by decide⟩
  fails {s key path} hs := by
    cases hs with
    | here hitems hdistinct hkey hname hgiven =>
      exact h.reads.fails_repeated hitems hdistinct hkey hname hgiven
    | member hitems hdistinct hkey hname hf hfresh hcolon hblank hrepeats =>
      exact h.reads.fails_member hitems hdistinct hkey hname (List.mem_map_of_mem hf) hfresh hcolon
        hblank fun m hm hm' => (h.update_rejects hf hm hm').fails hrepeats
    | position hitems hfields hf hv hrepeats =>
      obtain ⟨m, -, hrejects⟩ := h.exists_member hf
      exact h.reads.fails_position hitems hfields hv (hrejects.update.starts hrepeats)
        fun m hm hm' => (h.update_rejects hf hm hm').fails hrepeats

end Fits

end Layout

end Records

end NodeCoverage.Json
