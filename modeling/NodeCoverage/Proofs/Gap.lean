import NodeCoverage.Proofs.Reading

/-!
# Texts with a gap

A record is written around a gap when everything but the value of one of its fields is there. If
the gap is filled with a text of the field, the whole is a text of the record. If it is filled with
something that the reader of the field fails on, the reader of the record fails as well, for the
same cause and one step further out.

Results:
* `Reader.Fails.list`: the first item that is not read fails the list;
* `RecordForm.Reads.fails_member`, `RecordForm.Reads.fails_position`: so does the first value that
  is not read fail the record;
* `RecordGap.fill_text`: a filled gap is a text of the record;
* `RecordGap.fails`: a gap that is not read fails the record;
* `Integer.fails_int128`: an integer that does not fit into 128 bits is out of range.
-/

namespace NodeCoverage.Json

/-- The reader fails on the text, with blanks before it or without. -/
def Reader.Fails {α : Type} (reader : Reader α) (s : List UInt8) (f : Failure) : Prop :=
  ∀ r, Blanks r s → reader.read r = .error f

namespace Reader.Fails

variable {α β : Type} {reader : Reader α} {s r : List UInt8} {f : Failure}

theorem decode_eq (h : reader.Fails s f) (hr : Blanks r s) : reader.decode r = .error f := by
  simp only [decode, h r hr]

theorem map (h : reader.Fails s f) (g : α → β) : (reader.map g).Fails s f := by
  intro r hr
  simp only [Reader.map, h r hr, Except.map]

theorem member {R : Type} (h : reader.Fails s f) (name : String) (set : α → R → R) :
    (Member.of name reader set).update.Fails s f :=
  h.map set

theorem within (h : reader.Fails s f) (segment : Segment) :
    (reader.within segment).Fails s (f.within segment) := by
  intro r hr
  simp only [Reader.within, h r hr, Except.mapError]

end Reader.Fails

/-! ## Lists -/

section Lists

variable {α : Type} {reader : Reader α} {S : Spelling α} {first last : Bool} {as : List α}
  {s u v : List UInt8} {f : Failure}

/-- **The first item that is not read** fails the list, whatever comes after it. -/
theorem Reader.Fails.list (hitem : reader.Takes S) (hs : Items S true s as last u)
    (hu : Apart last u v) (hv : StartsValue v) (h : reader.Fails v f) :
    (Reader.list reader).Fails (0x5B :: s) (f.within (.index as.length)) := by
  intro r hr
  obtain ⟨hread, hlast⟩ :=
    hs.elements_eq hitem (fun hne => hs.stops_of_apart hne hu) (i := 0) rfl []
  rw [Nat.zero_add] at hread hlast
  have hnext : Reader.nextElement (as.length == 0) u = .ok (.element v) := by
    rw [hlast]
    exact hu.nextElement_eq hv
  simp only [Reader.list, readHead_list hr, hread]
  exact elements_error hnext (h v .nil)

end Lists

/-- An integer that does not fit is out of range, however long it is. -/
theorem Integer.fails_int128 {n : Int} {s t : List UInt8} (h : Integer s n t) (ht : Stops t)
    (hn : Int128.ofInt? n = none) :
    Reader.int128.Fails s ⟨.malformed .numberOutOfRange, []⟩ := by
  intro r hr
  have hscan : scanInteger Int128.ofInt? (Int128.bound.toNat + 1) s =
      .error (.malformed .numberOutOfRange) := h.scanInteger_error ht.noDigit (by omega) hn
  have hstart := h.startsValue
  cases s with
  | nil => exact hstart.elim
  | cons b s =>
    simp only [Reader.int128, Reader.readInt128, hr.skipBlank_cons hstart.1, hscan, here]

/-! ## Records -/

section Records

variable {R : Type} {form : RecordForm R} {fields : List (FieldText R)} {f : FieldText R}
  {last : Bool} {gs : List (Given R)} {ps : List (Position R)} {left : List (FieldText R)}
  {e : Failure} {r s u k c v w : List UInt8}

namespace RecordForm.Reads

/-- **The first member whose value is not read** fails the record, whatever comes after it. -/
theorem fails_member (hform : form.Reads fields)
    (hs : Items (MemberText fields) true s gs last u) (hdistinct : (givenFields gs).Nodup)
    (hkey : Apart last u (0x22 :: k)) (hname : Chars k f.name.toList c) (hf : f ∈ fields)
    (hfresh : f.name ∉ givenFields gs) (hcolon : Blanks c (0x3A :: v)) (hblank : Blanks v w)
    (hfails : ∀ m ∈ form.members, m.name = f.name → m.update.Fails w e) :
    form.reader.Fails (0x7B :: s) (e.within (.field f.name)) := by
  intro r hr
  obtain ⟨m, hm, -⟩ := hform.exists_member? hf
  have hvalue : form.readValue f.name c = .error (e.within (.field f.name)) := by
    have hupdate := hfails m (List.mem_of_find?_eq_some hm)
      (by simpa using List.find?_some hm)
    simp only [RecordForm.readValue, hcolon.readColon_eq, hm]
    exact (hupdate.within (.field f.name)) v hblank
  have hunseen : f.name ∉ (givenFields gs).reverse := by
    rw [List.mem_reverse]
    exact hfresh
  rw [hform.read_object hr hs hdistinct fun hne => hs.stops_of_apart hne hkey]
  exact readKeyed_error hkey.nextKey_eq (hname.readKey_eq hunseen) hvalue

/-- **The first value of an array that is not read** fails the record, whatever comes after it. -/
theorem fails_position (hform : form.Reads fields) (hs : Items PositionText true s ps last u)
    (hfields : ps.map (·.field) ++ f :: left = fields) (hv : Apart last u v)
    (hstarts : StartsValue v)
    (hfails : ∀ m ∈ form.members, m.name = f.name → m.update.Fails v e) :
    form.reader.Fails (0x5B :: s) (e.within (.index ps.length)) := by
  intro r hr
  have hmembers := hform.members
  rw [← hfields] at hmembers
  -- the values before are read, and the next member is that of the field
  obtain ⟨ms, hsub, hms, hread, hlast⟩ := hs.readPositional_eq form
    (fun hne => hs.stops_of_apart hne hv) hmembers (i := 0) rfl form.blank
  rw [Nat.zero_add] at hread hlast
  cases hms with
  | @cons m _ ms _ hm _ =>
    have hupdate := (hfails m (hsub List.mem_cons_self) hm.name_eq).within (.index ps.length)
    have hnext := hv.nextElement_eq hstarts
    simp only [RecordForm.reader, readHead_list hr, hread]
    simp only [RecordForm.readPositional, hlast, hnext, hupdate v .nil]

end RecordForm.Reads

end Records

/-! ## Gaps -/

section Gaps

variable {R : Type} {form : RecordForm R} {fields : List (FieldText R)} {f : FieldText R}
  {blank : R} {segment : Segment} {s h x t : List UInt8} {fill : (R → R) → R}

/-- The text `s` is a record written around a gap for the value of the field `f`: the gap starts
at `h`, the text goes on at `x` and what is left of it in the end is `t`. The segment says where
the gap is, and `fill` what the record is once the gap holds a change of it. -/
inductive RecordGap (blank : R) (fields : List (FieldText R)) (f : FieldText R) :
    Segment → List UInt8 → List UInt8 → List UInt8 → List UInt8 → ((R → R) → R) → Prop
  | object {mid last : Bool} {s u k c v h x y t : List UInt8} {before after : List (Given R)} :
      Items (MemberText fields) true s before mid u → Apart mid u (0x22 :: k) →
      Chars k f.name.toList c → Blanks c (0x3A :: v) → Blanks v h → f ∈ fields →
      Items (MemberText fields) false x after last y → Blanks y (0x7D :: t) →
      (givenFields before ++ f.name :: givenFields after).Nodup →
      RecordGap blank fields f (.field f.name) (0x7B :: s) h x t
        fun change => applyAll (before ++ ⟨some f.name, change⟩ :: after) blank
  | array {mid last : Bool} {left : List (FieldText R)} {s u h x y t : List UInt8}
      {before after : List (Position R)} :
      Items PositionText true s before mid u → Apart mid u h →
      Items PositionText false x after last y →
      before.map (·.field) ++ f :: (after.map (·.field) ++ left) = fields → Blanks y (0x5D :: t) →
      RecordGap blank fields f (.index before.length) (0x5B :: s) h x t fun change =>
        applyAll ((before ++ ⟨f, change⟩ :: after).map (·.given)) blank

theorem RecordGap.startsValue (hgap : RecordGap blank fields f segment s h x t fill) :
    StartsValue s := by
  cases hgap with
  | object => exact ⟨rfl, by decide⟩
  | array => exact ⟨rfl, by decide⟩

/-- What follows the gap ends a number in it. -/
theorem RecordGap.stops (hgap : RecordGap blank fields f segment s h x t fill) : Stops x := by
  cases hgap with
  | object _ _ _ _ _ _ hafter hend => exact hafter.stops (hend.stops stops_recordEnd)
  | array _ _ hafter _ hend => exact hafter.stops (hend.stops stops_listEnd)

/-- **A filled gap** makes a text of the record. -/
theorem RecordGap.fill_text (hgap : RecordGap blank fields f segment s h x t fill)
    {change : R → R} (hh : f.spells h change x) :
    RecordText blank fields false s (fill change) t := by
  cases hgap with
  | object hbefore hkey hname hcolon hblank hf hafter hend hdistinct =>
    have hmember := MemberText.field hname hcolon hblank hf hh
    refine .object (hbefore.append (.cons hkey hmember hafter)) ?_ nofun hend
    rw [givenFields_append]
    exact hdistinct
  | @array _ _ left _ _ _ _ _ _ before after hbefore hu hafter hfields hend =>
    have hvalue : PositionText h ⟨f, change⟩ x := hh
    have hall : (before ++ ⟨f, change⟩ :: after).map (·.field) ++ left = fields := by
      rw [List.map_append, List.append_assoc]
      exact hfields
    exact .array (hbefore.append (.cons hu hvalue hafter)) hall nofun hend

/-- **A gap that is not read** fails the record, at the place of the gap. -/
theorem RecordGap.fails (hform : form.Reads fields)
    (hgap : RecordGap blank fields f segment s h x t fill) (hh : StartsValue h) {e : Failure}
    (hfails : ∀ m ∈ form.members, m.name = f.name → m.update.Fails h e) :
    form.reader.Fails s (e.within segment) := by
  cases hgap with
  | object hbefore hkey hname hcolon hblank hf _ _ hdistinct =>
    -- none of the members before the gap gives its field
    obtain ⟨hbeforeDistinct, -, hdisjoint⟩ := List.nodup_append.mp hdistinct
    exact hform.fails_member hbefore hbeforeDistinct hkey hname hf
      (fun hmem => hdisjoint _ hmem _ List.mem_cons_self rfl) hcolon hblank hfails
  | array hbefore hu _ hfields _ =>
    exact hform.fails_position hbefore hfields hu hh hfails

end Gaps

end NodeCoverage.Json
