import Mathlib.Data.List.Nodup
import NodeCoverage.Json.Record
import NodeCoverage.Proofs.Skipping
import NodeCoverage.Proofs.Spelling

/-!
# Reading what is spelled

A reader takes a spelling when it reads each of its texts as the value that it stands for, with
blanks before it, and leaves what follows. The readers of the wire take the spellings of JSON.

Results:
* `takes_uint64`, `takes_uint32`, `takes_int128`, `takes_text`: scalars;
* `Items.elements_eq`, `Items.readKeyed_eq`, `Items.readPositional_eq`: the loops over the items of
  a list, the members of an object and the values of an array, by induction on the items;
* `Reader.Takes.optional`, `Reader.Takes.list`: readers that are put together take what is;
* **`RecordForm.Reads.takes`**: so does the reader of a record.
-/

namespace NodeCoverage.Json

/-- The reader takes every text of the spelling for the value that it stands for, and leaves what
follows it. -/
structure Reader.Takes {α : Type} (reader : Reader α) (S : Spelling α) : Prop where
  starts {s t : List UInt8} {a : α} : S s a t → StartsValue s
  reads {s t r : List UInt8} {a : α} : S s a t → Stops t → Blanks r s →
    reader.read r = .ok (a, t)

namespace Reader.Takes

variable {α β : Type} {reader : Reader α} {S : Spelling α} {s t r : List UInt8} {a : α}

/-- A whole text is decoded, with blanks around the value. -/
theorem decode_eq (h : reader.Takes S) (hs : S s a t) (hr : Blanks r s) (ht : Blanks t []) :
    reader.decode r = .ok a := by
  simp only [decode, h.reads hs (ht.stops Stops.nil) hr, ht.skipBlank_eq]
  rfl

theorem map (h : reader.Takes S) (f : α → β) :
    (reader.map f).Takes fun s b t => ∃ a, S s a t ∧ b = f a where
  starts := by
    rintro s t b ⟨a, hs, -⟩
    exact h.starts hs
  reads := by
    rintro s t r b ⟨a, hs, rfl⟩ ht hr
    simp only [Reader.map, h.reads hs ht hr, Except.map]

theorem within (h : reader.Takes S) (segment : Segment) : (reader.within segment).Takes S where
  starts := h.starts
  reads hs ht hr := by simp only [Reader.within, h.reads hs ht hr, Except.mapError]

end Reader.Takes

/-! ## Scalars -/

section Scalars

variable {b : UInt8} {n : Nat} {s t r : List UInt8}

theorem readHead_eq (hr : Blanks r (b :: s)) (hb : isBlank b = false) :
    readHead r = readHeadAt b s := by
  simp only [readHead, hr.skipBlank_cons hb]

theorem readHead_text (hr : Blanks r (0x22 :: s)) {cs : List Char} (hs : Chars s cs t) :
    readHead r = .ok (.text (String.ofList cs), t) := by
  rw [readHead_eq hr rfl, readHeadAt, hs.readText_eq]
  rfl

theorem readHead_list (hr : Blanks r (0x5B :: s)) : readHead r = .ok (.list, s) := by
  rw [readHead_eq hr rfl]
  rfl

theorem readHead_record (hr : Blanks r (0x7B :: s)) : readHead r = .ok (.record, s) := by
  rw [readHead_eq hr rfl]
  rfl

theorem Numeral.readHead_eq (h : Numeral s n t) (ht : Stops t) (hn : n < UInt64.size)
    (hr : Blanks r s) : readHead r = .ok (.number (.natural n.toUInt64), t) := by
  have hread := h.readNumber_eq ht hn
  obtain ⟨d, s', rfl, hd⟩ := h.exists_cons
  rw [Json.readHead_eq hr (startsValue_of_isDigit (s := s') hd).1, readHeadAt,
    if_neg (isDigit_ne hd rfl), if_neg (isDigit_ne hd rfl), if_neg (isDigit_ne hd rfl),
    if_neg (isDigit_ne hd rfl), if_neg (isDigit_ne hd rfl), if_neg (isDigit_ne hd rfl),
    if_pos (Or.inr hd), hread]
  rfl

theorem Numeral.startsValue (h : Numeral s n t) : StartsValue s :=
  (Integer.natural h).startsValue

theorem takes_uint64 : Reader.uint64.Takes WordText where
  starts h := h.startsValue
  reads {s t r a} h ht hr := by
    simp only [Reader.uint64, Reader.natural, Reader.ofHead, h.readHead_eq ht a.toNat_lt hr,
      UInt64.ofNat_toNat]

theorem takes_uint32 : Reader.uint32.Takes HalfWordText where
  starts h := h.startsValue
  reads {s t r a} h ht hr := by
    have hlt : a.toNat < UInt64.size := Nat.lt_trans a.toNat_lt (by decide)
    have hnat : a.toNat.toUInt64.toNat = a.toNat := UInt64.toNat_ofNat_of_lt' hlt
    have hword : a.toNat.toUInt64.toUInt32 = a := by
      rw [← UInt32.toNat_inj, UInt64.toNat_toUInt32, hnat, Nat.mod_eq_of_lt a.toNat_lt]
    simp only [Reader.uint32, Reader.natural, Reader.ofHead, h.readHead_eq ht hlt hr, hnat, hword,
      if_pos a.toNat_lt]

theorem takes_text : Reader.text.Takes StringText where
  starts h := by
    obtain ⟨-⟩ := h
    exact ⟨rfl, by decide⟩
  reads h _ hr := by
    obtain ⟨hc⟩ := h
    simp only [Reader.text, Reader.ofHead, readHead_text hr hc, String.ofList_toList]

theorem takes_int128 : Reader.int128.Takes Int128Text where
  starts h := Integer.startsValue h
  reads {s t r a} h ht hr := by
    have hbound : a.val.natAbs < Int128.bound.toNat + 1 := by
      have := a.min_le
      have := a.lt_bound
      omega
    have hscan := Integer.scanInteger_eq h ht.noDigit hbound (Int128.ofInt?_val a)
    have hstart := Integer.startsValue h
    cases s with
    | nil => exact hstart.elim
    | cons b s =>
      simp only [Reader.int128, Reader.readInt128, hr.skipBlank_cons hstart.1, hscan, here]

end Scalars

/-! ## Choices and lists -/

section Lists

variable {α : Type} {reader : Reader α} {S : Spelling α}

/-- Null is no value of the reader, so that it can stand for no value. -/
theorem Reader.Takes.optional (h : reader.Takes S)
    (hnull : ∀ s a t, S (0x6E :: s) a t → False) :
    (Reader.optional reader).Takes (OptionText S) where
  starts hs := by
    cases hs with
    | none => exact ⟨rfl, by decide⟩
    | some hs => exact h.starts hs
  reads {s t r a} hs ht hr := by
    cases hs with
    | none =>
      simp only [Reader.optional, hr.skipBlank_cons (b := 0x6E) rfl]
      rfl
    | some hs =>
      simp only [Reader.optional, hr.skipBlank_startsValue (h.starts hs)]
      split
      · exact (hnull _ _ _ hs).elim
      · simp only [Reader.map, h.reads hs ht hr, Except.map]

theorem Apart.nextElement_eq {first : Bool} {s u : List UInt8} (h : Apart first s u)
    (hu : StartsValue u) : Reader.nextElement first s = .ok (.element u) := by
  cases u with
  | nil => exact hu.elim
  | cons b u =>
    cases h with
    | first hs =>
      simp only [Reader.nextElement, hs.skipBlank_cons hu.1, if_neg hu.2, if_true]
    | next hcomma hs =>
      simp only [Reader.nextElement, hcomma.skipBlank_cons rfl, hs.skipBlank_cons hu.1,
        if_neg hu.2, if_true, Bool.false_eq_true, if_false]
      rfl

theorem Blanks.nextElement_eq {s t : List UInt8} (h : Blanks s (0x5D :: t)) (first : Bool) :
    Reader.nextElement first s = .ok (.done t) := by
  simp only [Reader.nextElement, h.skipBlank_cons rfl, if_true]

/-- One turn of the loop over the items of a list. -/
theorem elements_step (item : Reader α) (i : Nat) (done : List α) (s : List UInt8) :
    Reader.elements item i done s =
      match Reader.nextElement (i == 0) s with
      | .error e => .error ⟨e, []⟩
      | .ok (.done t) => .ok (done.reverse, t)
      | .ok (.element u) =>
        ((item.within (.index i)).read u).bind fun read =>
          Reader.elements item (i + 1) (read.1 :: done) read.2 := by
  conv => lhs; rw [Reader.elements]
  split
  · next h => simp only [h]
  · next h => simp only [h]
  · next h =>
    simp only [h]
    split
    · next h => simp only [h, Except.bind]
    · next h => simp only [h, Except.bind]

theorem elements_element {item : Reader α} {i : Nat} {done : List α} {s u t : List UInt8} {a : α}
    (hs : Reader.nextElement (i == 0) s = .ok (.element u)) (ha : item.read u = .ok (a, t)) :
    Reader.elements item i done s = Reader.elements item (i + 1) (a :: done) t := by
  rw [elements_step]
  simp only [hs, Reader.within, ha, Except.mapError, Except.bind]

theorem elements_done {item : Reader α} {i : Nat} {done : List α} {s t : List UInt8}
    (hs : Reader.nextElement (i == 0) s = .ok (.done t)) :
    Reader.elements item i done s = .ok (done.reverse, t) := by
  rw [elements_step]
  simp only [hs]

theorem elements_error {item : Reader α} {i : Nat} {done : List α} {s u : List UInt8} {f : Failure}
    (hs : Reader.nextElement (i == 0) s = .ok (.element u)) (hu : item.read u = .error f) :
    Reader.elements item i done s = .error (f.within (.index i)) := by
  rw [elements_step]
  simp only [hs, Reader.within, hu, Except.mapError, Except.bind]

/-- **Items are read one after another**, up to what is left of the text. -/
theorem Items.elements_eq (hitem : reader.Takes S) {first last : Bool} {s t : List UInt8}
    {as : List α} (h : Items S first s as last t) (ht : as ≠ [] → Stops t) {i : Nat}
    (hi : (i == 0) = first) (done : List α) :
    Reader.elements reader i done s =
        Reader.elements reader (i + as.length) (as.reverse ++ done) t ∧
      (i + as.length == 0) = last := by
  induction h generalizing i done with
  | nil => exact ⟨rfl, hi⟩
  | @cons first last s u v t a as hs ha hrest ih =>
    have hstops : Stops t := ht (List.cons_ne_nil a as)
    obtain ⟨hread, hlast⟩ := ih (fun _ => hstops) (i := i + 1) rfl (a :: done)
    have helement := hs.nextElement_eq (hitem.starts ha)
    rw [← hi] at helement
    have hlength : i + 1 + as.length = i + (a :: as).length := by
      rw [List.length_cons]
      omega
    rw [elements_element helement (hitem.reads ha (hrest.stops hstops) .nil), hread, hlength,
      List.reverse_cons, List.append_assoc, List.singleton_append]
    exact ⟨rfl, hlength ▸ hlast⟩

theorem Reader.Takes.list (hitem : reader.Takes S) :
    (Reader.list reader).Takes (ListText S) where
  starts hs := by
    cases hs with
    | intro _ _ => exact ⟨rfl, by decide⟩
  reads {s t r as} hs _ hr := by
    cases hs with
    | @intro last s u t as hitems hend =>
      obtain ⟨hread, -⟩ :=
        hitems.elements_eq hitem (fun _ => hend.stops stops_listEnd) (i := 0) rfl []
      simp only [Reader.list, readHead_list hr, hread, elements_done (hend.nextElement_eq _),
        List.append_nil, List.reverse_reverse]

end Lists

/-! ## Records -/

theorem Apart.nextKey_eq {first : Bool} {s k : List UInt8} (h : Apart first s (0x22 :: k)) :
    nextKey first s = .ok (.key k) := by
  cases h with
  | first hs => simp [nextKey, hs.skipBlank_cons (b := 0x22) rfl]
  | next hcomma hs =>
    simp [nextKey, hcomma.skipBlank_cons (b := 0x2C) rfl, hs.skipBlank_cons (b := 0x22) rfl]

theorem Blanks.nextKey_eq {s t : List UInt8} (h : Blanks s (0x7D :: t)) (first : Bool) :
    nextKey first s = .ok (.done t) := by
  simp only [nextKey, h.skipBlank_cons rfl, if_true]

theorem Blanks.readColon_eq {s t : List UInt8} (h : Blanks s (0x3A :: t)) :
    readColon s = .ok t := by
  simp only [readColon, h.skipBlank_cons rfl, if_true]

theorem Blanks.readArrayEnd_eq {s t : List UInt8} (h : Blanks s (0x5D :: t)) :
    readArrayEnd s = .ok t := by
  simp only [readArrayEnd, h.skipBlank_cons rfl, if_true]

/-- The member reads the field: it has its name, and its reader takes the spelling. -/
structure Member.Reads {R : Type} (m : Member R) (f : FieldText R) : Prop where
  name_eq : m.name = f.name
  takes : m.update.Takes f.spells

section Forms

variable {R : Type} {form : RecordForm R} {fields : List (FieldText R)} {f : FieldText R}

theorem map_name_eq {ms : List (Member R)} (h : List.Forall₂ Member.Reads ms fields) :
    ms.map (·.name) = fields.map (·.name) := by
  induction h with
  | nil => rfl
  | cons hm _ ih => rw [List.map_cons, List.map_cons, hm.name_eq, ih]

theorem exists_find?_eq {ms : List (Member R)} (h : List.Forall₂ Member.Reads ms fields)
    (hdistinct : (fields.map (·.name)).Nodup) (hf : f ∈ fields) :
    ∃ m, ms.find? (·.name == f.name) = some m ∧ m.update.Takes f.spells := by
  induction h with
  | nil => exact absurd hf List.not_mem_nil
  | @cons m g ms gs hm _ ih =>
    rw [List.map_cons, List.nodup_cons] at hdistinct
    rcases List.mem_cons.mp hf with rfl | hf
    · exact ⟨m, List.find?_cons_of_pos (by simpa using hm.name_eq), hm.takes⟩
    · have hne : m.name ≠ f.name := by
        rw [hm.name_eq]
        exact fun heq => hdistinct.1 (heq ▸ List.mem_map_of_mem hf)
      rw [List.find?_cons_of_neg (by simpa using hne)]
      exact ih hdistinct.2 hf

/-- The form reads the fields: they have the same names in the same order, all of them different,
and each member of the form reads its field. -/
structure RecordForm.Reads (form : RecordForm R) (fields : List (FieldText R)) : Prop where
  distinct : (fields.map (·.name)).Nodup
  members : List.Forall₂ Member.Reads form.members fields

namespace RecordForm.Reads

theorem exists_member? (h : form.Reads fields) (hf : f ∈ fields) :
    ∃ m, form.member? f.name = some m ∧ m.update.Takes f.spells :=
  exists_find?_eq h.members h.distinct hf

theorem member?_eq_none (h : form.Reads fields) {key : String}
    (hkey : key ∉ fields.map (·.name)) : form.member? key = none := by
  rw [← map_name_eq h.members] at hkey
  unfold RecordForm.member?
  rw [List.find?_eq_none]
  intro m hm heq
  exact hkey (by rw [← eq_of_beq heq]; exact List.mem_map_of_mem hm)

/-- The value of a key of the record. -/
theorem readValue_field (h : form.Reads fields) (hf : f ∈ fields) {change : R → R}
    {c v w x : List UInt8} (hcolon : Blanks c (0x3A :: v)) (hblank : Blanks v w)
    (hw : f.spells w change x) (hx : Stops x) :
    form.readValue f.name c = .ok (change, x) := by
  obtain ⟨m, hm, htakes⟩ := h.exists_member? hf
  simp only [RecordForm.readValue, hcolon.readColon_eq, hm]
  exact (htakes.within (.field f.name)).reads hw hx hblank

/-- The value of a key that the record does not have. -/
theorem readValue_other (h : form.Reads fields) {key : String}
    (hkey : key ∉ fields.map (·.name)) {c v w x : List UInt8} (hcolon : Blanks c (0x3A :: v))
    (hblank : Blanks v w) (hw : WellFormed .value w x) (hx : Stops x) :
    form.readValue key c = .ok (id, x) := by
  simp only [RecordForm.readValue, hcolon.readColon_eq, h.member?_eq_none hkey,
    hw.skipValue_eq hx hblank]

end RecordForm.Reads

theorem Chars.readKey_eq {k c : List UInt8} {key : String} (h : Chars k key.toList c)
    {seen : List String} (hkey : key ∉ seen) : RecordForm.readKey seen k = .ok (key, c) := by
  have hcontains : seen.contains key = false := by
    rw [Bool.eq_false_iff, ne_eq, List.contains_iff_mem]
    exact hkey
  simp only [RecordForm.readKey, h.readText_eq, String.ofList_toList, hcontains,
    Bool.false_eq_true, if_false]

/-- One turn of the loop over the members of an object. -/
theorem readKeyed_step (form : RecordForm R) (first : Bool) (seen : List String) (record : R)
    (s : List UInt8) :
    form.readKeyed first seen record s =
      match nextKey first s with
      | .error e => .error ⟨e, [.unknown]⟩
      | .ok (.done t) =>
        match form.missing? seen with
        | some name => mismatch (.missingField name)
        | none => .ok (record, t)
      | .ok (.key k) =>
        (RecordForm.readKey seen k).bind fun key =>
          (form.readValue key.1 key.2).bind fun value =>
            form.readKeyed false (if (form.member? key.1).isSome then key.1 :: seen else seen)
              (value.1 record) value.2 := by
  conv => lhs; rw [RecordForm.readKeyed]
  split
  · next h => simp only [h]
  · next h =>
    -- the two matches on what is missing need not be one and the same
    cases form.missing? seen
    · simp only [h]
    · simp only [h]
  · next h =>
    simp only [h]
    split
    · next h => simp only [h, Except.bind]
    · next h =>
      simp only [h, Except.bind]
      split
      · next h => simp only [h]
      · next h => simp only [h]

/-- One key and its value. -/
theorem readKeyed_key {first : Bool} {seen : List String} {record : R} {key : String}
    {change : R → R} {s k c x : List UInt8} (hs : nextKey first s = .ok (.key k))
    (hk : RecordForm.readKey seen k = .ok (key, c))
    (hv : form.readValue key c = .ok (change, x)) :
    form.readKeyed first seen record s =
      form.readKeyed false (if (form.member? key).isSome then key :: seen else seen)
        (change record) x := by
  rw [readKeyed_step]
  simp only [hs, hk, hv, Except.bind]

theorem readKeyed_done {first : Bool} {seen : List String} {record : R} {s t : List UInt8}
    (hs : nextKey first s = .ok (.done t)) (hseen : form.missing? seen = none) :
    form.readKeyed first seen record s = .ok (record, t) := by
  rw [readKeyed_step]
  simp only [hs, hseen]

/-- A value that is not read fails the record at its key. -/
theorem readKeyed_error {first : Bool} {seen : List String} {record : R} {key : String}
    {s k c : List UInt8} {e : Failure} (hs : nextKey first s = .ok (.key k))
    (hk : RecordForm.readKey seen k = .ok (key, c)) (hv : form.readValue key c = .error e) :
    form.readKeyed first seen record s = .error e := by
  rw [readKeyed_step]
  simp only [hs, hk, hv, Except.bind]

/-- **Members are read one after another**, up to what is left of the text. -/
theorem Items.readKeyed_eq (hform : form.Reads fields) {first last : Bool} {s t : List UInt8}
    {gs : List (Given R)} (h : Items (MemberText fields) first s gs last t)
    (ht : gs ≠ [] → Stops t) {seen : List String}
    (hseen : ∀ key ∈ seen, key ∈ fields.map (·.name))
    (hnew : ((givenFields gs).reverse ++ seen).Nodup) (record : R) :
    form.readKeyed first seen record s =
      form.readKeyed last ((givenFields gs).reverse ++ seen) (applyAll gs record) t := by
  induction h generalizing seen record with
  | nil => rfl
  | @cons first last s u v t g gs hs hg hrest ih =>
    have hstops : Stops t := ht (List.cons_ne_nil g gs)
    cases hg with
    | @field k c v w x f change hk hcolon hblank hf hw =>
      have hgiven : (givenFields (⟨some f.name, change⟩ :: gs)).reverse ++ seen =
          (givenFields gs).reverse ++ f.name :: seen := by
        simp [givenFields]
      rw [hgiven] at hnew ⊢
      -- a field given before would stand twice among those given
      have hfresh : f.name ∉ seen :=
        (List.nodup_cons.mp (List.nodup_append.mp hnew).2.1).1
      obtain ⟨m, hm, -⟩ := hform.exists_member? hf
      rw [readKeyed_key hs.nextKey_eq (hk.readKey_eq hfresh)
        (hform.readValue_field hf hcolon hblank hw (hrest.stops hstops)), hm]
      refine ih (fun _ => hstops) ?_ hnew (change record)
      intro key hkey
      rcases List.mem_cons.mp hkey with rfl | hkey
      · exact List.mem_map_of_mem hf
      · exact hseen key hkey
    | @other k c v w x key hk hcolon hblank hkey hw =>
      -- only fields are remembered, so such a key may come more than once
      have hfresh : key ∉ seen := fun hmem => hkey (hseen key hmem)
      rw [readKeyed_key hs.nextKey_eq (hk.readKey_eq hfresh)
        (hform.readValue_other hkey hcolon hblank hw (hrest.stops hstops)),
        hform.member?_eq_none hkey]
      exact ih (fun _ => hstops) hseen hnew record

/-- One value of a record that is written as an array. -/
theorem readPositional_cons {m : Member R} {ms : List (Member R)} {i : Nat} {first : Bool}
    (hi : (i == 0) = first) (htakes : m.update.Takes f.spells) {change : R → R}
    {s u v : List UInt8} (hs : Apart first s u) (hu : f.spells u change v) (hv : Stops v)
    (record : R) :
    form.readPositional (m :: ms) i record s =
      form.readPositional ms (i + 1) (change record) v := by
  have helement := hs.nextElement_eq (htakes.starts hu)
  have hread := (htakes.within (.index i)).reads hu hv .nil
  simp only [RecordForm.readPositional, hi, helement, hread]

/-- Values are read one after another, each for the next member. -/
theorem Items.readPositional_eq (form : RecordForm R) {first last : Bool} {s t : List UInt8}
    {ps : List (Position R)} (h : Items PositionText first s ps last t) (ht : ps ≠ [] → Stops t)
    {ms : List (Member R)} {left : List (FieldText R)}
    (hms : List.Forall₂ Member.Reads ms (ps.map (·.field) ++ left)) {i : Nat}
    (hi : (i == 0) = first) (record : R) :
    ∃ ms' ⊆ ms, List.Forall₂ Member.Reads ms' left ∧
      form.readPositional ms i record s =
        form.readPositional ms' (i + ps.length) (applyAll (ps.map (·.given)) record) t ∧
      (i + ps.length == 0) = last := by
  induction h generalizing ms i record with
  | nil => exact ⟨ms, List.Subset.refl ms, hms, rfl, hi⟩
  | @cons first last s u v t p ps hs hu hrest ih =>
    cases hms with
    | @cons m _ ms _ hm hms =>
      have hstops : Stops t := ht (List.cons_ne_nil p ps)
      obtain ⟨ms', hsub, hleft, hread, hlast⟩ :=
        ih (fun _ => hstops) hms (i := i + 1) rfl (p.change record)
      have hlength : i + 1 + ps.length = i + (p :: ps).length := by
        rw [List.length_cons]
        omega
      rw [hlength] at hread hlast
      refine ⟨ms', List.subset_cons_of_subset m hsub, hleft, ?_, hlast⟩
      rw [readPositional_cons hi hm.takes hs hu (hrest.stops hstops), hread]
      rfl

/-- The array may end after any number of values, unless all of them are needed. -/
theorem readPositional_end {ms : List (Member R)} {i : Nat} {record : R} {s t : List UInt8}
    (hs : Blanks s (0x5D :: t)) (hms : form.strict = true → ms = []) :
    form.readPositional ms i record s = .ok (record, t) := by
  cases ms with
  | nil =>
    simp only [RecordForm.readPositional, hs.readArrayEnd_eq]
    rfl
  | cons m ms =>
    have hstrict : form.strict = false :=
      Bool.eq_false_iff.mpr fun h => List.cons_ne_nil _ _ (hms h)
    simp only [RecordForm.readPositional, hs.nextElement_eq, hstrict, Bool.false_eq_true, if_false]

theorem RecordForm.Reads.missing?_eq_none (h : form.Reads fields) {seen : List String}
    (hall : form.strict = true → ∀ f ∈ fields, f.name ∈ seen) : form.missing? seen = none := by
  unfold RecordForm.missing?
  by_cases hstrict : form.strict = true
  · rw [if_pos hstrict, List.find?_eq_none, map_name_eq h.members]
    intro name hname hmissing
    obtain ⟨f, hf, rfl⟩ := List.mem_map.mp hname
    have hseen := hall hstrict f hf
    simp [hseen] at hmissing
  · rw [if_neg hstrict]

/-- An object is read up to what comes after some of its members. -/
theorem RecordForm.Reads.read_object (h : form.Reads fields) {last : Bool} {r s u : List UInt8}
    {gs : List (Given R)} (hr : Blanks r (0x7B :: s))
    (hs : Items (MemberText fields) true s gs last u) (hdistinct : (givenFields gs).Nodup)
    (hu : gs ≠ [] → Stops u) :
    form.reader.read r =
      form.readKeyed last (givenFields gs).reverse (applyAll gs form.blank) u := by
  have hnew : ((givenFields gs).reverse ++ []).Nodup := by
    rw [List.append_nil, List.nodup_reverse]
    exact hdistinct
  have hread := hs.readKeyed_eq h hu (fun key hkey => absurd hkey List.not_mem_nil) hnew form.blank
  rw [List.append_nil] at hread
  simp only [RecordForm.reader, readHead_record hr, hread]

/-- **The reader of a record takes every text of it**, whether an object or an array. -/
theorem RecordForm.Reads.takes (h : form.Reads fields) :
    form.reader.Takes (RecordText form.blank fields form.strict) where
  starts hs := by
    cases hs with
    | object _ _ _ _ => exact ⟨rfl, by decide⟩
    | array _ _ _ _ => exact ⟨rfl, by decide⟩
  reads {s t r a} hs _ hr := by
    cases hs with
    | @object last s u t gs hmembers hdistinct hall hend =>
      have hmissing : form.missing? (givenFields gs).reverse = none :=
        h.missing?_eq_none fun hstrict f hf => List.mem_reverse.mpr (hall hstrict f hf)
      rw [h.read_object hr hmembers hdistinct fun _ => hend.stops stops_recordEnd]
      exact readKeyed_done (hend.nextKey_eq last) hmissing
    | @array left last s u t ps hpositions hfields hall hend =>
      have hmembers := h.members
      rw [← hfields] at hmembers
      obtain ⟨ms', -, hleft, hread, -⟩ := hpositions.readPositional_eq form
        (fun _ => hend.stops stops_listEnd) hmembers (i := 0) rfl form.blank
      have hleft' : form.strict = true → ms' = [] := by
        intro hstrict
        rw [hall hstrict] at hleft
        exact List.forall₂_nil_right_iff.mp hleft
      simp only [RecordForm.reader, readHead_list hr, hread, readPositional_end hend hleft']

end Forms

end NodeCoverage.Json
