import NodeCoverage.Proofs.Settling
import NodeCoverage.Wire.Message

/-!
# Verdicts are final

What a reader says to a whole text it says to every longer one. A text that is taken stays taken if
only blanks are added to it, and no other text is taken that goes on from it. So no message is cut
off and taken for another one. A text that fails before its end fails in the same way with anything
behind it, but for one case: what is wrong with a comma after the last value of an array depends on
whether the array ends there.

Results:
* `RecordForm.endsClosed_reader`: a record ends with a bracket;
* `RecordForm.final_reader`: the verdicts of a record are final if those of its fields are;
* **`verdicts_final`**: so are those on every message.
-/

namespace NodeCoverage.Json

open Leaving Caused

section Final

variable {α : Type} {reader : Reader α} {s t : List UInt8}

/-- The verdicts of the reader on whole texts are final. -/
structure Reader.Final (reader : Reader α) : Prop where
  /-- Blanks may follow what is taken, and nothing else. -/
  taken {s : List UInt8} {a : α} : reader.decode s = .ok a → ∀ t,
    reader.decode (s ++ t) =
      if t.all isBlank then .ok a
      else .error ⟨.malformed .trailingCharacters, []⟩
  /-- What is taken is not taken any more when something else than blanks is cut off. -/
  cut {s t : List UInt8} {a : α} : reader.decode (s ++ t) = .ok a →
    (∃ b ∈ t, isBlank b = false) → ∀ a', reader.decode s ≠ .ok a'
  /-- What fails before its end fails for good, unless it ends after a comma that should not be
  there. -/
  failed {s : List UInt8} {f : Failure} : reader.decode s = .error f → f.cause.kind ≠ .ended →
    Closed s →
    (∀ t, reader.decode (s ++ t) = .error f) ∨
      ∃ u w path, s = u ++ 0x2C :: w ∧ Blanks w [] ∧
        f = ⟨.malformed .trailingCharacters, path⟩ ∧
        ∀ t, reader.decode (s ++ t) = .error ⟨.malformed (afterComma t), path⟩

theorem skipBlank_eq_nil_iff : skipBlank s = [] ↔ ∀ b ∈ s, isBlank b = true :=
  List.dropWhile_eq_nil_iff

/-- A whole text is taken iff its value is, and only blanks follow. -/
theorem Reader.decode_of_read {a : α} {r : List UInt8} (h : reader.read s = .ok (a, r)) :
    reader.decode s =
      if skipBlank r = [] then .ok a else .error ⟨.malformed .trailingCharacters, []⟩ := by
  simp only [Reader.decode, h]
  cases skipBlank r <;> rfl

theorem Reader.decode_of_error {f : Failure} (h : reader.read s = .error f) :
    reader.decode s = .error f := by
  simp only [Reader.decode, h]

theorem Reader.exists_read_of_decode {a : α} (h : reader.decode s = .ok a) :
    ∃ r, reader.read s = .ok (a, r) ∧ skipBlank r = [] := by
  cases hread : reader.read s with
  | error f =>
    rw [Reader.decode_of_error hread] at h
    cases h
  | ok p =>
    rw [Reader.decode_of_read hread] at h
    split at h
    · next hblank =>
      cases h
      exact ⟨p.2, rfl, hblank⟩
    · cases h

theorem isNumberByte_of_isBlank {b : UInt8} (h : isBlank b = true) : isNumberByte b = false := by
  simp only [isBlank, Bool.or_eq_true, beq_iff_eq] at h
  rcases h with ((rfl | rfl) | rfl) | rfl
  all_goals rfl

/-- A text is closed if only blanks follow the last byte that is none. -/
theorem closed_of_suffix {b : UInt8} {r : List UInt8} (h : b :: r <:+ s)
    (hb : isNumberByte b = false) (hr : skipBlank r = []) : Closed s := by
  obtain ⟨c, rfl⟩ := h
  have hlast := List.getLast?_append_of_ne_nil c (List.cons_ne_nil b r)
  cases hend : r.getLast? with
  | none =>
    rw [List.getLast?_eq_none_iff] at hend
    subst hend
    exact ⟨b, hlast, hb⟩
  | some d =>
    have hd : isBlank d = true := skipBlank_eq_nil_iff.mp hr d (List.mem_of_getLast? hend)
    refine ⟨d, ?_, isNumberByte_of_isBlank hd⟩
    rw [hlast, List.getLast?_cons, hend]
    rfl

/-- What the reader takes ends with a byte that is not part of a number. -/
def Reader.EndsClosed (reader : Reader α) : Prop :=
  ∀ {s r a}, reader.read s = .ok (a, r) → ∃ b, isNumberByte b = false ∧ b :: r <:+ s

/-- What is taken as a whole is read off the front of every longer text. -/
theorem Reader.Settles.exists_read_append (h : reader.Settles) (hend : reader.EndsClosed) {a : α}
    (hs : reader.decode s = .ok a) :
    ∃ r, skipBlank r = [] ∧ ∀ t, reader.read (s ++ t) = .ok (a, r ++ t) := by
  obtain ⟨r, hread, hblank⟩ := exists_read_of_decode hs
  obtain ⟨b, hb, hsuffix⟩ := hend hread
  have hclosed : Closed s := closed_of_suffix hsuffix hb hblank
  exact ⟨r, hblank, (h.settled fun _ _ => hclosed).ok_extend hread⟩

/-- **The verdicts of a reader are final** if it comes to one on every text, and if what it takes
ends with a byte that is not part of a number. -/
theorem Reader.Settles.final (h : reader.Settles) (hend : reader.EndsClosed) : reader.Final := by
  have htaken {s : List UInt8} {a : α} (hs : reader.decode s = .ok a) (t : List UInt8) :
      reader.decode (s ++ t) =
        if t.all isBlank then .ok a
        else .error ⟨.malformed .trailingCharacters, []⟩ := by
    obtain ⟨r, hblank, hlong⟩ := h.exists_read_append hend hs
    rw [decode_of_read (hlong t), skipBlank_append_of_blank hblank]
    simp only [skipBlank_eq_nil_iff, List.all_eq_true]
  refine ⟨htaken, ?_, ?_⟩
  · rintro s t a hlong ⟨b, hb, hnot⟩ a' hshort
    rw [htaken hshort, if_neg] at hlong
    · cases hlong
    · intro hall
      rw [List.all_eq_true.mp hall b hb] at hnot
      cases hnot
  · intro s f hs hkind hclosed
    have hsettled : Settled True reader.read s := h.settled fun _ _ => hclosed
    cases hread : reader.read s with
    | error e =>
      rw [decode_of_error hread] at hs
      cases hs
      rcases hsettled.error_extend hread hkind with hfinal | ⟨u, w, g, hu, hw, rfl, hlong⟩
      · exact Or.inl fun t => decode_of_error (hfinal t)
      · exact Or.inr ⟨u, w, g.path, hu, hw, rfl, fun t => decode_of_error (hlong t)⟩
    | ok p =>
      obtain ⟨a, r⟩ := p
      -- the value is taken, so what follows it is not blank, and more text does not change that
      rw [decode_of_read hread] at hs
      split at hs
      · cases hs
      · next hblank =>
        cases hs
        refine Or.inl fun t => ?_
        have hlong : reader.read (s ++ t) = .ok (a, r ++ t) := hsettled.ok_extend hread t
        rw [decode_of_read hlong, if_neg]
        intro hnil
        rw [skipBlank_eq_nil_iff] at hnil
        exact hblank (skipBlank_eq_nil_iff.mpr fun b hb => hnil b (List.mem_append_left t hb))

theorem Reader.Settles.suffix (h : reader.Settles) {r : List UInt8} {a : α}
    (hread : reader.read s = .ok (a, r)) : r <:+ s :=
  have hsettled : Settled False reader.read s := h.settled False.elim
  hsettled.suffix hread

end Final

/-! ## Records end with a bracket -/

section Brackets

variable {s t : List UInt8}

theorem suffix_of_nextElement_done {first : Bool}
    (h : Reader.nextElement first s = .ok (.done t)) : 0x5D :: t <:+ s := by
  unfold Reader.nextElement at h
  split at h
  · cases h
  · next b r hs =>
    split at h
    · next hb =>
      cases h
      rw [← hb]
      exact suffix_of_skipBlank hs
    · split at h
      · cases h
      · split at h
        · split at h
          · cases h
          · split at h <;> cases h
        · cases h

theorem suffix_of_nextKey_done {first : Bool} (h : nextKey first s = .ok (.done t)) :
    0x7D :: t <:+ s := by
  unfold nextKey at h
  split at h
  · cases h
  · next b r hs =>
    split at h
    · next hb =>
      cases h
      rw [← hb]
      exact suffix_of_skipBlank hs
    · split at h
      · split at h <;> cases h
      · split at h
        · split at h
          · cases h
          · split at h
            · cases h
            · split at h <;> cases h
        · cases h

theorem suffix_of_readArrayEnd (h : readArrayEnd s = .ok t) : 0x5D :: t <:+ s := by
  unfold readArrayEnd at h
  split at h
  · cases h
  · next b r hs =>
    split at h
    · next hb =>
      cases h
      rw [← hb]
      exact suffix_of_skipBlank hs
    · split at h
      · split at h <;> cases h
      · cases h

namespace RecordForm

variable {R : Type} {form : RecordForm R} {record a : R}

/-- The last byte of an array is its closing bracket. -/
theorem suffix_of_readPositional {ms : List (Member R)} (h : ∀ m ∈ ms, m.update.Settles) {i : Nat}
    (hread : form.readPositional ms i record s = .ok (a, t)) : 0x5D :: t <:+ s := by
  fun_induction readPositional form ms i record s with
  | case1 i record s =>
    obtain ⟨r, hr, ⟨⟩⟩ := map_eq_ok.mp (here_eq_ok.mp hread)
    exact suffix_of_readArrayEnd hr
  | case2 => cases hread
  | case3 => cases hread
  | case4 m ms i record s rest hs =>
    cases hread
    exact suffix_of_nextElement_done hs
  | case5 => cases hread
  | case6 m ms i record s start hs set rest hr ih =>
    have hnext : Settled False (Reader.nextElement (i == 0)) s := settled_nextElement _ s
    have hstart : start <:+ s := hnext.suffix hs
    have hrest : rest <:+ start := ((h m List.mem_cons_self).within (.index i)).suffix hr
    exact ((ih (fun m hm => h m (List.mem_cons_of_mem _ hm)) hread).trans hrest).trans hstart

/-- The last byte of an object is its closing bracket. -/
theorem suffix_of_readKeyed (h : ∀ m ∈ form.members, m.update.Settles) {first : Bool}
    {seen : List String} (hread : form.readKeyed first seen record s = .ok (a, t)) :
    0x7D :: t <:+ s := by
  fun_induction readKeyed form first seen record s with
  | case1 => cases hread
  | case2 => cases hread
  | case3 first seen record s rest hs =>
    cases hread
    exact suffix_of_nextKey_done hs
  | case4 => cases hread
  | case5 => cases hread
  | case6 first seen record s start hs key rest hk set rest' hv _ _ _ ih =>
    have hnext : Settled False (nextKey first) s := settled_nextKey first s
    have hkey : Settled False (readKey seen) start := settled_readKey seen start
    have hvalue : Settled False (form.readValue key) rest := settled_readValue h key False.elim
    have hstart : start <:+ s := hnext.suffix hs
    have hrest : rest <:+ start := hkey.suffix hk
    have hrest' : rest' <:+ rest := hvalue.suffix hv
    exact (((ih hread).trans hrest').trans hrest).trans hstart

/-- **A record ends with a bracket.** -/
theorem endsClosed_reader (h : ∀ m ∈ form.members, m.update.Settles) :
    form.reader.EndsClosed := by
  intro s t a hread
  rw [read_reader] at hread
  obtain ⟨⟨head, r⟩, hhead, hread⟩ := bind_eq_ok.mp hread
  have hsettled : Settled False readHead s := settled_readHead False.elim
  have hr : r <:+ s := hsettled.suffix (mapError_eq_ok.mp hhead)
  cases head with
  | list => exact ⟨0x5D, rfl, (suffix_of_readPositional h hread).trans hr⟩
  | record => exact ⟨0x7D, rfl, (suffix_of_readKeyed h hread).trans hr⟩
  | null | boolean | number | text => cases hread

/-- **The verdicts on a record are final** if the readers of its fields come to one. -/
theorem final_reader (h : ∀ m ∈ form.members, m.update.Settles) : form.reader.Final :=
  (settles_reader h).final (endsClosed_reader h)

end RecordForm

end Brackets

end NodeCoverage.Json

namespace NodeCoverage

open Json

/-! ## Messages -/

theorem settles_uint64 : Reader.uint64.Settles :=
  Reader.settles_ofHead _

theorem settles_uint32 : Reader.uint32.Settles :=
  Reader.settles_ofHead _

theorem settles_text : Reader.text.Settles :=
  Reader.settles_ofHead _

/-- The readers of all fields of the form come to a verdict. -/
def Json.RecordForm.Settles {R : Type} (form : RecordForm R) : Prop :=
  ∀ m ∈ form.members, m.update.Settles

theorem Json.RecordForm.Settles.reader {R : Type} {form : RecordForm R} (h : form.Settles) :
    form.reader.Settles :=
  form.settles_reader h

theorem GraphNode.settles : GraphNode.form.Settles :=
  List.forall_mem_cons.mpr ⟨settles_uint64.list.member _ _,
    List.forall_mem_singleton.mpr (settles_uint64.list.member _ _)⟩

theorem GraphFunction.settles : GraphFunction.form.Settles :=
  List.forall_mem_cons.mpr ⟨settles_text.member _ _,
    List.forall_mem_singleton.mpr (settles_uint64.list.member _ _)⟩

theorem StructureGraph.settles : StructureGraph.form.Settles :=
  List.forall_mem_cons.mpr ⟨GraphNode.settles.reader.list.member _ _,
    List.forall_mem_singleton.mpr (GraphFunction.settles.reader.list.member _ _)⟩

theorem BitCounter.settles : BitCounter.form.Settles :=
  List.forall_mem_cons.mpr ⟨Reader.settles_int128.member _ _,
    List.forall_mem_singleton.mpr (settles_uint32.member _ _)⟩

theorem CreateFuzzerRequest.settles : CreateFuzzerRequest.form.Settles :=
  List.forall_mem_cons.mpr ⟨Reader.settles_int128.member _ _,
    List.forall_mem_singleton.mpr (StructureGraph.settles.reader.optional.member _ _)⟩

theorem UpdateFeaturesRequest.settles : UpdateFeaturesRequest.form.Settles :=
  List.forall_mem_cons.mpr ⟨Reader.settles_int128.member _ _,
    List.forall_mem_cons.mpr ⟨BitCounter.settles.reader.list.member _ _,
      List.forall_mem_singleton.mpr (settles_uint64.optional.member _ _)⟩⟩

theorem RpcStatus.settles : RpcStatus.form.Settles :=
  List.forall_mem_cons.mpr ⟨settles_text.member _ _,
    List.forall_mem_singleton.mpr (settles_text.member _ _)⟩

theorem Acknowledgement.settles (name : String) : (Acknowledgement.form name).Settles :=
  List.forall_mem_nil _

/-- **Verdicts are final.** A text that is taken for a message is taken for the same message with
blanks behind it, fails with trailing characters if anything else is behind it, and fails if
anything else than blanks is cut off its end. A text that fails before its end, with a last byte
that cannot be part of a number, fails for the same reason and at the same place with any text
behind it. The only exception is a text that ends, but for blanks, with a comma after the last
value of an array: it fails with trailing characters, and still does with a text behind it unless
that text goes on with the closing bracket, which makes it a trailing comma at the same place. -/
theorem verdicts_final :
    GraphNode.form.reader.Final ∧ GraphFunction.form.reader.Final ∧
      StructureGraph.form.reader.Final ∧ BitCounter.form.reader.Final ∧
      CreateFuzzerRequest.form.reader.Final ∧ UpdateFeaturesRequest.form.reader.Final ∧
      RpcStatus.form.reader.Final ∧ ∀ name, (Acknowledgement.form name).reader.Final :=
  ⟨GraphNode.form.final_reader GraphNode.settles,
    GraphFunction.form.final_reader GraphFunction.settles,
    StructureGraph.form.final_reader StructureGraph.settles,
    BitCounter.form.final_reader BitCounter.settles,
    CreateFuzzerRequest.form.final_reader CreateFuzzerRequest.settles,
    UpdateFeaturesRequest.form.final_reader UpdateFeaturesRequest.settles,
    RpcStatus.form.final_reader RpcStatus.settles,
    fun name => (Acknowledgement.form name).final_reader (Acknowledgement.settles name)⟩

/-- The exception: what is wrong with `[1,2,` as a hit is trailing characters, and what is wrong
with `[1,2,]` is a trailing comma. So not every failure keeps its text. -/
theorem comma_not_final :
    BitCounter.form.reader.decode (Text.utf8 "[1,2,") =
        .error ⟨.malformed .trailingCharacters, []⟩ ∧
      BitCounter.form.reader.decode (Text.utf8 "[1,2,]") =
        .error ⟨.malformed .trailingComma, []⟩ ∧
      ¬ ∀ (s t : List UInt8) (f : Failure), BitCounter.form.reader.decode s = .error f →
        f.cause.kind ≠ .ended → Closed s →
        ∃ g, BitCounter.form.reader.decode (s ++ t) = .error g ∧ g.cause.kind = f.cause.kind ∧
          g.cause.message = f.cause.message := by
  have hshort : BitCounter.form.reader.decode (Text.utf8 "[1,2,") =
      .error ⟨.malformed .trailingCharacters, []⟩ := by decide +kernel
  have hlong : BitCounter.form.reader.decode (Text.utf8 "[1,2," ++ Text.utf8 "]") =
      .error ⟨.malformed .trailingComma, []⟩ := by decide +kernel
  have hclosed : Closed (Text.utf8 "[1,2,") := ⟨0x2C, by decide +kernel, rfl⟩
  refine ⟨hshort, ?_, fun hfinal => ?_⟩
  · rw [← Text.utf8_append] at hlong
    exact hlong
  · obtain ⟨g, hg, -, hmessage⟩ := hfinal _ (Text.utf8 "]") _ hshort (by decide) hclosed
    rw [hlong] at hg
    cases hg
    exact absurd hmessage (by decide)

end NodeCoverage
