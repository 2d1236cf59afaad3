import Mathlib.Logic.Relation
import NodeCoverage.Proofs.Layout

/-!
# What is spelled does not depend on what follows

Each relation of the grammar and each spelling is about a text and what is left of it. It holds
because of what stands between the two: put anything else behind that, and it holds again.

Results:
* `Prefixed`: the relation holds because of what is in front of the rest;
* `WellFormed.prefixed`, by induction on the derivation, and the same for the parts of a value;
* **`RecordText.isLocal`**: the spelling of a record is local if those of its fields are.
-/

namespace NodeCoverage.Json

/-- The relation holds of a text and its rest because of what is in front of the rest: it holds as
well with any other rest. -/
def Prefixed (rel : List UInt8 → List UInt8 → Prop) (s t : List UInt8) : Prop :=
  ∃ p, s = p ++ t ∧ ∀ t', rel (p ++ t') t'

namespace Prefixed

variable {rel rel' : List UInt8 → List UInt8 → Prop} {b : UInt8} {s u t : List UInt8}

theorem refl (h : ∀ t, rel t t) : Prefixed rel t t :=
  ⟨[], rfl, h⟩

theorem cons (h : Prefixed rel s t) (hrel : ∀ {s t}, rel s t → rel' (b :: s) t) :
    Prefixed rel' (b :: s) t := by
  obtain ⟨p, rfl, hp⟩ := h
  exact ⟨b :: p, rfl, fun t' => hrel (hp t')⟩

/-- One relation after another. -/
theorem comp (h : Prefixed rel s u) (h' : Prefixed rel' u t) :
    Prefixed (Relation.Comp rel rel') s t := by
  obtain ⟨p, rfl, hp⟩ := h
  obtain ⟨q, rfl, hq⟩ := h'
  refine ⟨p ++ q, (List.append_assoc _ _ _).symm, fun t' => ⟨q ++ t', ?_, hq t'⟩⟩
  rw [List.append_assoc]
  exact hp _

/-- A byte that stands before the rest belongs to what is in front of it. -/
theorem before (h : Prefixed rel s (b :: t)) : Prefixed (fun s t => rel s (b :: t)) s t := by
  obtain ⟨p, rfl, hp⟩ := h
  refine ⟨p ++ [b], by rw [List.append_assoc, List.singleton_append], fun t' => ?_⟩
  rw [List.append_assoc]
  exact hp (b :: t')

theorem imp (h : Prefixed rel s t) (hrel : ∀ {s t}, rel s t → rel' s t) : Prefixed rel' s t := by
  obtain ⟨p, rfl, hp⟩ := h
  exact ⟨p, rfl, fun t' => hrel (hp t')⟩

end Prefixed

/-! ## The grammar -/

section Grammar

variable {n m : Nat} {i : Int} {cs : List Char} {part : Part} {s t : List UInt8}

theorem Blanks.prefixed (h : Blanks s t) : Prefixed Blanks s t := by
  induction h with
  | nil => exact .refl fun _ => .nil
  | cons hb _ ih => exact ih.cons (.cons hb)

theorem Digits.prefixed (h : Digits n s m t) : Prefixed (Digits n · m ·) s t := by
  induction h with
  | nil => exact .refl fun _ => .nil
  | cons hd _ ih => exact ih.cons (.cons hd)

theorem Numeral.prefixed (h : Numeral s n t) : Prefixed (Numeral · n ·) s t := by
  cases h with
  | zero => exact ⟨[0x30], rfl, fun _ => .zero⟩
  | positive hd hne hs => exact hs.prefixed.cons (.positive hd hne)

theorem Integer.prefixed (h : Integer s i t) : Prefixed (Integer · i ·) s t := by
  cases h with
  | natural hn => exact hn.prefixed.imp .natural
  | negative hn => exact hn.prefixed.cons .negative

theorem Fraction.prefixed (h : Fraction s t) : Prefixed Fraction s t := by
  cases h with
  | absent => exact .refl fun _ => .absent
  | present hd hs =>
    obtain ⟨p, rfl, hp⟩ := hs.prefixed
    exact ⟨_ :: _ :: p, rfl, fun t' => .present hd (hp t')⟩

theorem Sign.prefixed (h : Sign s t) : Prefixed Sign s t := by
  cases h with
  | absent => exact .refl fun _ => .absent
  | plus => exact ⟨[0x2B], rfl, fun _ => .plus⟩
  | minus => exact ⟨[0x2D], rfl, fun _ => .minus⟩

theorem Exponent.prefixed (h : Exponent s t) : Prefixed Exponent s t := by
  cases h with
  | absent => exact .refl fun _ => .absent
  | present hb hsign hd hs =>
    exact (hsign.prefixed.before.comp hs.prefixed).cons fun ⟨_, hsign, hs⟩ =>
      .present hb hsign hd hs

theorem Number.Written.prefixed (h : Number.Written s t) : Prefixed Number.Written s t := by
  obtain ⟨hi, hf, hx⟩ := h
  exact ((hi.prefixed.comp hf.prefixed).comp hx.prefixed).imp fun ⟨_, ⟨_, hi, hf⟩, hx⟩ =>
    .intro hi hf hx

theorem Chars.prefixed (h : Chars s cs t) : Prefixed (Chars · cs ·) s t := by
  induction h with
  | close => exact ⟨[0x22], rfl, fun _ => .close⟩
  | plain hc hquote hslash _ ih =>
    obtain ⟨p, rfl, hp⟩ := ih
    refine ⟨_ ++ p, (List.append_assoc _ _ _).symm, fun t' => ?_⟩
    rw [List.append_assoc]
    exact .plain hc hquote hslash (hp t')
  | short he _ ih =>
    obtain ⟨p, rfl, hp⟩ := ih
    exact ⟨_ :: _ :: p, rfl, fun t' => .short he (hp t')⟩
  | hex hx _ ih =>
    obtain ⟨p, rfl, hp⟩ := ih
    exact ⟨_ :: _ :: _ :: _ :: _ :: _ :: p, rfl, fun t' => .hex hx (hp t')⟩
  | pair hhigh hle hge hlow hle' hge' hc _ ih =>
    obtain ⟨p, rfl, hp⟩ := ih
    exact ⟨_ :: _ :: _ :: _ :: _ :: _ :: _ :: _ :: _ :: _ :: _ :: _ :: p, rfl, fun t' =>
      .pair hhigh hle hge hlow hle' hge' hc (hp t')⟩

theorem Letters.prefixed (h : Letters s t) : Prefixed Letters s t := by
  induction h with
  | close => exact ⟨[0x22], rfl, fun _ => .close⟩
  | plain hlow hquote hslash _ ih => exact ih.cons (.plain hlow hquote hslash)
  | short he _ ih =>
    obtain ⟨p, rfl, hp⟩ := ih
    exact ⟨_ :: _ :: p, rfl, fun t' => .short he (hp t')⟩
  | hex hx _ ih =>
    obtain ⟨p, rfl, hp⟩ := ih
    exact ⟨_ :: _ :: _ :: _ :: _ :: _ :: p, rfl, fun t' => .hex hx (hp t')⟩

theorem Key.prefixed (h : Key s t) : Prefixed Key s t := by
  obtain ⟨hs, hu, hv⟩ := h
  exact ((hs.prefixed.before.comp hu.prefixed).comp hv.prefixed.before).imp
    fun ⟨_, ⟨_, hs, hu⟩, hv⟩ => .intro hs hu hv

theorem WellFormed.prefixed (h : WellFormed part s t) : Prefixed (WellFormed part) s t := by
  induction h with
  | null => exact ⟨[0x6E, 0x75, 0x6C, 0x6C], rfl, fun _ => .null⟩
  | yes => exact ⟨[0x74, 0x72, 0x75, 0x65], rfl, fun _ => .yes⟩
  | no => exact ⟨[0x66, 0x61, 0x6C, 0x73, 0x65], rfl, fun _ => .no⟩
  | number hn => exact hn.prefixed.imp .number
  | text hs => exact hs.prefixed.cons .text
  | emptyList hs => exact hs.prefixed.before.cons .emptyList
  | list hs _ _ ih ih' =>
    exact ((hs.prefixed.comp ih).comp ih').cons fun ⟨_, ⟨_, hs, hu⟩, hv⟩ => .list hs hu hv
  | listEnd hs => exact hs.prefixed.before.imp .listEnd
  | item hs hu _ _ ih ih' =>
    exact (((hs.prefixed.before.comp hu.prefixed).comp ih).comp ih').imp
      fun ⟨_, ⟨_, ⟨_, hs, hu⟩, hv⟩, hw⟩ => .item hs hu hv hw
  | emptyRecord hs => exact hs.prefixed.before.cons .emptyRecord
  | record hs hu _ _ ih ih' =>
    exact (((hs.prefixed.comp hu.prefixed).comp ih).comp ih').cons
      fun ⟨_, ⟨_, ⟨_, hs, hu⟩, hv⟩, hw⟩ => .record hs hu hv hw
  | recordEnd hs => exact hs.prefixed.before.imp .recordEnd
  | member hs hu hv _ _ ih ih' =>
    exact ((((hs.prefixed.before.comp hu.prefixed).comp hv.prefixed).comp ih).comp ih').imp
      fun ⟨_, ⟨_, ⟨_, ⟨_, hs, hu⟩, hv⟩, hw⟩, hx⟩ => .member hs hu hv hw hx

end Grammar

/-! ## Spellings -/

/-- What a text is spelled as does not depend on what follows. -/
def Spelling.IsLocal {α : Type} (S : Spelling α) : Prop :=
  ∀ s a t, S s a t → Prefixed (S · a ·) s t

section Spellings

variable {α : Type} {S : Spelling α} {first last : Bool} {as : List α} {s t : List UInt8}

theorem wordText_isLocal : WordText.IsLocal :=
  fun _ _ _ => Numeral.prefixed

theorem halfWordText_isLocal : HalfWordText.IsLocal :=
  fun _ _ _ => Numeral.prefixed

theorem int128Text_isLocal : Int128Text.IsLocal :=
  fun _ _ _ => Integer.prefixed

theorem stringText_isLocal : StringText.IsLocal := by
  intro s a t h
  obtain ⟨hc⟩ := h
  exact hc.prefixed.cons .intro

theorem OptionText.isLocal (hS : S.IsLocal) : (OptionText S).IsLocal := by
  intro s a t h
  cases h with
  | none => exact ⟨[0x6E, 0x75, 0x6C, 0x6C], rfl, fun _ => .none⟩
  | some h => exact (hS _ _ _ h).imp .some

theorem Apart.prefixed (h : Apart first s t) : Prefixed (Apart first) s t := by
  cases h with
  | first hs => exact hs.prefixed.imp .first
  | next hs hu => exact (hs.prefixed.before.comp hu.prefixed).imp fun ⟨_, hs, hu⟩ => .next hs hu

theorem Items.prefixed (h : Items S first s as last t)
    (hS : ∀ a ∈ as, ∀ s t, S s a t → Prefixed (S · a ·) s t) :
    Prefixed (Items S first · as last ·) s t := by
  induction h with
  | nil => exact .refl fun _ => .nil
  | cons hs ha _ ih =>
    obtain ⟨hfirst, hrest⟩ := List.forall_mem_cons.mp hS
    exact ((hs.prefixed.comp (hfirst _ _ ha)).comp (ih hrest)).imp
      fun ⟨_, ⟨_, hs, ha⟩, hv⟩ => .cons hs ha hv

theorem Spelling.IsLocal.items (hS : S.IsLocal) (h : Items S first s as last t) :
    Prefixed (Items S first · as last ·) s t :=
  h.prefixed fun a _ s t => hS s a t

theorem ListText.isLocal (hS : S.IsLocal) : (ListText S).IsLocal := by
  intro s as t h
  obtain ⟨hs, hend⟩ := h
  exact ((hS.items hs).comp hend.prefixed.before).cons fun ⟨_, hs, hend⟩ => .intro hs hend

end Spellings

/-! ## Records -/

section Records

variable {R : Type} {fields left : List (FieldText R)} {ps : List (Position R)} {blank : R}
  {required first last : Bool} {s t : List UInt8}

/-- The texts of every field are local. -/
abbrev FieldsLocal (fields : List (FieldText R)) : Prop :=
  ∀ f ∈ fields, f.spells.IsLocal

theorem MemberText.isLocal (hfields : FieldsLocal fields) : (MemberText fields).IsLocal := by
  intro s g t h
  cases h with
  | field hk hc hv hf hw =>
    exact (((hk.prefixed.comp hc.prefixed.before).comp hv.prefixed).comp
      (hfields _ hf _ _ _ hw)).cons
      fun ⟨_, ⟨_, ⟨_, hk, hc⟩, hv⟩, hw⟩ => .field hk hc hv hf hw
  | other hk hc hv hkey hw =>
    exact (((hk.prefixed.comp hc.prefixed.before).comp hv.prefixed).comp hw.prefixed).cons
      fun ⟨_, ⟨_, ⟨_, hk, hc⟩, hv⟩, hw⟩ => .other hk hc hv hkey hw

/-- The values of an array are local if they stand for fields that are. -/
theorem Items.prefixed_positions (h : Items PositionText first s ps last t)
    (hps : ps.map (·.field) ++ left = fields) (hfields : FieldsLocal fields) :
    Prefixed (Items PositionText first · ps last ·) s t := by
  refine h.prefixed fun p hp s t => hfields p.field ?_ s p.change t
  rw [← hps]
  exact List.mem_append_left _ (List.mem_map_of_mem hp)

/-- **The texts of a record are local** if those of its fields are. -/
theorem RecordText.isLocal (hfields : FieldsLocal fields) :
    (RecordText blank fields required).IsLocal := by
  intro s r t h
  cases h with
  | object hs hdistinct hall hend =>
    exact (((MemberText.isLocal hfields).items hs).comp hend.prefixed.before).cons
      fun ⟨_, hs, hend⟩ => .object hs hdistinct hall hend
  | array hs hps hleft hend =>
    exact ((hs.prefixed_positions hps hfields).comp hend.prefixed.before).cons
      fun ⟨_, hs, hend⟩ => .array hs hps hleft hend

/-- The spellings of all fields are local. -/
def Layout.IsLocal (layout : Layout R) : Prop :=
  ∀ f ∈ layout.fields, f.spelling.IsLocal

theorem Layout.IsLocal.fieldsLocal {layout : Layout R} (h : layout.IsLocal) :
    FieldsLocal layout.texts := by
  intro text htext
  obtain ⟨f, hf, rfl⟩ := List.mem_map.mp htext
  rintro s - t ⟨a, ha, rfl⟩
  exact (h f hf s a t ha).imp fun ha => ⟨a, ha, rfl⟩

end Records

end NodeCoverage.Json
