import NodeCoverage.Proofs.AnySpelling
import NodeCoverage.Proofs.Local

/-!
# Places in a message

A place is where a value starts inside a message, however deep: the text before it is spelled as it
should be, and the path leads from the message to the value. If the reader of the value fails there,
the reader of the message fails for the same cause at the end of the path, and what comes after the
place is never looked at.

A hole is a place with the rest of the message behind it. Whatever value is put into the hole, the
text is one of the message that has this value at the end of the path and everything else as it was.

Results:
* `Layout.applyAll_set`: a field may be put into a record before or after the others;
* **`Place.fails`**: what fails at a place fails the message there, by induction on the way to it;
* `Hole.place`: a hole is a place;
* **`Hole.fill_text`**: a filled hole makes a text of the message.
-/

namespace NodeCoverage.Json

/-! ## Records and one of their fields -/

namespace Layout

variable {R : Type} {layout : Layout R} {f g : RecordField R} {gs : List (Given R)}

/-- Two fields may be put into a record in either order. -/
theorem set_comm (hf : f ∈ layout.fields) (hg : g ∈ layout.fields) (hne : f.name ≠ g.name)
    (a : f.Value) (b : g.Value) (r : R) : f.set a (g.set b r) = g.set b (f.set a r) := by
  refine layout.ext _ _ fun k hk => ?_
  by_cases hkf : k.name = f.name
  · obtain rfl := eq_of_name_eq hk hf hkf
    rw [layout.get_set k hk, layout.get_set_of_ne k hk g hg hne, layout.get_set k hk]
  · rw [layout.get_set_of_ne k hk f hf hkf]
    by_cases hkg : k.name = g.name
    · obtain rfl := eq_of_name_eq hk hg hkg
      rw [layout.get_set k hk, layout.get_set k hk]
    · rw [layout.get_set_of_ne k hk g hg hkg, layout.get_set_of_ne k hk g hg hkg,
        layout.get_set_of_ne k hk f hf hkf]

/-- A field may be put into a record before members that do not give it, or after them. -/
theorem applyAll_set (hf : f ∈ layout.fields) (hgs : ∀ g ∈ gs, layout.Gives g)
    (hnot : f.name ∉ givenFields gs) (a : f.Value) (r : R) :
    applyAll gs (f.set a r) = f.set a (applyAll gs r) := by
  induction gs generalizing r with
  | nil => rfl
  | cons g gs ih =>
    obtain ⟨hg, hrest⟩ := List.forall_mem_cons.mp hgs
    cases hg with
    | @field g b hg =>
      obtain ⟨hne, hnot⟩ := not_or.mp fun h => hnot (List.mem_cons.mpr h)
      exact (congrArg (applyAll gs) (set_comm hg hf (Ne.symm hne) b a r)).trans (ih hrest hnot _)
    | other => exact ih hrest hnot r

theorem gives_of_position {p : Position R} {s t : List UInt8} (hp : p.field ∈ layout.texts)
    (h : PositionText s p t) : layout.Gives p.given :=
  gives_of_spells hp h

end Layout

section RecordGaps

variable {R : Type} {layout : Layout R} {f : RecordField R} {segment : Segment}
  {s h x t : List UInt8} {fill : (R → R) → R}

theorem applyAll_append (gs gs' : List (Given R)) (r : R) :
    applyAll (gs ++ gs') r = applyAll gs' (applyAll gs r) :=
  List.foldl_append

/-- **What a gap is filled with** is put into the record last, whatever comes after the gap. -/
theorem RecordGap.fill_set (hgap : RecordGap layout.blank layout.texts f.text segment s h x t fill)
    (hf : f ∈ layout.fields) (a : f.Value) : fill (f.set a) = f.set a (fill id) := by
  cases hgap with
  | @object _ _ _ _ _ _ _ _ _ _ _ before after _ _ _ _ _ _ hafter _ hdistinct =>
    have hgives : ∀ g ∈ after, layout.Gives g :=
      hafter.forall_of fun _ _ _ => Layout.gives_of_memberText
    have hnot : f.name ∉ givenFields after :=
      (List.nodup_cons.mp (List.nodup_append.mp hdistinct).2.1).1
    simp only [applyAll_append]
    exact Layout.applyAll_set hf hgives hnot a _
  | @array _ _ left _ _ _ _ _ _ before after _ _ hafter hfields _ =>
    have hnames := layout.distinct
    rw [← Layout.map_name_texts, ← hfields, List.map_append, List.map_cons, List.map_append]
      at hnames
    have hnot : f.name ∉ givenFields (after.map (·.given)) := by
      rw [Layout.givenFields_map_given]
      exact fun hmem => (List.nodup_cons.mp (List.nodup_append.mp hnames).2.1).1
        (List.mem_append_left _ hmem)
    have hgives : ∀ g ∈ after.map (·.given), layout.Gives g := by
      intro g hg
      obtain ⟨p, hp, rfl⟩ := List.mem_map.mp hg
      have hfield : p.field ∈ layout.texts := by
        rw [← hfields]
        exact List.mem_append_right _ (List.mem_cons_of_mem _
          (List.mem_append_left left (List.mem_map_of_mem hp)))
      obtain ⟨_, _, hspells⟩ := hafter.forall_of (P := fun p => ∃ s t, PositionText s p t)
        (fun s p t hp => ⟨s, t, hp⟩) p hp
      exact Layout.gives_of_position hfield hspells
    simp only [List.map_append, List.map_cons, applyAll_append]
    exact Layout.applyAll_set hf hgives hnot a _

/-- What stands before a gap does not depend on what is in it. -/
theorem RecordGap.prefixed {blank : R} {fields : List (FieldText R)} {f : FieldText R}
    (hfields : FieldsLocal fields) (hgap : RecordGap blank fields f segment s h x t fill) :
    Prefixed (RecordGap blank fields f segment · · x t fill) s h := by
  cases hgap with
  | object hbefore hkey hname hcolon hblank hf hafter hend hdistinct =>
    exact (((((MemberText.isLocal hfields).items hbefore).comp hkey.prefixed.before).comp
      hname.prefixed).comp (hcolon.prefixed.before.comp hblank.prefixed)).cons
      fun ⟨_, ⟨_, ⟨_, hbefore, hkey⟩, hname⟩, ⟨_, hcolon, hblank⟩⟩ =>
        .object hbefore hkey hname hcolon hblank hf hafter hend hdistinct
  | array hbefore hu hafter hps hend =>
    exact ((hbefore.prefixed_positions hps hfields).comp hu.prefixed).cons
      fun ⟨_, hbefore, hu⟩ => .array hbefore hu hafter hps hend

end RecordGaps

/-! ## Shapes -/

/-- How the values of a type are read, and how they are spelled. -/
structure Shape (α : Type) where
  reader : Reader α
  spelling : Spelling α
  takes : reader.Takes spelling
  isLocal : spelling.IsLocal

namespace Shape

def word : Shape UInt64 :=
  ⟨.uint64, WordText, takes_uint64, wordText_isLocal⟩

def halfWord : Shape UInt32 :=
  ⟨.uint32, HalfWordText, takes_uint32, halfWordText_isLocal⟩

def int128 : Shape Int128 :=
  ⟨.int128, Int128Text, takes_int128, int128Text_isLocal⟩

def list {α : Type} (S : Shape α) : Shape (List α) :=
  ⟨.list S.reader, ListText S.spelling, S.takes.list, ListText.isLocal S.isLocal⟩

def optional {α : Type} (S : Shape α) (hnull : ∀ s a t, S.spelling (0x6E :: s) a t → False) :
    Shape (Option α) :=
  ⟨.optional S.reader, OptionText S.spelling, S.takes.optional hnull, OptionText.isLocal S.isLocal⟩

def record {R : Type} {layout : Layout R} {form : RecordForm R} (fits : layout.Fits form)
    (hlocal : layout.IsLocal) : Shape R :=
  ⟨form.reader, RecordText layout.blank layout.texts false, fits.takes,
    RecordText.isLocal hlocal.fieldsLocal⟩

end Shape

/-- The values of the field have the shape. -/
structure Layout.HasShape {R : Type} (layout : Layout R) (form : RecordForm R) (f : RecordField R)
    (S : Shape f.Value) : Prop where
  field_mem : f ∈ layout.fields
  spelling_eq : f.spelling = S.spelling
  member_mem : Member.of f.name S.reader f.set ∈ form.members

/-- What is put into the field can be told from the record. -/
theorem Layout.HasShape.set_injective {R : Type} {layout : Layout R} {form : RecordForm R}
    {f : RecordField R} {S : Shape f.Value} (h : layout.HasShape form f S) {a b : f.Value} {r : R}
    (heq : f.set a r = f.set b r) : a = b := by
  have hget := congrArg f.get heq
  rw [layout.get_set f h.field_mem, layout.get_set f h.field_mem] at hget
  exact hget

/-- No other member has the name of the field. -/
theorem Layout.HasShape.eq_member {R : Type} {layout : Layout R} {form : RecordForm R}
    {f : RecordField R} {S : Shape f.Value} (h : layout.HasShape form f S)
    (fits : layout.Fits form) {m : Member R} (hm : m ∈ form.members) (hname : m.name = f.name) :
    m = .of f.name S.reader f.set := by
  have hdistinct : (form.members.map (·.name)).Nodup := by
    rw [map_name_eq fits.reads.members]
    exact fits.reads.distinct
  exact List.inj_on_of_nodup_map hdistinct hm h.member_mem hname

/-! ## Places -/

section Places

variable {α β : Type} {I : Shape α} {M : Shape β} {path : List Segment} {s h x t : List UInt8}

/-- The text does not start like null. -/
def NotNull (s : List UInt8) : Prop :=
  s.head? ≠ some 0x6E

/-- The text `s` is that of a message up to the place `h` of a value, which is at the end of the
path. The items of a list before the place may be any texts that the reader takes. -/
inductive Place (I : Shape α) :
    {β : Type} → Shape β → List UInt8 → List Segment → List UInt8 → Prop
  | here {h : List UInt8} : Place I I h [] h
  | item {β : Type} {S : Shape β} {S' : Spelling β} {last : Bool} {s u v h : List UInt8}
      {before : List β} {path : List Segment} : S.reader.Takes S' →
      Items S' true s before last u → Apart last u v → Place I S v path h →
      Place I S.list (0x5B :: s) (.index before.length :: path) h
  | some {β : Type} {S : Shape β} {hnull : ∀ s a t, S.spelling (0x6E :: s) a t → False}
      {s h : List UInt8} {path : List Segment} : NotNull s → Place I S s path h →
      Place I (S.optional hnull) s path h
  | member {R : Type} {layout : Layout R} {form : RecordForm R} {fits : layout.Fits form}
      {hlocal : layout.IsLocal} {f : RecordField R} {S : Shape f.Value} {last : Bool}
      {s u k c v w h : List UInt8}
      {gs : List (Given R)} {path : List Segment} : layout.HasShape form f S →
      Items (MemberText layout.texts) true s gs last u → (givenFields gs).Nodup →
      f.name ∉ givenFields gs → Apart last u (0x22 :: k) → Chars k f.name.toList c →
      Blanks c (0x3A :: v) → Blanks v w → Place I S w path h →
      Place I (.record fits hlocal) (0x7B :: s) (.field f.name :: path) h
  | position {R : Type} {layout : Layout R} {form : RecordForm R} {fits : layout.Fits form}
      {hlocal : layout.IsLocal} {f : RecordField R} {S : Shape f.Value} {last : Bool}
      {s u v h : List UInt8} {left : List (FieldText R)} {ps : List (Position R)}
      {path : List Segment} :
      layout.HasShape form f S → Items PositionText true s ps last u →
      ps.map (·.field) ++ f.text :: left = layout.texts → Apart last u v → Place I S v path h →
      Place I (.record fits hlocal) (0x5B :: s) (.index ps.length :: path) h

theorem Reader.Fails.optional {reader : Reader α} {f : Failure} (h : reader.Fails s f)
    (hs : StartsValue s) (hnull : NotNull s) : (Reader.optional reader).Fails s f := by
  intro r hr
  simp only [Reader.optional, hr.skipBlank_startsValue hs]
  split
  · exact absurd rfl hnull
  · exact h.map some r hr

/-- **What fails at a place** fails the message there, whatever comes after it. -/
theorem Place.fails (hplace : Place I M s path h) (hstarts : StartsValue h) {e : Failure}
    (hfails : I.reader.Fails h e) :
    StartsValue s ∧ M.reader.Fails s ⟨e.cause, path ++ e.path⟩ := by
  induction hplace with
  | here => exact ⟨hstarts, hfails⟩
  | item htakes hitems hu _ ih =>
    obtain ⟨hv, hfail⟩ := ih hstarts hfails
    exact ⟨⟨rfl, by decide⟩, hfail.list htakes hitems hu hv⟩
  | some hnull _ ih =>
    obtain ⟨hv, hfail⟩ := ih hstarts hfails
    exact ⟨hv, hfail.optional hv hnull⟩
  | @member _ _ _ fits _ _ _ _ _ _ _ _ _ _ _ _ path hshape hitems hdistinct hfresh hkey hname
      hcolon hblank _ ih =>
    obtain ⟨-, hfail⟩ := ih hstarts hfails
    refine ⟨⟨rfl, by decide⟩, fits.reads.fails_member (e := ⟨e.cause, path ++ e.path⟩) hitems
      hdistinct hkey hname (List.mem_map_of_mem hshape.field_mem) hfresh hcolon hblank
      fun m hm hm' => ?_⟩
    rw [hshape.eq_member fits hm hm']
    exact hfail.member _ _
  | @position _ _ _ fits _ _ _ _ _ _ _ _ _ _ path hshape hitems hfields hu _ ih =>
    obtain ⟨hv, hfail⟩ := ih hstarts hfails
    refine ⟨⟨rfl, by decide⟩, fits.reads.fails_position (e := ⟨e.cause, path ++ e.path⟩) hitems
      hfields hu hv fun m hm hm' => ?_⟩
    rw [hshape.eq_member fits hm hm']
    exact hfail.member _ _

/-! ## Holes -/

/-- The text `s` is a message around a hole for a value, which is at the end of the path: the hole
starts at `h`, the text goes on at `x`, and what is left of it in the end is `t`. With a value in
the hole it stands for what `fill` makes of the value: a list with the value in its place, a record
with the value as its field, and so on, all else being what the text around the hole says. -/
inductive Hole (I : Shape α) :
    {β : Type} → Shape β → List UInt8 → List Segment → List UInt8 → List UInt8 → List UInt8 →
      (α → β) → Prop
  | here {h x : List UInt8} : Hole I I h [] h x x id
  | item {β : Type} {S : Shape β} {mid last : Bool} {s u v h x w y t : List UInt8}
      {before after : List β} {path : List Segment} {fill : α → β} :
      Items S.spelling true s before mid u → Apart mid u v → Hole I S v path h x w fill →
      Items S.spelling false w after last y → Blanks y (0x5D :: t) →
      Hole I S.list (0x5B :: s) (.index before.length :: path) h x t
        fun a => before ++ fill a :: after
  | some {β : Type} {S : Shape β} {hnull : ∀ s a t, S.spelling (0x6E :: s) a t → False}
      {s h x t : List UInt8} {path : List Segment} {fill : α → β} : NotNull s →
      Hole I S s path h x t fill → Hole I (S.optional hnull) s path h x t fun a => some (fill a)
  | field {R : Type} {layout : Layout R} {form : RecordForm R} {fits : layout.Fits form}
      {hlocal : layout.IsLocal} {f : RecordField R} {S : Shape f.Value} {segment : Segment}
      {s v h x y t : List UInt8} {around : (R → R) → R} {path : List Segment} {fill : α → f.Value} :
      layout.HasShape form f S →
      RecordGap layout.blank layout.texts f.text segment s v y t around →
      Hole I S v path h x y fill →
      Hole I (.record fits hlocal) s (segment :: path) h x t fun a => f.set (fill a) (around id)

variable {fill : α → β}

/-- A hole is a place: what comes after it is not needed. -/
theorem Hole.place (hhole : Hole I M s path h x t fill) : Place I M s path h := by
  induction hhole with
  | here => exact .here
  | @item _ S _ _ _ _ _ _ _ _ _ _ _ _ _ _ hbefore hu _ _ _ ih => exact .item S.takes hbefore hu ih
  | some hnull _ ih => exact .some hnull ih
  | field hshape hgap _ ih =>
    cases hgap with
    | object hbefore hkey hname hcolon hblank _ _ _ hdistinct =>
      obtain ⟨hbeforeDistinct, -, hdisjoint⟩ := List.nodup_append.mp hdistinct
      exact .member hshape hbefore hbeforeDistinct
        (fun hmem => hdisjoint _ hmem _ List.mem_cons_self rfl) hkey hname hcolon hblank ih
    | array hbefore hu _ hfields _ => exact .position hshape hbefore hfields hu ih

/-- What follows the hole ends a number in it, if what follows the message does. -/
theorem Hole.stops (hhole : Hole I M s path h x t fill) (ht : Stops t) : Stops x := by
  induction hhole with
  | here => exact ht
  | item _ _ _ hafter hend ih => exact ih (hafter.stops (hend.stops stops_listEnd))
  | some _ _ ih => exact ih ht
  | field _ hgap _ ih => exact ih hgap.stops

/-- **A filled hole** makes a text of the message. -/
theorem Hole.fill_text (hhole : Hole I M s path h x t fill) {a : α} (ha : I.spelling h a x) :
    M.spelling s (fill a) t := by
  induction hhole with
  | here => exact ha
  | item hbefore hu _ hafter hend ih => exact .intro (hbefore.append (.cons hu (ih ha) hafter)) hend
  | some _ _ ih => exact .some (ih ha)
  | @field _ layout _ _ _ f S _ _ v _ _ y _ around _ fill hshape hgap _ ih =>
    have hspells : f.text.spells v (f.set (fill a)) y :=
      ⟨fill a, by rw [hshape.spelling_eq]; exact ih ha, rfl⟩
    have htext := hgap.fill_text hspells
    rw [hgap.fill_set hshape.field_mem] at htext
    exact htext

theorem NotNull.append {p h' : List UInt8} (hp : NotNull (p ++ h)) (hh : NotNull h') :
    NotNull (p ++ h') := by
  cases p with
  | nil => exact hh
  | cons b p => exact hp

/-- **A hole does not depend on what is in it**, as long as that does not start like null. -/
theorem Hole.move (hhole : Hole I M s path h x t fill) :
    ∃ p, s = p ++ h ∧ ∀ h', NotNull h' → Hole I M (p ++ h') path h' x t fill := by
  induction hhole with
  | here => exact ⟨[], rfl, fun _ _ => .here⟩
  | @item _ S _ _ _ _ _ _ _ _ _ _ _ _ _ _ hbefore hu _ hafter hend ih =>
    obtain ⟨q, rfl, hq⟩ := (S.isLocal.items hbefore).comp hu.prefixed
    obtain ⟨p, rfl, hp⟩ := ih
    refine ⟨0x5B :: (q ++ p), by rw [List.cons_append, List.append_assoc], fun h' hh => ?_⟩
    obtain ⟨_, hbefore', hu'⟩ := hq (p ++ h')
    rw [List.cons_append, List.append_assoc]
    exact .item hbefore' hu' (hp h' hh) hafter hend
  | some hnull _ ih =>
    obtain ⟨p, rfl, hp⟩ := ih
    exact ⟨p, rfl, fun h' hh => .some (hnull.append hh) (hp h' hh)⟩
  | @field _ _ _ _ hlocal _ _ _ _ _ _ _ _ _ _ _ _ hshape hgap _ ih =>
    obtain ⟨q, rfl, hq⟩ := hgap.prefixed hlocal.fieldsLocal
    obtain ⟨p, rfl, hp⟩ := ih
    refine ⟨q ++ p, (List.append_assoc _ _ _).symm, fun h' hh => ?_⟩
    rw [List.append_assoc]
    exact .field hshape (hq (p ++ h')) (hp h' hh)

/-- **What is in a hole** can be told from the message. -/
theorem Hole.fill_injective (hhole : Hole I M s path h x t fill) : Function.Injective fill := by
  induction hhole with
  | here => exact Function.injective_id
  | item _ _ _ _ _ ih =>
    intro a b heq
    exact ih (List.cons.inj (List.append_cancel_left heq)).1
  | some _ _ ih =>
    intro a b heq
    exact ih (Option.some.inj heq)
  | field hshape _ _ ih =>
    intro a b heq
    exact ih (hshape.set_injective heq)

/-- The texts `pre` and `post` are all of a message but for a value at the end of the path, in
whose place anything may stand. -/
inductive Surrounds (I : Shape α) (M : Shape β) (pre post : List UInt8) (path : List Segment)
    (fill : α → β) : Prop
  | intro {s h t : List UInt8} : Blanks (pre ++ h) s → Hole I M s path h post t fill →
      Blanks t [] → Surrounds I M pre post path fill

namespace Surrounds

variable {pre post : List UInt8}

/-- What follows the value ends a number in its place. -/
theorem stops (h : Surrounds I M pre post path fill) : Stops post := by
  obtain ⟨-, hhole, ht⟩ := h
  exact hhole.stops (ht.stops .nil)

theorem fill_injective (h : Surrounds I M pre post path fill) : Function.Injective fill := by
  obtain ⟨-, hhole, -⟩ := h
  exact hhole.fill_injective

/-- Anything may be put in the place of the value. -/
theorem exists_hole (hsurrounds : Surrounds I M pre post path fill) (hnull : NotNull h) :
    ∃ s t, Blanks (pre ++ h) s ∧ Hole I M s path h post t fill ∧ Blanks t [] := by
  obtain @⟨s, h', t, hs, hhole, ht⟩ := hsurrounds
  obtain ⟨q, hq, hblanks⟩ := hs.prefixed
  obtain ⟨p, rfl, hmove⟩ := hhole.move
  obtain rfl : pre = q ++ p := by
    rw [← List.append_assoc] at hq
    exact List.append_cancel_right hq
  refine ⟨p ++ h, t, ?_, hmove h hnull, ht⟩
  rw [List.append_assoc]
  exact hblanks (p ++ h)

/-- **With a value in its place** the message says what it says around it, and the value. -/
theorem decode_eq (hsurrounds : Surrounds I M pre post path fill) (hnull : NotNull h)
    {a : α} (ha : I.spelling h a post) : M.reader.decode (pre ++ h) = .ok (fill a) := by
  obtain ⟨s, t, hs, hhole, ht⟩ := hsurrounds.exists_hole hnull
  exact M.takes.decode_eq (hhole.fill_text ha) hs ht

/-- **With something else in its place** the message fails there. -/
theorem decode_eq_error (hsurrounds : Surrounds I M pre post path fill)
    (hnull : NotNull h) (hstarts : StartsValue h) {e : Failure}
    (hfails : I.reader.Fails h e) :
    M.reader.decode (pre ++ h) = .error ⟨e.cause, path ++ e.path⟩ := by
  obtain ⟨s, t, hs, hhole, -⟩ := hsurrounds.exists_hole hnull
  exact (hhole.place.fails hstarts hfails).2.decode_eq hs

end Surrounds

end Places

end NodeCoverage.Json
