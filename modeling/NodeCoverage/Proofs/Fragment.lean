import NodeCoverage.Proofs.Place
import NodeCoverage.Proofs.Written

/-!
# Ways into a message, written out

A place or a hole in a message that is written without blanks around its keys and brackets: a key
with its colon leads into a record, and items with a comma after each of them lead into a list.

Results:
* `keyText`, `Place.first_member`, `Place.second_member`, `Hole.only_member`: into a record;
* **`Place.later_item`**: into a list, past items that stand for something in front of anything.
-/

namespace NodeCoverage.Json

open Text (utf8)

/-! ## Whole texts in front of others -/

section Whole

variable {α : Type} {S : Spelling α} {a : α} {es : List (List UInt8)} {first : Bool}
  {e s u t w : List UInt8}

theorem Blanks.trans (h : Blanks s u) (h' : Blanks u t) : Blanks s t := by
  induction h with
  | nil => exact h'
  | cons hb _ ih => exact .cons hb (ih h')

theorem Apart.trans (h : Apart first s u) (h' : Blanks u t) : Apart first s t := by
  cases h with
  | first hs => exact .first (hs.trans h')
  | next hcomma hu => exact .next hcomma (hu.trans h')

/-- The text stands for the value in front of anything, with blanks around it. -/
def Stands (S : Spelling α) (e : List UInt8) (a : α) : Prop :=
  ∀ t, ∃ s r, Blanks (e ++ t) s ∧ S s a r ∧ Blanks r t

/-- A whole text stands for its value in front of anything. -/
theorem Whole.stands (h : Whole S e a) (hS : S.IsLocal) : Stands S e a := by
  intro t
  obtain ⟨s, r, hs, ha, hr⟩ := h
  obtain ⟨p, hp, hall⟩ := (hs.prefixed.comp (hS _ _ _ ha)).comp hr.prefixed
  rw [List.append_nil] at hp
  obtain ⟨_, ⟨_, hs, ha⟩, hr⟩ := hall t
  rw [hp]
  exact ⟨_, _, hs, ha, hr⟩

/-- Texts with a comma after each of them are items, and what follows is set apart. -/
theorem exists_items (hes : ∀ e ∈ es, ∃ a, Stands S e a)
    (hs : Apart first s (es.flatMap (· ++ [0x2C]) ++ w)) :
    ∃ as last u, Items S first s as last u ∧ Apart last u w ∧ as.length = es.length := by
  induction es generalizing first s with
  | nil => exact ⟨[], first, s, .nil, hs, rfl⟩
  | cons e es ih =>
    obtain ⟨⟨a, he⟩, hes⟩ := List.forall_mem_cons.mp hes
    rw [List.flatMap_cons, List.append_assoc, List.append_assoc, List.singleton_append] at hs
    obtain ⟨v, r, hv, ha, hr⟩ := he (0x2C :: (es.flatMap (· ++ [0x2C]) ++ w))
    obtain ⟨as, last, u, has, hu, hlength⟩ := ih hes (.next hr .nil)
    exact ⟨a :: as, last, u, .cons (hs.trans hv) ha has, hu, congrArg Nat.succ hlength⟩

end Whole

section Fragments

variable {α β : Type} {I : Shape α} {path : List Segment} {h s t v w x : List UInt8}

/-! ## Records -/

/-- A key with its quotes and its colon. -/
def keyText (name : String) : List UInt8 :=
  utf8 (writeText name) ++ [0x3A]

theorem exists_chars_keyText (name : String) (t : List UInt8) :
    ∃ k, keyText name ++ t = 0x22 :: k ∧ Chars k name.toList (0x3A :: t) := by
  refine ⟨_, ?_, chars_flatMap_escapeChar name.toList (0x3A :: t)⟩
  rw [keyText, List.append_assoc, List.singleton_append, utf8_writeText_append]

variable {R : Type} {layout : Layout R} {form : RecordForm R} {f g : RecordField R}
  {S : Shape f.Value} (fits : layout.Fits form) (hlocal : layout.IsLocal)

/-- Into the first member of an object. -/
theorem Place.first_member (hshape : layout.HasShape form f S) (hplace : Place I S w path h) :
    Place I (.record fits hlocal) (0x7B :: (keyText f.name ++ w)) (.field f.name :: path) h := by
  obtain ⟨k, hkey, hname⟩ := exists_chars_keyText f.name w
  rw [hkey]
  exact .member hshape .nil List.nodup_nil List.not_mem_nil (.first .nil) hname .nil .nil hplace

/-- Into the only member of an object. -/
theorem Hole.only_member {fill : α → f.Value} (hshape : layout.HasShape form f S)
    (hhole : Hole I S w path h x (0x7D :: t) fill) :
    Hole I (.record fits hlocal) (0x7B :: (keyText f.name ++ w)) (.field f.name :: path) h x t
      fun a => f.set (fill a) layout.blank := by
  obtain ⟨k, hkey, hname⟩ := exists_chars_keyText f.name w
  rw [hkey]
  have hgap : RecordGap layout.blank layout.texts f.text (.field f.name) (0x7B :: 0x22 :: k) w
      (0x7D :: t) t fun change =>
        applyAll ([] ++ ⟨Option.some f.name, change⟩ :: []) layout.blank :=
    .object .nil (.first .nil) hname .nil .nil (List.mem_map_of_mem hshape.field_mem) .nil .nil
      (List.nodup_singleton _)
  exact .field hshape hgap hhole

/-- Into the second member of an object, past the first with a text of its value. -/
theorem Place.second_member {a : g.Value} (hshape : layout.HasShape form f S)
    (hg : g ∈ layout.fields) (hne : f.name ≠ g.name) (hv : Stands g.spelling v a)
    (hplace : Place I S w path h) :
    Place I (.record fits hlocal)
      (0x7B :: (keyText g.name ++ (v ++ 0x2C :: (keyText f.name ++ w))))
      (.field f.name :: path) h := by
  obtain ⟨k, hkey, hname⟩ := exists_chars_keyText g.name (v ++ 0x2C :: (keyText f.name ++ w))
  obtain ⟨k', hkey', hname'⟩ := exists_chars_keyText f.name w
  obtain ⟨s, r, hs, ha, hr⟩ := hv (0x2C :: (keyText f.name ++ w))
  rw [hkey]
  rw [hkey'] at hr
  have hmember : MemberText layout.texts (0x22 :: k) (g.given a) r :=
    .field hname .nil hs (List.mem_map_of_mem hg) ⟨a, ha, rfl⟩
  refine .member hshape (.cons (.first .nil) hmember .nil) (List.nodup_singleton _) ?_
    (.next hr .nil) hname' .nil .nil hplace
  exact fun hmem => hne (List.mem_singleton.mp hmem)

/-! ## Lists -/

/-- **Into a list**, past texts of items with a comma after each of them. -/
theorem Place.later_item {S : Shape β} {S' : Spelling β} {es : List (List UInt8)}
    (htakes : S.reader.Takes S') (hes : ∀ e ∈ es, ∃ a, Stands S' e a)
    (hplace : Place I S w path h) :
    Place I S.list (0x5B :: (es.flatMap (· ++ [0x2C]) ++ w)) (.index es.length :: path) h := by
  obtain ⟨as, last, u, has, hu, hlength⟩ := exists_items hes (.first .nil)
  rw [← hlength]
  exact .item htakes has hu hplace

end Fragments

end NodeCoverage.Json
