import Mathlib.Data.List.Forall2
import Mathlib.Tactic.IntervalCases
import NodeCoverage.Json.Writer
import NodeCoverage.Proofs.Spelling

/-!
# What the writer writes

The compact texts of the writer are among the texts that stand for a value, whatever follows them.

Results:
* `writeNat_numeral`, `writeInt_integer`: numbers of any size are written without leading zeros;
* `writeText_string`: every text is written as a string that spells it;
* `Writes.list`, `Writes.option`: lists and choices of what can be written;
* `WrittenFields.record`: a record is written as an object of all its fields in order.
-/

namespace NodeCoverage.Json

open Text (utf8)

theorem utf8_between_append (opening body closing : String) (t : List UInt8) :
    utf8 (opening ++ body ++ closing) ++ t =
      utf8 opening ++ (utf8 body ++ (utf8 closing ++ t)) := by
  rw [Text.utf8_append, Text.utf8_append, List.append_assoc, List.append_assoc]

/-- The text stands for the value, with anything after it. -/
def Writes {α : Type} (S : Spelling α) (text : String) (a : α) : Prop :=
  ∀ t, S (utf8 text ++ t) a t

/-! ## Numbers -/

section Numbers

variable {n m d : Nat} {b : UInt8} {s t : List UInt8}

/-- One more digit after digits. -/
theorem Digits.snoc (h : Digits n s m (b :: t)) (hb : isDigit b = true) :
    Digits n s (10 * m + digitValue b) t := by
  generalize hu : b :: t = u at h
  induction h with
  | nil =>
    subst hu
    exact .cons hb .nil
  | cons hd _ ih => exact .cons hd (ih hu)

/-- The byte of a digit. -/
theorem exists_utf8_digitChar (hd : d < 10) : ∃ b, String.utf8EncodeChar d.digitChar = [b] ∧
    isDigit b = true ∧ digitValue b = d := by
  interval_cases d
  all_goals exact ⟨_, rfl, rfl, rfl⟩

/-- The digits of a number, the first of them apart: it is no zero unless it is the only one. -/
theorem exists_digits (n : Nat) (t : List UInt8) : ∃ b s,
    (Nat.toDigits 10 n).flatMap String.utf8EncodeChar ++ t = b :: s ∧ isDigit b = true ∧
      Digits (digitValue b) s n t ∧ (0 < n → b ≠ 0x30) := by
  induction n using Nat.strongRecOn generalizing t with
  | ind n ih =>
    by_cases hlt : n < 10
    · obtain ⟨b, hutf8, hdigit, hvalue⟩ := exists_utf8_digitChar hlt
      refine ⟨b, t, ?_, hdigit, hvalue ▸ .nil, ?_⟩
      · rw [Nat.toDigits_of_lt_base hlt, List.flatMap_cons, List.flatMap_nil, hutf8]
        rfl
      · rintro hpos rfl
        rw [← hvalue] at hpos
        exact absurd hpos (by decide)
    · -- the last digit is one more digit after those of the quotient
      obtain ⟨c, hutf8, hdigit, hvalue⟩ := exists_utf8_digitChar (Nat.mod_lt n (y := 10) (by omega))
      obtain ⟨b, s, hs, hb, hdigits, hne⟩ := ih (n / 10) (by omega) (c :: t)
      refine ⟨b, s, ?_, hb, ?_, fun _ => hne (by omega)⟩
      · rw [Nat.toDigits_of_base_le (by omega) (by omega), List.flatMap_append, List.append_assoc,
          List.flatMap_cons, List.flatMap_nil, hutf8]
        exact hs
      · have hsnoc := hdigits.snoc hdigit
        rwa [hvalue, Nat.div_add_mod] at hsnoc

theorem utf8_repr (n : Nat) :
    utf8 (writeNat n) = (Nat.toDigits 10 n).flatMap String.utf8EncodeChar := by
  have hrepr : writeNat n = String.ofList (Nat.toDigits 10 n) := Nat.repr_eq_ofList_toDigits
  rw [hrepr, Text.utf8_ofList]

/-- **A number is written as its numeral.** -/
theorem writeNat_numeral (n : Nat) (t : List UInt8) : Numeral (utf8 (writeNat n) ++ t) n t := by
  rw [utf8_repr]
  obtain rfl | hpos := Nat.eq_zero_or_pos n
  · exact .zero
  · obtain ⟨b, s, hs, hb, hdigits, hne⟩ := exists_digits n t
    rw [hs]
    exact .positive hb (hne hpos) hdigits

/-- **An integer is written with its sign and its numeral.** -/
theorem writeInt_integer (i : Int) (t : List UInt8) : Integer (utf8 (writeInt i) ++ t) i t := by
  cases i with
  | ofNat n => exact .natural (writeNat_numeral n t)
  | negSucc n =>
    have hutf8 : utf8 (writeInt (.negSucc n)) = 0x2D :: utf8 (writeNat (n + 1)) :=
      Text.utf8_append "-" _
    rw [hutf8]
    exact .negative (writeNat_numeral (n + 1) t)

end Numbers

/-! ## Strings -/

section Strings

variable {c : Char} {cs : List Char} {s t : List UInt8}

/-- The four digits of a control. -/
theorem hexNumber?_control {n : Nat} (hn : n < 0x20) :
    ∃ z w, String.utf8EncodeChar (hexDigit (n / 16)) = [z] ∧
      String.utf8EncodeChar (hexDigit (n % 16)) = [w] ∧ hexNumber? [0x30, 0x30, z, w] = some n := by
  interval_cases n
  all_goals exact ⟨_, _, rfl, rfl, rfl⟩

/-- What is written for a character spells it. -/
theorem Chars.escapeChar (h : Chars s cs t) (c : Char) :
    Chars ((Json.escapeChar c).flatMap String.utf8EncodeChar ++ s) (c :: cs) t := by
  unfold Json.escapeChar
  split
  · subst c; exact .short (b := 0x22) rfl h
  split
  · subst c; exact .short (b := 0x5C) rfl h
  split
  · subst c; exact .short (b := 0x62) rfl h
  split
  · subst c; exact .short (b := 0x74) rfl h
  split
  · subst c; exact .short (b := 0x6E) rfl h
  split
  · subst c; exact .short (b := 0x66) rfl h
  split
  · subst c; exact .short (b := 0x72) rfl h
  next hquote hslash _ _ _ _ _ =>
  split
  · next hcontrol =>
    obtain ⟨z, w, hz, hw, hnumber⟩ := hexNumber?_control hcontrol
    simp only [List.flatMap_cons, List.flatMap_nil, hz, hw]
    exact .hex hnumber h
  · next hplain =>
    rw [List.flatMap_cons, List.flatMap_nil, List.append_nil]
    exact .plain (Nat.le_of_not_lt hplain) hquote hslash h

theorem chars_flatMap_escapeChar (cs : List Char) (t : List UInt8) :
    Chars ((cs.flatMap escapeChar).flatMap String.utf8EncodeChar ++ 0x22 :: t) cs t := by
  induction cs with
  | nil => exact .close
  | cons c cs ih =>
    rw [List.flatMap_cons, List.flatMap_append, List.append_assoc]
    exact ih.escapeChar c

/-- A written text: its opening quote, and the rest. -/
theorem utf8_writeText_append (text : String) (t : List UInt8) :
    utf8 (writeText text) ++ t =
      0x22 :: ((text.toList.flatMap escapeChar).flatMap String.utf8EncodeChar ++ 0x22 :: t) := by
  have hquote : utf8 "\"" = [0x22] := by decide
  rw [writeText, utf8_between_append, Text.utf8_ofList (text.toList.flatMap escapeChar), hquote]
  rfl

/-- **A text is written as a string that spells it**, whatever its characters are. -/
theorem writeText_string (text : String) : Writes StringText (writeText text) text := by
  intro t
  rw [utf8_writeText_append]
  exact .intro (chars_flatMap_escapeChar _ t)

end Strings

/-! ## Lists and choices -/

section Lists

variable {α : Type} {S : Spelling α} {write : α → String}

/-- Texts with a comma before each of them. -/
def commaEach (texts : List String) : List UInt8 :=
  texts.flatMap fun text => 0x2C :: utf8 text

theorem utf8_intercalate_cons (text : String) (texts : List String) :
    utf8 (",".intercalate (text :: texts)) = utf8 text ++ commaEach texts := by
  induction texts generalizing text with
  | nil => rw [String.intercalate_singleton, commaEach, List.flatMap_nil, List.append_nil]
  | cons next texts ih =>
    have hcomma : utf8 "," = [0x2C] := by rfl
    rw [String.intercalate_cons_cons, Text.utf8_append, Text.utf8_append, ih, hcomma, commaEach,
      commaEach, List.flatMap_cons, List.append_assoc, List.singleton_append, List.cons_append]

theorem Items.of_commaEach {texts : List String} {as : List α}
    (h : List.Forall₂ (Writes S) texts as) (t : List UInt8) :
    Items S false (commaEach texts ++ t) as false t := by
  induction h with
  | nil => exact .nil
  | cons ha _ ih =>
    rw [commaEach, List.flatMap_cons, List.append_assoc, List.cons_append]
    exact .cons (.next .nil .nil) (ha _) ih

/-- Texts with commas between them are items, whatever follows. -/
theorem Items.exists_of_intercalate {texts : List String} {as : List α}
    (h : List.Forall₂ (Writes S) texts as) (t : List UInt8) :
    ∃ last, Items S true (utf8 (",".intercalate texts) ++ t) as last t := by
  cases h with
  | nil => exact ⟨true, .nil⟩
  | cons ha hrest =>
    rw [utf8_intercalate_cons, List.append_assoc]
    exact ⟨false, .cons (.first .nil) (ha _) (.of_commaEach hrest _)⟩

theorem utf8_writeList_append (texts : List String) (t : List UInt8) :
    utf8 (writeList texts) ++ t = 0x5B :: (utf8 (",".intercalate texts) ++ 0x5D :: t) :=
  utf8_between_append "[" _ "]" t

/-- **A list is written as the list of what is written for its items.** -/
theorem Writes.list (h : ∀ a, Writes S (write a) a) (as : List α) :
    Writes (ListText S) (writeList (as.map write)) as := by
  intro t
  have hitems : List.Forall₂ (Writes S) (as.map write) as :=
    List.forall₂_map_left_iff.mpr (List.forall₂_same.mpr fun a _ => h a)
  obtain ⟨last, htext⟩ := Items.exists_of_intercalate hitems (0x5D :: t)
  rw [utf8_writeList_append]
  exact .intro htext .nil

theorem Writes.option (h : ∀ a, Writes S (write a) a) (a? : Option α) :
    Writes (OptionText S) (writeOption (a?.map write)) a? := by
  intro t
  cases a? with
  | none =>
    have hnull : utf8 "null" = [0x6E, 0x75, 0x6C, 0x6C] := by decide
    rw [Option.map_none, writeOption, hnull]
    exact .none
  | some a => exact .some (h a t)

end Lists

/-! ## Records -/

section Records

variable {R α : Type} {fields written : List (FieldText R)} {parts : List (String × String)}
  {gs : List (Given R)}

/-- What is written for fields: the name of each with a text of its value. -/
inductive WrittenFields : List (FieldText R) → List (String × String) → List (Given R) → Prop
  | nil : WrittenFields [] [] []
  | cons {f : FieldText R} {fs : List (FieldText R)} {text : String}
      {parts : List (String × String)} {change : R → R} {gs : List (Given R)} :
      Writes f.spells text change → WrittenFields fs parts gs →
      WrittenFields (f :: fs) ((f.name, text) :: parts) (⟨some f.name, change⟩ :: gs)

/-- The field of a setter, by what is written for its value. -/
theorem Writes.field {S : Spelling α} {name text : String} {a : α} (h : Writes S text a)
    (set : α → R → R) : Writes (FieldText.of name S set).spells text (set a) :=
  fun t => ⟨a, h t, rfl⟩

/-- A name and a value, with a colon between them. -/
def memberText (part : String × String) : String :=
  writeText part.1 ++ ":" ++ part.2

theorem WrittenFields.givenFields_eq (h : WrittenFields written parts gs) :
    givenFields gs = written.map (·.name) := by
  induction h with
  | nil => rfl
  | cons _ _ ih => rw [List.map_cons, ← ih]; rfl

/-- A written member: the opening quote of its name, the rest of it, the colon and the value. -/
theorem utf8_memberText_append (name text : String) (t : List UInt8) :
    utf8 (memberText (name, text)) ++ t =
      0x22 :: ((name.toList.flatMap escapeChar).flatMap String.utf8EncodeChar ++
        0x22 :: 0x3A :: (utf8 text ++ t)) := by
  have hcolon : utf8 ":" = [0x3A] := by rfl
  rw [memberText, utf8_between_append, hcolon, utf8_writeText_append]
  rfl

/-- A name and a value are a member. -/
theorem Writes.member {f : FieldText R} {text : String} {change : R → R} (hf : f ∈ fields)
    (htext : Writes f.spells text change) :
    Writes (MemberText fields) (memberText (f.name, text)) ⟨some f.name, change⟩ := by
  intro t
  rw [utf8_memberText_append]
  exact .field (chars_flatMap_escapeChar _ _) .nil .nil hf (htext t)

theorem WrittenFields.members (h : WrittenFields written parts gs) (hsub : written ⊆ fields) :
    List.Forall₂ (Writes (MemberText fields)) (parts.map memberText) gs := by
  induction h with
  | nil => exact .nil
  | cons htext _ ih =>
    obtain ⟨hf, hfs⟩ := List.cons_subset.mp hsub
    exact .cons (htext.member hf) (ih hfs)

theorem utf8_writeRecord_append (parts : List (String × String)) (t : List UInt8) :
    utf8 (writeRecord parts) ++ t =
      0x7B :: (utf8 (",".intercalate (parts.map memberText)) ++ 0x7D :: t) :=
  utf8_between_append "\x7b" _ "\x7d" t

/-- **A record is written as an object of its fields**, each of which is given. -/
theorem WrittenFields.record (h : WrittenFields fields parts gs)
    (hdistinct : (fields.map (·.name)).Nodup) (blank : R) (required : Bool) :
    Writes (RecordText blank fields required) (writeRecord parts) (applyAll gs blank) := by
  intro t
  have hgiven := h.givenFields_eq
  obtain ⟨last, htext⟩ := Items.exists_of_intercalate (h.members (List.Subset.refl _)) (0x7D :: t)
  rw [utf8_writeRecord_append]
  refine .object htext ?_ (fun _ f hf => ?_) .nil
  · rw [hgiven]
    exact hdistinct
  · rw [hgiven]
    exact List.mem_map_of_mem hf

end Records

end NodeCoverage.Json
