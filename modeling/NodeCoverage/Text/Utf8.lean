/-!
# UTF-8

The bytes of a text and the text of bytes. Reading undoes writing and accepts nothing else
(`ofUtf8?_eq_some_iff`).
-/

namespace NodeCoverage.Text

/-- The UTF-8 bytes of a text. -/
def utf8 (s : String) : List UInt8 :=
  s.toList.flatMap String.utf8EncodeChar

/-- The text that bytes spell, if they are UTF-8. -/
def ofUtf8? (bytes : List UInt8) : Option String :=
  String.fromUTF8? ⟨bytes.toArray⟩

/-- The ranges of the bytes that can follow a first byte in the UTF-8 of a character, if it can be
one. -/
def followers? (b : UInt8) : Option (List (UInt8 × UInt8)) :=
  let any : UInt8 × UInt8 := (128, 191)
  if b < 128 then some []
  else if 194 ≤ b ∧ b ≤ 223 then some [any]
  else if b = 224 then some [(160, 191), any]
  else if b = 237 then some [(128, 159), any]
  else if 225 ≤ b ∧ b ≤ 239 then some [any, any]
  else if b = 240 then some [(144, 191), any, any]
  else if 241 ≤ b ∧ b ≤ 243 then some [any, any, any]
  else if b = 244 then some [(128, 143), any, any]
  else none

/-- How many bytes at the front lie in one range each. -/
def countInRanges : List (UInt8 × UInt8) → List UInt8 → Nat
  | (low, high) :: ranges, b :: rest =>
    if low ≤ b ∧ b ≤ high then countInRanges ranges rest + 1 else 0
  | _, _ => 0

/-- The characters that bytes spell, each longest part that begins one and does not go on as it must
being replaced, for no more than `fuel` characters. -/
def repaired : (fuel : Nat) → List UInt8 → List Char
  | 0, _ | _, [] => []
  | fuel + 1, b :: rest =>
    let n := ((followers? b).map fun ranges => countInRanges ranges rest).getD 0
    let found := (ofUtf8? (b :: rest.take n)).bind fun s => s.toList.head?
    found.getD '\ufffd' :: repaired fuel (rest.drop n)

/-- The text of bytes, in which what is no UTF-8 is replaced. -/
def ofBytes (bytes : List UInt8) : String :=
  (ofUtf8? bytes).getD (String.ofList (repaired bytes.length bytes))

@[simp]
theorem utf8_empty : utf8 "" = [] := by
  simp [utf8]

@[simp]
theorem utf8_append (s t : String) : utf8 (s ++ t) = utf8 s ++ utf8 t := by
  simp [utf8]

@[simp]
theorem utf8_ofList (cs : List Char) :
    utf8 (String.ofList cs) = cs.flatMap String.utf8EncodeChar := by
  simp [utf8]

theorem toByteArray_eq (s : String) : s.toByteArray = ⟨(utf8 s).toArray⟩ := by
  obtain ⟨l, rfl⟩ := s.exists_eq_ofList
  rw [utf8_ofList, String.toByteArray_ofList, List.utf8Encode]
  exact ByteArray.ext (List.data_toByteArray)

theorem ofUtf8?_eq_some_iff {bytes : List UInt8} {s : String} :
    ofUtf8? bytes = some s ↔ bytes = utf8 s := by
  unfold ofUtf8? String.fromUTF8?
  constructor
  · split
    · rintro ⟨⟩
      next h =>
      have := toByteArray_eq (String.fromUTF8 ⟨bytes.toArray⟩ h)
      exact congrArg (fun b => b.data.toList) this
    · simp
  · rintro rfl
    have h := toByteArray_eq s
    have hv : (ByteArray.mk (utf8 s).toArray).IsValidUTF8 := h ▸ s.isValidUTF8
    rw [dif_pos hv]
    congr 1
    apply String.toByteArray_inj.1
    rw [h]; rfl

@[simp]
theorem ofUtf8?_utf8 (s : String) : ofUtf8? (utf8 s) = some s :=
  ofUtf8?_eq_some_iff.2 rfl

theorem utf8_injective {s t : String} (h : utf8 s = utf8 t) : s = t := by
  have := ofUtf8?_utf8 s
  rw [h, ofUtf8?_utf8] at this
  exact (Option.some.inj this).symm

end NodeCoverage.Text
