import NodeCoverage.Simulator.Shell.Pattern

/-!
# Sets of bytes

Descriptions of sets of bytes, and texts in which the bytes of a set are replaced, deleted or
squeezed.
-/

namespace NodeCoverage.Simulator.ByteSet

/-- The bytes of a class between brackets and colons. -/
def ofClass (name : String) : List UInt8 :=
  ((List.range 256).map UInt8.ofNat).filter fun b => (Shell.ByteClass.named name).contains b

/-- The bytes that a description of a set stands for, in no more than `fuel` steps. -/
def ofDescription : (fuel : Nat) → List Char → List UInt8
  | 0, _ | _, [] => []
  | fuel + 1, '[' :: ':' :: rest =>
    let name := rest.takeWhile Char.isAlpha
    match rest.drop name.length with
    | ':' :: ']' :: rest => ofClass (String.ofList name) ++ ofDescription fuel rest
    | _ => 91 :: ofDescription fuel (':' :: rest)
  | fuel + 1, '\\' :: c :: rest =>
    let b : UInt8 := match c with
      | 'n' => 10
      | 't' => 9
      | 'r' => 13
      | c => c.toUInt8
    b :: ofDescription fuel rest
  | fuel + 1, a :: '-' :: b :: rest =>
    if a.toNat ≤ b.toNat then
      (List.range (b.toNat - a.toNat + 1)).map (fun k => UInt8.ofNat (a.toNat + k)) ++
        ofDescription fuel rest
    else Text.utf8 a.toString ++ ofDescription fuel ('-' :: b :: rest)
  | fuel + 1, c :: rest => Text.utf8 c.toString ++ ofDescription fuel rest

/-- Bytes without those that repeat one of a set. -/
def squeezed (set : List UInt8) : List UInt8 → List UInt8
  | a :: b :: rest =>
    if a = b && set.contains a then squeezed set (b :: rest) else a :: squeezed set (b :: rest)
  | bytes => bytes

/-- Replaces the bytes of a set by those of another, or deletes them, and squeezes bytes. -/
def translated (letters : List Char) (sets : List String) (bytes : List UInt8) :
    Option (List UInt8) :=
  let set := fun (text : String) => ofDescription text.length text.toList
  let first := (sets.head?.map set).getD []
  let first := if letters.any ['c', 'C'].contains then
      ((List.range 256).map UInt8.ofNat).filter fun b => !first.contains b
    else first
  let squeezes := letters.contains 's'
  match letters.contains 'd', sets with
  | true, [_] => some (bytes.filter fun b => !first.contains b)
  | true, [_, second] => some (squeezed (set second) (bytes.filter fun b => !first.contains b))
  | false, [_] => if squeezes then some (squeezed first bytes) else none
  | false, [_, second] =>
    let second := set second
    let replace := fun (b : UInt8) =>
      match first.idxOf? b with
      | some n => (second[n]?).getD (second.getLastD b)
      | none => b
    let replaced := bytes.map replace
    some (if squeezes then squeezed second replaced else replaced)
  | _, _ => none

end NodeCoverage.Simulator.ByteSet
