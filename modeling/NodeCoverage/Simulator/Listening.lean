import NodeCoverage.Host.Environment

/-!
# Listening

A system on which every host can be listened at and one port is free. Only an address that has no
usable port is refused.
-/

namespace NodeCoverage.Simulator

open Host (Address ListenFailure)

/-- Why a text is no address. -/
inductive AddressError where
  | noPort
  | badPort
  deriving DecidableEq, Repr

/-- The text of the error. -/
def AddressError.message : AddressError → String
  | .noPort => "invalid socket address"
  | .badPort => "invalid port value"

/-- A port: digits, perhaps after a plus sign, for a number of 16 bits. -/
def port? (cs : List Char) : Option Nat :=
  let digits :=
    match cs with
    | '+' :: rest => rest
    | cs => cs
  if digits.isEmpty || !digits.all Char.isDigit then none
  else
    let n := digits.foldl (fun n c => 10 * n + (c.toNat - '0'.toNat)) 0
    if n < UInt16.size then some n else none

/-- Reads an address, of which the last colon stands in front of the port. -/
def parseAddress (text : String) : Except AddressError Address :=
  let reversed := text.toList.reverse
  match reversed.dropWhile (· ≠ ':') with
  | [] => .error .noPort
  | _ :: host =>
    match port? (reversed.takeWhile (· ≠ ':')).reverse with
    | none => .error .badPort
    | some port => .ok ⟨String.ofList host.reverse, port⟩

/-- Listens at an address: port zero stands for the one that is free. -/
def listenAt (free : Nat) (text : String) : Except ListenFailure Address :=
  match parseAddress text with
  | .error e => .error (.refused ⟨e.message⟩)
  | .ok address => .ok (if address.port = 0 then { address with port := free } else address)

end NodeCoverage.Simulator
