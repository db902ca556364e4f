import TerminalReel.Text.Hex
import TerminalReel.Text.LineEnds
/-!
# TerminalReel.Text.Decoding

The **text of a file's bytes**, and what is wrong with bytes that are no text.

The first byte of a character says how many bytes follow it, and which ones the next of
them may be. A fault is told with its place, and with the bytes that could have begun a
character there.
-/

namespace TerminalReel

/-- Why bytes make no character. -/
inductive DecodingProblem
  /-- No character begins with this byte. -/
  | start
  /-- A byte does not go on with what was begun. -/
  | continuation
  /-- The bytes end within a character. -/
  | unfinished
  deriving DecidableEq

/-- The wording of each problem. -/
def DecodingProblem.wording : DecodingProblem → String
  | start => "invalid start byte"
  | continuation => "invalid continuation byte"
  | unfinished => "unexpected end of data"

/-- Bytes that make no character. -/
structure DecodingFault where
  /-- Where they begin. -/
  place : Nat
  /-- The first of them. -/
  byte : UInt8
  /-- How many they are. -/
  count : Nat
  problem : DecodingProblem
  deriving DecidableEq

namespace DecodingFault

/-- The bytes at fault, as a message tells them. -/
def spot (fault : DecodingFault) : String :=
  if fault.count = 1 then
    s!"byte 0x{String.ofList (hexPadded 2 fault.byte.toNat)} in position {fault.place}"
  else s!"bytes in position {fault.place}-{fault.place + fault.count - 1}"

/-- The message about bytes that are no text. -/
def message (fault : DecodingFault) : String :=
  s!"'utf-8' codec can't decode {fault.spot}: {fault.problem.wording}"

end DecodingFault

/-! ### The first fault -/

/-- How many bytes follow a first byte, and the bounds of the next one; the bounds keep
out longer forms of a character, surrogates, and numbers beyond the last character. -/
def followers? (first : UInt8) : Option (Nat × UInt8 × UInt8) :=
  if 0xC2 ≤ first ∧ first ≤ 0xDF then some (1, 0x80, 0xBF)
  else if first = 0xE0 then some (2, 0xA0, 0xBF)
  else if first = 0xED then some (2, 0x80, 0x9F)
  else if 0xE1 ≤ first ∧ first ≤ 0xEF then some (2, 0x80, 0xBF)
  else if first = 0xF0 then some (3, 0x90, 0xBF)
  else if first = 0xF4 then some (3, 0x80, 0x8F)
  else if 0xF1 ≤ first ∧ first ≤ 0xF3 then some (3, 0x80, 0xBF)
  else none

/-- How many bytes at the front go on with a character, of which the next one lies
within bounds. -/
def countFollowing (low high : UInt8) : List UInt8 → Nat
  | byte :: rest => if low ≤ byte ∧ byte ≤ high then 1 + countFollowing 0x80 0xBF rest else 0
  | [] => 0

/-- The fault at a place where no character begins, from the byte there and those
behind it. -/
def decodingFaultAt (place : Nat) (first : UInt8) (rest : List UInt8) : DecodingFault :=
  match followers? first with
  | none => ⟨place, first, 1, .start⟩
  | some (owed, low, high) =>
    let behind := rest.take owed
    let following := countFollowing low high behind
    ⟨place, first, following + 1,
      if following = behind.length then .unfinished else .continuation⟩

/-- The first fault from a place on, if there is one. -/
def decodingFault? (content : ByteArray) (place : Nat) : Option DecodingFault :=
  if within : place < content.size then
    match found : content.utf8DecodeChar? place with
    | some c => decodingFault? content (place + c.utf8Size)
    | none => some (decodingFaultAt place content[place] (content.data.toList.drop (place + 1)))
  else none
termination_by content.size - place
decreasing_by
  have := c.utf8Size_pos
  omega

/-- The text of a file's bytes, with its line ends made one kind. -/
def decodeText (content : ByteArray) : Except DecodingFault (List Char) :=
  match decodingFault? content 0 with
  | some fault => .error fault
  | none => .ok (unifyLineEnds ((String.fromUTF8? content).getD "").toList)

end TerminalReel
