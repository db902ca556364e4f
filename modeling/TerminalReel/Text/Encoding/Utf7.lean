/-!
# TerminalReel.Text.Encoding.Utf7

**UTF-7**: ASCII, with all other characters in runs of letters that write their
16-bit units, six bits to a letter.

A plus begins a run, and a minus behind it is swallowed. The bits that are left over
at the end of a run are zeros and fill no letter. A surrogate alone is no character.
-/

namespace TerminalReel

/-- The six bits of a letter. -/
def sixBits? (byte : Nat) : Option Nat :=
  if 0x41 ≤ byte ∧ byte ≤ 0x5A then some (byte - 0x41)
  else if 0x61 ≤ byte ∧ byte ≤ 0x7A then some (byte - 0x61 + 26)
  else if 0x30 ≤ byte ∧ byte ≤ 0x39 then some (byte - 0x30 + 52)
  else if byte = 0x2B then some 62
  else if byte = 0x2F then some 63
  else none

/-- The byte is a letter with six bits. -/
def isLetterByte (byte : Nat) : Bool := (sixBits? byte).isSome

/-- The units of a run, behind a number of bits that fill none yet. -/
def unitsOf? (bits value : Nat) : List Nat → Option (List Nat)
  | [] => if bits < 6 ∧ value = 0 then some [] else none
  | byte :: rest => do
    let value := 64 * value + (← sixBits? byte)
    let bits := bits + 6
    if bits < 16 then unitsOf? bits value rest
    else
      let left := bits - 16
      return value / Nat.pow 2 left :: (← unitsOf? left (value % Nat.pow 2 left) rest)

/-- The characters of units. -/
def charsOfUnits? : List Nat → Option (List Char)
  | [] => some []
  | first :: rest =>
    if 0xD800 ≤ first ∧ first < 0xDC00 then
      match rest with
      | second :: rest =>
        if 0xDC00 ≤ second ∧ second < 0xE000 then
          (charsOfUnits? rest).map
            (Char.ofNat (0x10000 + (first - 0xD800) * 0x400 + (second - 0xDC00)) :: ·)
        else none
      | [] => none
    else if 0xDC00 ≤ first ∧ first < 0xE000 then none
    else (charsOfUnits? rest).map (Char.ofNat first :: ·)

/-- The text of bytes in UTF-7. -/
def readUtf7? : List Nat → Option (List Char)
  | [] => some []
  | byte :: rest =>
    if 0x80 ≤ byte then none
    else if byte ≠ 0x2B then (readUtf7? rest).map (Char.ofNat byte :: ·)
    else
      match rest with
      | [] => some []
      | next :: others =>
        if next = 0x2D then (readUtf7? others).map ('+' :: ·)
        else if !isLetterByte next then none
        else do
          let letters := (next :: others).takeWhile isLetterByte
          let behind := (next :: others).dropWhile isLetterByte
          let chars ← charsOfUnits? (← unitsOf? 0 0 letters)
          return chars ++ (← readUtf7? (if behind.head? = some 0x2D then behind.drop 1 else behind))
termination_by bytes => bytes.length
decreasing_by
  · exact Nat.lt_succ_self _
  · exact Nat.lt_succ_of_lt (Nat.lt_succ_self _)
  · have shorter := ((next :: others).dropWhile_suffix isLetterByte).length_le
    simp only [List.length_cons] at shorter ⊢
    split
    · simp only [List.length_drop]
      omega
    · omega

end TerminalReel
