import RowReader.ByteFile

/-!
# Framing

A file begins and ends with the same four magic bytes.  The footer stands before the last eight
bytes, which hold its length, low byte first, and the magic.  It is not empty and does not reach
into the magic at the front.

`checkMagic` is what opening a file asks for, `checkFooter` what reading its footer asks for.
-/

namespace RowReader

/-- The bytes after the footer: its length and the magic. -/
def trailerSize : Nat := 8

/-- The least size of a file: a magic at the front and a trailer, with a length, at the end. -/
def minFileSize : Nat := 12

/-- The number written in bytes, low byte first. -/
def littleEndian (bytes : List UInt8) : Nat :=
  bytes.foldr (fun b value => b.toNat + 256 * value) 0

namespace ByteFile

variable {φ : Type}

def expectMagic (fileEnd : FileEnd) (found : List UInt8) : Except Error Unit :=
  if found = magic then .ok () else .error (.wrongMagic fileEnd found)

/-- Checks the magic at both ends and returns the size.  Both are read before either is judged. -/
def checkMagic (file : ByteFile φ) : Action φ Nat := do
  let size ← file.size
  if size < minFileSize then Action.fail (.tooSmall size)
  else
    let header ← file.readAt 0 magic.length
    let footer ← file.readAt (size - magic.length) magic.length
    file.rewind
    Action.ofExcept (expectMagic .header header)
    Action.ofExcept (expectMagic .footer footer)
    return size

/-- The footer length that a trailer states, if a file of this size has room for it. -/
def footerLengthIn (size : Nat) (trailer : List UInt8) : Except Error Nat :=
  if trailer.length = trailerSize then
    let length := littleEndian (trailer.take 4)
    if length = 0 ∨ size < length + trailerSize + magic.length then
      .error (.footerLength length size)
    else .ok length
  else .error .footerCut

/-- Reads the footer length and checks it. -/
def checkFooter (file : ByteFile φ) : Action φ Nat := do
  let size ← file.size
  let trailer ← file.readAt (size - trailerSize) trailerSize
  file.rewind
  Action.ofExcept (footerLengthIn size trailer)

end ByteFile
end RowReader
