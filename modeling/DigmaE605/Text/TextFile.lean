import DigmaE605.Text.Decimal

/-!
# A text file

A file that is written as a whole and read from the start: `fopen` with `"wt"`
empties it, `fprintf` appends, `fopen` with `"rt"` starts reading at the
beginning, and `fgets` goes on where the reader is.

`gets_of_holds` and `holds_print` are the two halves of a round trip: a file
that holds a 32-bit value reads as that value, and printing a value to the
emptied file makes it hold the value.
-/

namespace DigmaE605
namespace Text

/-- The text of a file, and what its reader has not read yet. -/
structure TextFile where
  content : List Char
  unread : List Char
  deriving DecidableEq, Repr

namespace TextFile

/-- `fopen(name, "rt")` -/
def openRead (file : TextFile) : TextFile := { file with unread := file.content }

/-- `fopen(name, "wt")` -/
def openWrite (_ : TextFile) : TextFile := { content := [], unread := [] }

/-- `fprintf(file, ...)` of the text. -/
def print (text : List Char) (file : TextFile) : TextFile :=
  { file with content := file.content ++ text }

/-- `fgets(temp, size, file)` -/
def gets (size : Nat) (file : TextFile) : Option (List Char) × TextFile :=
  ((fgets size file.unread).1, { file with unread := (fgets size file.unread).2 })

/-- The file holds the decimal text of the value, with or without a newline. -/
def Holds (file : TextFile) (value : Int32) : Prop :=
  file.content = decimalText value.toInt ∨ file.content = decimalText value.toInt ++ ['\n']

/-- The first line of a file that holds a value is read as the value. -/
theorem gets_of_holds {file : TextFile} {value : Int32} (h : file.Holds value) {size : Nat}
    (hsize : 13 ≤ size) :
    ∃ line, (file.openRead.gets size).1 = some line ∧ atoi line = value :=
  fgets_decimalText value hsize h

/-- Printing a value to the emptied file makes it hold the value. -/
theorem holds_print (file : TextFile) (value : Int32) :
    (file.openWrite.print (decimalText value.toInt)).Holds value :=
  .inl (List.nil_append _)

end TextFile

end Text
end DigmaE605
