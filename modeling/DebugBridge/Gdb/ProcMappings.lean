import DebugBridge.MemoryMap
import DebugBridge.Text.Numeral
/-!
# The mappings table that gdb prints

A few header lines, then one line per region with its start, end, size, offset and file,
separated by spaces; the transport may have escaped line breaks and tabs as backslash-`n` and
backslash-`t`. `regionOfLine` takes as fields the pieces that are neither empty nor one of
those escapes, reads start, end and offset as hex once the escapes are removed, and names the
region by the last path component of the fifth field. A line that lacks a field or holds a
bad numeral is skipped.
-/

namespace DebugBridge.Gdb

set_option autoImplicit false

def escapedBreak : String := "\\n"
def escapedTab : String := "\\t"

/-- The pieces of a line between its single spaces; two spaces in a row leave an empty piece
between them. -/
def pieces (line : String) : List String :=
  (line.toList.splitOn ' ').map String.ofList

/-- The fields of a line: its pieces, without empty pieces and without pieces that are a
lone escape. -/
def fields (line : String) : List String :=
  (pieces line).filter fun x => x != escapedTab && x != escapedBreak && x != ""

/-- The characters with every backslash-`c` pair removed, scanning from the left: a pair
that is removed never lends its characters to another. -/
def dropEscapes (c : Char) : List Char → List Char
  | '\\' :: d :: rest => if d = c then dropEscapes c rest else '\\' :: dropEscapes c (d :: rest)
  | x :: rest => x :: dropEscapes c rest
  | [] => []

/-- A field without the escape sequences it contains: first every escaped line break, then
every escaped tab. -/
def unescape (s : String) : String :=
  String.ofList (dropEscapes 't' (dropEscapes 'n' s.toList))

def baseName (path : String) : String :=
  (path.splitOn "/").getLastD ""

def regionOfLine (line : String) : Option MemoryMap := do
  let fs := fields line
  let start ← Text.readNumeral 16 (unescape (← fs[0]?))
  let stop ← Text.readNumeral 16 (unescape (← fs[1]?))
  let offset ← Text.readNumeral 16 (unescape (← fs[3]?))
  let name := baseName (unescape (← fs[4]?))
  pure ⟨.int start, .int stop, .int offset, .str name⟩

/-- The regions of a table, given its lines: the first four lines are its header. -/
def regionsOfTable (lines : List String) : List MemoryMap :=
  (lines.drop 4).filterMap regionOfLine

end DebugBridge.Gdb
