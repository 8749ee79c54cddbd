import DebugBridge.Proofs.Gdb.Faults
import DebugBridge.Proofs.Text.ReadBack
/-!
# Reading back the mappings table

gdb prints the regions of a process as header lines, then one line per region with start,
end, size and offset in hex and the path of the mapped file, set apart by runs of spaces;
lines with fewer than five fields may stand anywhere among them. `tableText` writes such a
table, and the adapter reads it back exactly: one region per entry, in order, with the last
component of the path (`mappings_reads_table`). The reader splits a line at single spaces
and drops the empty pieces, so a word without spaces comes out as one field.
-/

namespace DebugBridge.Gdb

set_option autoImplicit false

def kept (piece : String) : Bool := piece != escapedTab && piece != escapedBreak && piece != ""

def fieldsOf (cs : List Char) : List String := ((cs.splitOn ' ').map String.ofList).filter kept

theorem fields_eq_fieldsOf (line : String) : fields line = fieldsOf line.toList := rfl

section Fields

theorem kept_empty : kept "" = false := by decide

theorem kept_of_head {piece : String} {c : Char} {rest : List Char}
    (chars : piece.toList = c :: rest) (notBackslash : c ≠ '\\') : kept piece = true := by
  have differs (escape : String) (first : escape.toList.head? = some '\\') : piece ≠ escape := by
    intro same
    rw [← same, chars] at first
    exact notBackslash (Option.some.inj first)
  have nonempty : piece ≠ "" := by
    intro same
    rw [same] at chars
    cases chars
  simp [kept, differs escapedTab rfl, differs escapedBreak rfl, nonempty]

theorem fieldsOf_space (cs : List Char) : fieldsOf (' ' :: cs) = fieldsOf cs := by
  have split := List.splitOn_append_cons_self_of_not_mem (List.not_mem_nil (a := ' ')) cs
  rw [List.nil_append] at split
  rw [fieldsOf, split, List.map_cons, List.filter_cons_of_neg (by simp [kept_empty])]
  rfl

theorem fieldsOf_spaces (k : Nat) (cs : List Char) :
    fieldsOf (List.replicate k ' ' ++ cs) = fieldsOf cs := by
  induction k with
  | zero => rfl
  | succ k ih => rw [List.replicate_succ, List.cons_append, fieldsOf_space, ih]

/-- Words in order, each but the last followed by a run of spaces: `gap` counts the spaces
after the one that must stand there. -/
def spacedWords : List (String × Nat) → String → List Char
  | [], last => last.toList
  | (w, gap) :: rest, last => w.toList ++ ' ' :: (List.replicate gap ' ' ++ spacedWords rest last)

theorem fieldsOf_spacedWords (last : String) (lastPlain : ' ' ∉ last.toList)
    (lastKept : kept last = true) :
    ∀ words : List (String × Nat), (∀ w ∈ words, ' ' ∉ w.1.toList ∧ kept w.1 = true) →
      fieldsOf (spacedWords words last) = words.map Prod.fst ++ [last]
  | [], _ => by
    rw [spacedWords, fieldsOf, List.splitOn_eq_singleton lastPlain, List.map_singleton,
      String.ofList_toList, List.filter_cons_of_pos lastKept]
    rfl
  | (w, gap) :: rest, plain => by
    obtain ⟨noSpace, wordKept⟩ := plain (w, gap) List.mem_cons_self
    have tail := fieldsOf_spacedWords last lastPlain lastKept rest
      fun v mem => plain v (List.mem_cons_of_mem _ mem)
    have head : fieldsOf (w.toList ++ ' ' :: (List.replicate gap ' ' ++ spacedWords rest last)) =
        w :: fieldsOf (List.replicate gap ' ' ++ spacedWords rest last) := by
      rw [fieldsOf, List.splitOn_append_cons_self_of_not_mem noSpace, List.map_cons,
        String.ofList_toList, List.filter_cons_of_pos wordKept]
      rfl
    rw [spacedWords, head, fieldsOf_spaces, tail]
    rfl

theorem mem_spacedWords {c : Char} {last : String} :
    ∀ {words : List (String × Nat)}, c ∈ spacedWords words last →
      c = ' ' ∨ (∃ w ∈ words, c ∈ w.1.toList) ∨ c ∈ last.toList
  | [], mem => .inr (.inr mem)
  | (w, gap) :: rest, mem => by
    rw [spacedWords] at mem
    rcases List.mem_append.mp mem with inWord | mem
    · exact .inr (.inl ⟨(w, gap), List.mem_cons_self, inWord⟩)
    rcases List.mem_cons.mp mem with isSpace | mem
    · exact .inl isSpace
    rcases List.mem_append.mp mem with inRun | inRest
    · exact .inl (List.eq_of_mem_replicate inRun)
    rcases mem_spacedWords inRest with isSpace | ⟨v, inWords, inWord⟩ | inLast
    · exact .inl isSpace
    · exact .inr (.inl ⟨v, List.mem_cons_of_mem _ inWords, inWord⟩)
    · exact .inr (.inr inLast)

theorem regionOfLine_of_short {line : String} (short : (fields line).length < 5) :
    regionOfLine line = none := by
  have missing : (fields line)[4]? = none := List.getElem?_eq_none (by omega)
  simp [regionOfLine, missing]

end Fields

section Escapes

theorem dropEscapes_of_not_infix (c : Char) (cs : List Char) (absent : ¬ ['\\', c] <:+: cs) :
    dropEscapes c cs = cs := by
  fun_induction dropEscapes c cs with
  | case1 rest ih =>
    exact absurd ⟨[], rest, rfl⟩ absent
  | case2 d rest differs ih =>
    rw [ih fun inner => absent (inner.trans (List.infix_cons List.infix_rfl))]
  | case3 x rest notPair ih =>
    rw [ih fun inner => absent (inner.trans (List.infix_cons List.infix_rfl))]
  | case4 => rfl

theorem unescape_of_plain {s : String} (noBreak : ¬ ['\\', 'n'] <:+: s.toList)
    (noTab : ¬ ['\\', 't'] <:+: s.toList) : unescape s = s := by
  rw [unescape, dropEscapes_of_not_infix 'n' _ noBreak, dropEscapes_of_not_infix 't' _ noTab,
    String.ofList_toList]

theorem not_infix_of_not_mem {c : Char} {cs : List Char} (noBackslash : '\\' ∉ cs) :
    ¬ ['\\', c] <:+: cs := fun inner => noBackslash (inner.subset List.mem_cons_self)

end Escapes

section Numbers

def hexField (n : Nat) : String := "0x" ++ String.ofList (Nat.toDigits 16 n)

theorem hexField_toList (n : Nat) : (hexField n).toList = '0' :: 'x' :: Nat.toDigits 16 n := by
  simp [hexField]

theorem digitChar_alphanum : ∀ d, d < 16 → (Nat.digitChar d).isAlphanum = true
  | 0, _ | 1, _ | 2, _ | 3, _ | 4, _ | 5, _ | 6, _ | 7, _ | 8, _ | 9, _ | 10, _ | 11, _
  | 12, _ | 13, _ | 14, _ | 15, _ => by decide
  | _ + 16, h => absurd h (by omega)

theorem hexField_alphanum (n : Nat) : ∀ c ∈ (hexField n).toList, c.isAlphanum = true := by
  intro c mem
  rw [hexField_toList] at mem
  rcases List.mem_cons.mp mem with rfl | mem
  · decide
  rcases List.mem_cons.mp mem with rfl | digit
  · decide
  obtain ⟨d, below, rfl⟩ := Text.mem_toDigits (by decide) n digit
  exact digitChar_alphanum d below

theorem not_mem_hexField {c : Char} (notAlphanum : c.isAlphanum = false) (n : Nat) :
    c ∉ (hexField n).toList := by
  intro mem
  rw [hexField_alphanum n c mem] at notAlphanum
  cases notAlphanum

theorem readNumeral_hexField (n : Nat) : Text.readNumeral 16 (hexField n) = some n := by
  have read := Text.readNumeral_hexLiteral n
  rw [if_neg (Int.not_lt.mpr (Int.natCast_nonneg n)), Int.natAbs_natCast] at read
  exact read

theorem hexField_field (n : Nat) : ' ' ∉ (hexField n).toList ∧ kept (hexField n) = true :=
  ⟨not_mem_hexField (by decide) n, kept_of_head (hexField_toList n) (by decide)⟩

theorem unescape_hexField (n : Nat) : unescape (hexField n) = hexField n :=
  unescape_of_plain (not_infix_of_not_mem (not_mem_hexField (by decide) n))
    (not_infix_of_not_mem (not_mem_hexField (by decide) n))

end Numbers

/-- A region as gdb lists it: start, end, size and offset, and the path of the mapped file.
The path is one field of the table: not empty, without spaces or line breaks, and holding
neither escape. -/
structure TableEntry where
  start : Nat
  stop : Nat
  size : Nat
  offset : Nat
  path : String
  path_nonempty : path.toList ≠ []
  path_no_space : ' ' ∉ path.toList
  path_no_break : '\n' ∉ path.toList
  path_no_escapedBreak : ¬ ['\\', 'n'] <:+: path.toList
  path_no_escapedTab : ¬ ['\\', 't'] <:+: path.toList

/-- How gdb spaces an entry line: the spaces before the start, and after each number the
spaces beyond the one that must follow it. -/
structure Spacing where
  indent : Nat
  afterStart : Nat
  afterStop : Nat
  afterSize : Nat
  afterOffset : Nat

/-- A line of the table that describes no region: it holds fewer than five runs of
characters other than spaces. -/
structure Filler where
  text : String
  no_break : '\n' ∉ text.toList
  few_fields : (text.toList.splitOn ' ').countP (fun piece => !piece.isEmpty) < 5

namespace TableEntry

variable (e : TableEntry)

def line (spacing : Spacing) : String :=
  String.ofList (List.replicate spacing.indent ' ' ++
    spacedWords [(hexField e.start, spacing.afterStart), (hexField e.stop, spacing.afterStop),
      (hexField e.size, spacing.afterSize), (hexField e.offset, spacing.afterOffset)] e.path)

def region : MemoryMap := ⟨.int e.start, .int e.stop, .int e.offset, .str (baseName e.path)⟩

theorem path_kept : kept e.path = true := by
  have differs (escape : String) (c : Char) (chars : escape.toList = ['\\', c])
      (absent : ¬ ['\\', c] <:+: e.path.toList) : e.path ≠ escape := by
    intro same
    rw [same, chars] at absent
    exact absent List.infix_rfl
  have nonempty : e.path ≠ "" := fun same => e.path_nonempty (by rw [same]; rfl)
  simp [kept, differs escapedTab 't' rfl e.path_no_escapedTab,
    differs escapedBreak 'n' rfl e.path_no_escapedBreak, nonempty]

theorem fields_line (spacing : Spacing) :
    fields (e.line spacing) = [hexField e.start, hexField e.stop, hexField e.size,
      hexField e.offset, e.path] := by
  rw [fields_eq_fieldsOf, line, String.toList_ofList, fieldsOf_spaces,
    fieldsOf_spacedWords e.path e.path_no_space e.path_kept]
  · rfl
  · intro w mem
    simp only [List.mem_cons, List.not_mem_nil, or_false] at mem
    rcases mem with rfl | rfl | rfl | rfl <;> exact hexField_field _

theorem regionOfLine_line (spacing : Spacing) : regionOfLine (e.line spacing) = some e.region := by
  simp [regionOfLine, fields_line, unescape_hexField, readNumeral_hexField,
    unescape_of_plain e.path_no_escapedBreak e.path_no_escapedTab, region]

theorem not_mem_line (spacing : Spacing) : '\n' ∉ (e.line spacing).toList := by
  rw [line, String.toList_ofList]
  intro mem
  rcases List.mem_append.mp mem with indent | fields
  · exact absurd (List.eq_of_mem_replicate indent) (by decide)
  rcases mem_spacedWords fields with isSpace | ⟨w, inWords, inWord⟩ | inPath
  · exact absurd isSpace (by decide)
  · simp only [List.mem_cons, List.not_mem_nil, or_false] at inWords
    rcases inWords with rfl | rfl | rfl | rfl <;> exact not_mem_hexField (by decide) _ inWord
  · exact e.path_no_break inPath

end TableEntry

theorem Filler.regionOfLine_text (f : Filler) : regionOfLine f.text = none := by
  apply regionOfLine_of_short
  have fewer : (fields f.text).length ≤
      (f.text.toList.splitOn ' ').countP (fun piece => !piece.isEmpty) := by
    rw [fields_eq_fieldsOf, fieldsOf, ← List.countP_eq_length_filter, List.countP_map]
    apply List.countP_mono_left
    intro piece _ isKept
    cases piece with
    | nil => simp [kept_empty] at isKept
    | cons c rest => rfl
  have := f.few_fields
  omega

/-- A line of the table after its header. -/
inductive TableLine where
  | entry (e : TableEntry) (spacing : Spacing)
  | filler (f : Filler)

namespace TableLine

def text : TableLine → String
  | entry e spacing => e.line spacing
  | filler f => f.text

def entry? : TableLine → Option TableEntry
  | entry e _ => some e
  | filler _ => none

theorem regionOfLine_text (l : TableLine) : regionOfLine l.text = l.entry?.map TableEntry.region := by
  cases l with
  | entry e spacing => exact e.regionOfLine_line spacing
  | filler f => exact f.regionOfLine_text

theorem not_mem_text (l : TableLine) : '\n' ∉ l.text.toList := by
  cases l with
  | entry e spacing => exact e.not_mem_line spacing
  | filler f => exact f.no_break

end TableLine

def tableText (header : List String) (body : List TableLine) : String :=
  "\n".intercalate (header ++ body.map TableLine.text)

theorem lines_tableText {header : List String} (nonempty : header ≠ [])
    (headerLines : ∀ h ∈ header, '\n' ∉ h.toList) (body : List TableLine) :
    (Value.str (tableText header body)).lines = .ok (header ++ body.map TableLine.text) := by
  have noBreak : ∀ l ∈ (header ++ body.map TableLine.text).map String.toList, '\n' ∉ l := by
    intro l mem
    obtain ⟨line, inTable, rfl⟩ := List.mem_map.mp mem
    rcases List.mem_append.mp inTable with inHeader | inBody
    · exact headerLines line inHeader
    · obtain ⟨l, -, rfl⟩ := List.mem_map.mp inBody
      exact l.not_mem_text
  have split := List.splitOn_intercalate '\n' noBreak (by simp [nonempty])
  simp only [Value.lines, tableText, String.toList_intercalate]
  rw [show "\n".toList = ['\n'] from rfl, split, List.map_map]
  simp

/-- Past its four header lines, the table reads as the regions of its entries. -/
theorem regionsOfTable_lines {header : List String} (four : header.length = 4)
    (body : List TableLine) :
    regionsOfTable (header ++ body.map TableLine.text) =
      (body.filterMap TableLine.entry?).map TableEntry.region := by
  rw [regionsOfTable, List.drop_left' four, List.filterMap_map, List.map_filterMap]
  congr 1
  funext l
  exact l.regionOfLine_text

/-- Whatever the four header lines, the spacing of the entries and the short lines among
them, the regions the adapter reads from the table gdb prints are the table's entries, in
order, each with its start, end, offset and the last component of its path. -/
theorem mappings_reads_table (backend : Call → Except Fault Value) (first : Value)
    (header : List String) (body : List TableLine) (four : header.length = 4)
    (headerLines : ∀ h ∈ header, '\n' ∉ h.toList)
    (reply : backend { path := "target.protocols.memory.get_mappings" } =
      .ok (.tuple [first, .str (tableText header body)])) :
    (GdbTarget.mappings (Probe.link backend)).run.run [] =
      (.ok (.list ((body.filterMap TableLine.entry?).map fun e => e.region.toValue)),
        [{ path := "target.protocols.memory.get_mappings" }]) := by
  have nonempty : header ≠ [] := by
    intro empty
    rw [empty] at four
    cases four
  unfold GdbTarget.mappings
  rw [Probe.bind_ok (GdbTarget.send_reply backend reply),
    show (Value.tuple [first, .str (tableText header body)]).index (.int 1) =
      .ok (.str (tableText header body)) from rfl,
    Probe.bind_ok (Probe.liftFault_ok_run _), lines_tableText nonempty headerLines,
    Probe.bind_ok (Probe.liftFault_ok_run _), regionsOfTable_lines four, List.map_map]
  rfl

def sampleEntry : TableEntry where
  start := 0x400000
  stop := 0x401000
  size := 0x1000
  offset := 0
  path := "/usr/bin/true"
  path_nonempty := by decide
  path_no_space := by decide
  path_no_break := by decide
  path_no_escapedBreak := by decide
  path_no_escapedTab := by decide

def sampleHeader : List String :=
  ["process 4242", "Mapped address spaces:", "",
    "Start Addr           End Addr       Size     Offset objfile"]

def sampleBody : List TableLine :=
  [.entry sampleEntry ⟨10, 10, 6, 4, 0⟩, .filler ⟨"", by decide, by decide⟩]

theorem mappings_reads_table_on_sample :
    sampleHeader.length = 4 ∧ (∀ h ∈ sampleHeader, '\n' ∉ h.toList) ∧
      (GdbTarget.mappings (Probe.link fun _ =>
          .ok (.tuple [.bool true, .str (tableText sampleHeader sampleBody)]))).run.run [] =
        (.ok (.list ((sampleBody.filterMap TableLine.entry?).map fun e => e.region.toValue)),
          [{ path := "target.protocols.memory.get_mappings" }]) :=
  ⟨rfl, by decide, mappings_reads_table _ (.bool true) sampleHeader sampleBody rfl (by decide) rfl⟩

end DebugBridge.Gdb
