import DebugBridge.Proofs.Radare.Registers
/-!
# The regions of a process through radare2, whatever it lists

`Radare.mappings` turns each section radare2 lists (`dmj`) into a region whose offset is the
section's start less the start of the first file entry (`dmmj`) naming its file; every
failure of that lookup gives offset 0 instead. `FindsAt` is a scan stopping at an entry,
`FileOffset` the difference at the entry it finds, and `OffsetOf` that difference or 0
(`mappings_offset_by_first_naming_entry`). So 0 stands for several things: an entry without
a file before the one that names it hides it (`unnamed_file_entry_zeroes_offset`).
-/

namespace DebugBridge

set_option autoImplicit false

namespace Radare

section Scan

variable {α : Type} (test : α → Except Fault Bool)

/-- Scanning `entries` in order, the scan finds `e`: every entry before it tests false and
`e` tests true. -/
def FindsAt (entries : List α) (e : α) : Prop :=
  ∃ before after, entries = before ++ e :: after ∧ (∀ b ∈ before, test b = .ok false) ∧
    test e = .ok true

theorem findsAt_cons (x : α) (rest : List α) (e : α) :
    FindsAt test (x :: rest) e ↔ (test x = .ok true ∧ x = e) ∨
      (test x = .ok false ∧ FindsAt test rest e) := by
  constructor
  · rintro ⟨before, after, split, passed, found⟩
    cases before with
    | nil =>
      cases split
      exact .inl ⟨found, rfl⟩
    | cons b before =>
      cases split
      refine .inr ⟨passed _ List.mem_cons_self, before, after, rfl, ?_, found⟩
      exact fun y mem => passed y (List.mem_cons_of_mem _ mem)
  · rintro (⟨found, rfl⟩ | ⟨passed, before, after, rfl, passedRest, found⟩)
    · exact ⟨[], rest, rfl, by simp, found⟩
    · refine ⟨x :: before, after, rfl, ?_, found⟩
      intro y mem
      rcases List.mem_cons.mp mem with rfl | mem
      · exact passed
      · exact passedRest y mem

theorem findM?_eq_ok_some (entries : List α) (e : α) :
    entries.findM? test = .ok (some e) ↔ FindsAt test entries e := by
  induction entries with
  | nil =>
    simp only [List.findM?, pure, Except.pure, FindsAt]
    constructor
    · intro returned
      cases returned
    · rintro ⟨before, after, split, -, -⟩
      cases before <;> cases split
  | cons x rest ih =>
    rw [findsAt_cons, ← ih]
    simp only [List.findM?]
    cases test x with
    | error f => simp [bind, Except.bind]
    | ok hit => cases hit <;> simp [bind, Except.bind, pure, Except.pure]

theorem findM?_map {β : Type} (g : β → α) (xs : List β) :
    (xs.map g).findM? test = (xs.findM? fun x => test (g x)).map (Option.map g) := by
  induction xs with
  | nil => rfl
  | cons x rest ih =>
    simp only [List.map_cons, List.findM?]
    cases test (g x) with
    | error f => rfl
    | ok hit =>
      cases hit with
      | true => rfl
      | false => exact ih

theorem findsAt_unique {entries : List α} {e e' : α} (found : FindsAt test entries e)
    (found' : FindsAt test entries e') : e = e' := by
  rw [← findM?_eq_ok_some] at found found'
  rw [found] at found'
  cases found'
  rfl

end Scan

section Files

variable (name : Value) (e : List (String × Value))

/-- What the offset lookup makes of one entry of the file table: an entry without a `file`
key is a missing key; any other is the one sought when its file equals `name`, as `==`
compares values. -/
def fileVerdict : Except Fault Bool :=
  match Value.lookup "file" e with
  | none => .error (.missingKey (.str "file"))
  | some g => .ok (Value.same g name)

theorem fileVerdict_eq_ok_true :
    fileVerdict name e = .ok true ↔ ∃ g, Value.lookup "file" e = some g ∧ Value.same g name = true := by
  unfold fileVerdict
  cases Value.lookup "file" e <;> simp

end Files

/-- The file offset the lookup finds for a section starting at `start` in the file `name`:
the scan of the file table finds an entry naming the file, the entry has an `addr`, and
`start` less that `addr` is `offset`. -/
def FileOffset (files : List (List (String × Value))) (name start offset : Value) : Prop :=
  ∃ entry base, FindsAt (fileVerdict name) files entry ∧ Value.lookup "addr" entry = some base ∧
    start.sub base = .ok offset

/-- The offset a region gets: the file offset the lookup finds, or 0 when it finds none. -/
def OffsetOf (files : List (List (String × Value))) (name start offset : Value) : Prop :=
  FileOffset files name start offset ∨ (offset = .int 0 ∧ ∀ d, ¬ FileOffset files name start d)

/-- How a section entry and the region made from it correspond: the region keeps the
section's start, end and file, and its offset is the one `OffsetOf` gives. -/
def SectionRegion (files : List (List (String × Value))) (s : List (String × Value))
    (r : MemoryMap) : Prop :=
  Value.lookup "addr" s = some r.start ∧ Value.lookup "addr_end" s = some r.stop ∧
    Value.lookup "file" s = some r.name ∧ OffsetOf files r.name r.start r.offset

theorem offsetOf_unnamed {files : List (List (String × Value))} {name start offset : Value}
    (unnamed : ∀ f ∈ files, ∀ g, Value.lookup "file" f = some g → Value.same g name = false)
    (given : OffsetOf files name start offset) : offset = .int 0 := by
  have none : ∀ d, ¬ FileOffset files name start d := by
    rintro d ⟨entry, base, ⟨before, after, rfl, -, named⟩, -, -⟩
    obtain ⟨g, listed, same⟩ := (fileVerdict_eq_ok_true name entry).mp named
    rw [unnamed entry (by simp) g listed] at same
    cases same
  rcases given with found | ⟨zero, -⟩
  · exact absurd found (none offset)
  · exact zero

section Lookup

variable (files : List (List (String × Value))) {s : List (String × Value)} {name : Value}
  (named : Value.lookup "file" s = some name)
include named

theorem findM?_fileDicts :
    (files.map Value.dict).findM? (fun x => do
      let f ← x.index (.str "file")
      let g ← (Value.dict s).index (.str "file")
      pure (Value.same f g)) = (files.findM? (fileVerdict name)).map (Option.map Value.dict) := by
  rw [findM?_map]
  congr
  funext e
  simp only [index_dict_str, named, fileVerdict]
  cases Value.lookup "file" e <;> rfl

theorem offsetIn_eq_some (start offset : Value) :
    offsetIn (.list (files.map Value.dict)) (.dict s) start = .ok (some offset) ↔
      FileOffset files name start offset := by
  -- a file offset is taken at an entry the scan finds
  have finds : FileOffset files name start offset →
      ∃ entry, files.findM? (fileVerdict name) = .ok (some entry) :=
    fun ⟨entry, _, found, _⟩ => ⟨entry, (findM?_eq_ok_some _ _ _).mpr found⟩
  unfold offsetIn
  rw [show (Value.list (files.map Value.dict)).items = pure (files.map Value.dict) from rfl,
    pure_bind, findM?_fileDicts files named]
  match scan : files.findM? (fileVerdict name) with
  | .ok none | .error _ =>
    refine ⟨fun returned => ?_, fun given => ?_⟩
    · simp [Except.map, bind, Except.bind, pure, Except.pure] at returned
    · obtain ⟨entry, found⟩ := finds given
      rw [found] at scan
      cases scan
  | .ok (some entry) =>
    have found : FindsAt (fileVerdict name) files entry := (findM?_eq_ok_some _ _ _).mp scan
    -- the scan finds one entry, so a file offset is taken at the entry found
    have atFound : FileOffset files name start offset ↔
        ∃ base, Value.lookup "addr" entry = some base ∧ start.sub base = .ok offset := by
      constructor
      · rintro ⟨entry', base, found', listed, difference⟩
        cases findsAt_unique _ found found'
        exact ⟨base, listed, difference⟩
      · rintro ⟨base, listed, difference⟩
        exact ⟨entry, base, found, listed, difference⟩
    rw [atFound]
    simp only [Except.map, Option.map_some, bind, Except.bind, index_dict_str]
    cases Value.lookup "addr" entry with
    | none => simp
    | some base =>
      simp only [Functor.map, Except.map, Option.some.injEq, exists_eq_left']
      cases start.sub base <;> simp

theorem offsetOf_offsetIn (start : Value) :
    OffsetOf files name start (match offsetIn (.list (files.map Value.dict)) (.dict s) start with
      | .ok (some v) => v
      | _ => .int 0) := by
  match looked : offsetIn (.list (files.map Value.dict)) (.dict s) start with
  | .ok (some v) => exact .inl ((offsetIn_eq_some files named start v).mp looked)
  | .ok none | .error _ =>
    -- no offset from the lookup: a file offset would have been given
    refine .inr ⟨rfl, fun d found => ?_⟩
    rw [(offsetIn_eq_some files named start d).mpr found] at looked
    cases looked

end Lookup

theorem regionOfSection_dict (files : List (List (String × Value))) {s : List (String × Value)}
    {start stop name : Value} (started : Value.lookup "addr" s = some start)
    (stopped : Value.lookup "addr_end" s = some stop) (named : Value.lookup "file" s = some name) :
    ∃ r, regionOfSection (.list (files.map Value.dict)) (.dict s) = .ok r ∧
      SectionRegion files s r := by
  unfold regionOfSection
  simp only [index_dict_str, started, stopped, named, bind, Except.bind, pure, Except.pure]
  exact ⟨_, rfl, started, stopped, named, offsetOf_offsetIn files named start⟩

theorem mapM_map_ok {α γ β : Type} (g : α → γ) (f : γ → Except Fault β) (R : α → β → Prop)
    (xs : List α) (each : ∀ x ∈ xs, ∃ y, f (g x) = .ok y ∧ R x y) :
    ∃ ys, (xs.map g).mapM f = .ok ys ∧ List.Forall₂ R xs ys := by
  induction xs with
  | nil => exact ⟨[], rfl, .nil⟩
  | cons x rest ih =>
    obtain ⟨y, stepped, related⟩ := each x (by simp)
    obtain ⟨ys, traversed, relatedRest⟩ := ih fun x mem => each x (List.mem_cons_of_mem _ mem)
    refine ⟨y :: ys, ?_, .cons related relatedRest⟩
    rw [List.map_cons, List.mapM_cons, stepped]
    simp only [bind, Except.bind, traversed, pure, Except.pure]

/-- Listing the regions of a process whose sections all carry a start, an end and a file
gives one region per section, in order: each keeps its section's start, end and file, and
its offset is the section's start less the `addr` of the first file entry naming its file,
or 0 when that difference cannot be had. -/
theorem mappings_offset_by_first_naming_entry (backend : Call → Except Fault Value)
    (sections files : List (List (String × Value)))
    (listsSections : backend (cmdjCall "dmj") = .ok (.list (sections.map .dict)))
    (listsFiles : backend (cmdjCall "dmmj") = .ok (.list (files.map .dict)))
    (carried : ∀ s ∈ sections, (Value.lookup "addr" s).isSome ∧
      (Value.lookup "addr_end" s).isSome ∧ (Value.lookup "file" s).isSome) :
    ∃ regions : List MemoryMap,
      (mappings (Probe.link backend)).run.run [] =
        (.ok (.list (regions.map MemoryMap.toValue)), [cmdjCall "dmj", cmdjCall "dmmj"]) ∧
      List.Forall₂ (SectionRegion files) sections regions := by
  have each : ∀ s ∈ sections, ∃ r,
      regionOfSection (.list (files.map Value.dict)) (.dict s) = .ok r ∧ SectionRegion files s r := by
    intro s mem
    obtain ⟨started, stopped, named⟩ := carried s mem
    obtain ⟨start, startedAt⟩ := Option.isSome_iff_exists.mp started
    obtain ⟨stop, stoppedAt⟩ := Option.isSome_iff_exists.mp stopped
    obtain ⟨name, namedAs⟩ := Option.isSome_iff_exists.mp named
    exact regionOfSection_dict files startedAt stoppedAt namedAs
  obtain ⟨regions, traversed, related⟩ := mapM_map_ok Value.dict _ _ sections each
  refine ⟨regions, ?_, related⟩
  have dmj : backend { path := "cmdj", args := [.str "dmj"] } = _ := listsSections
  have dmmj : backend { path := "cmdj", args := [.str "dmmj"] } = _ := listsFiles
  unfold mappings cmdj
  rw [Probe.bind_ok (by rw [Probe.send_run, dmj]),
    Probe.bind_ok (by rw [Probe.send_run, dmmj]),
    show (Value.list (sections.map Value.dict)).items = .ok (sections.map Value.dict) from rfl,
    Probe.bind_ok (Probe.liftFault_ok_run _),
    Probe.bind_ok ((Probe.mapM_liftFault_run _ _).trans (by rw [traversed]))]
  rfl

def sampleSections : List (List (String × Value)) :=
  [[("addr", .int 0x2000), ("addr_end", .int 0x3000), ("file", .str "/bin/a")]]

def unnamedFirstFiles : List (List (String × Value)) :=
  [[("addr", .int 0)], [("file", .str "/bin/a"), ("addr", .int 0x1000)]]

def unnamedFirst (c : Call) : Except Fault Value :=
  match c.path, c.args with
  | "cmdj", [.str "dmj"] => .ok (.list (sampleSections.map .dict))
  | "cmdj", [.str "dmmj"] => .ok (.list (unnamedFirstFiles.map .dict))
  | _, _ => .ok .none

/-- The first entry naming `/bin/a` starts at `0x1000`, yet the section's offset is 0, not
`0x1000`: the entry before it has no file, and the failed lookup there ends the search. -/
theorem unnamed_file_entry_zeroes_offset :
    (mappings (Probe.link unnamedFirst)).run.run [] =
      (.ok (.list [.region (.int 0x2000) (.int 0x3000) (.int 0) (.str "/bin/a")]),
        [cmdjCall "dmj", cmdjCall "dmmj"]) := rfl

theorem mappings_offset_on_unnamed_first :
    unnamedFirst (cmdjCall "dmj") = .ok (.list (sampleSections.map .dict)) ∧
      unnamedFirst (cmdjCall "dmmj") = .ok (.list (unnamedFirstFiles.map .dict)) ∧
      (∀ s ∈ sampleSections, (Value.lookup "addr" s).isSome ∧
        (Value.lookup "addr_end" s).isSome ∧ (Value.lookup "file" s).isSome) ∧
      ∃ regions : List MemoryMap,
        (mappings (Probe.link unnamedFirst)).run.run [] =
          (.ok (.list (regions.map MemoryMap.toValue)), [cmdjCall "dmj", cmdjCall "dmmj"]) ∧
        List.Forall₂ (SectionRegion unnamedFirstFiles) sampleSections regions := by
  have carried : ∀ s ∈ sampleSections, (Value.lookup "addr" s).isSome ∧
      (Value.lookup "addr_end" s).isSome ∧ (Value.lookup "file" s).isSome := by
    simp [sampleSections, Value.lookup]
  exact ⟨rfl, rfl, carried, mappings_offset_by_first_naming_entry unnamedFirst _ _ rfl rfl carried⟩

end Radare

end DebugBridge
