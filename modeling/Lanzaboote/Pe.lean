import Lanzaboote.Basic
import Mathlib.Data.List.Sort

/-!
# PE images, as the tool writes them and the stub reads them

Both halves of lanzaboote see a PE image through its section table. The build tool reads the
stub's optional header and last section to place new sections after it (`stub_offset`), and
`objcopy` adds those sections; at boot the stub looks its sections up by name and reads their
bytes (`pe_section`).

`objcopy` writes the image through the PE writer of BFD, which leaves the sections of size zero
out of the file and orders the section table by address (`PE.written`). Sections at one address
are kept in the order they had: BFD sorts them with `qsort`, which leaves their order open, and
the model picks one.

The model keeps what `goblin` parses and what the two halves read: the image base, and for each
section its name, virtual address, virtual size and the bytes it holds. The byte-level layout of
the file (headers, file alignment, raw data pointers) is left out: nothing in the code reads it
but `goblin` and `objcopy`, and the section's bytes stand for what a read of the section returns.

`pe_section` and `pe_section_as_string` live in a module of the stub that is not part of the
sources given here; they are modelled from the spec, which says the stub "locates the named
section and decodes it as either a UTF-8 string ... or a raw 32-byte digest".
-/

/-- **A section header of a PE image**, as `goblin` parses it, with the bytes the section holds. -/
structure SectionTable where
  /-- The section's name (`.text`, `.osrel`, ...). -/
  name : String
  /-- `virtual_size`: the section's size in memory. -/
  virtualSize : UInt32
  /-- `virtual_address`: where the section starts, relative to the image base. -/
  virtualAddress : UInt32
  /-- The bytes the section holds. -/
  data : Bytes
  deriving DecidableEq, Repr

/-- The fields of the optional header that only PE images have (`windows_fields`). -/
structure WindowsFields where
  /-- The address the image prefers to be loaded at. -/
  imageBase : UInt64
  deriving DecidableEq, Repr

/-- The optional header (`optional_header`); an object file has none. -/
structure OptionalHeader where
  /-- `windows_fields`. -/
  windowsFields : WindowsFields
  deriving DecidableEq, Repr

/-- The COFF header (`header`), with the optional header it may carry. -/
structure Header where
  /-- `optional_header`. -/
  optionalHeader : Option OptionalHeader
  deriving DecidableEq, Repr

/-- **A PE image** as `goblin::pe::PE::parse` returns it: its header and its section table. -/
structure PE where
  /-- `header`. -/
  header : Header
  /-- `sections`, in the order of the section table. -/
  sections : List SectionTable
  deriving DecidableEq, Repr

namespace SectionTable

/-- **A section of size zero**: it takes no memory and holds no bytes. -/
def isEmpty (t : SectionTable) : Bool := t.virtualSize == 0 && t.data.isEmpty

/-- One section starts at or below another. -/
def StartsBefore (a b : SectionTable) : Prop := a.virtualAddress.toNat ≤ b.virtualAddress.toNat

instance : DecidableRel StartsBefore := fun a b =>
  Nat.decLe a.virtualAddress.toNat b.virtualAddress.toNat

end SectionTable

namespace PE

/-- **`objcopy --add-section`**: the image with the sections appended to its table. -/
def addSections (pe : PE) (ss : List SectionTable) : PE :=
  { pe with sections := pe.sections ++ ss }

/-- Added sections come after the image's own. -/
@[simp] theorem addSections_sections (pe : PE) (ss : List SectionTable) :
    (pe.addSections ss).sections = pe.sections ++ ss := rfl

/-- Adding no section leaves the image as it was. -/
@[simp] theorem addSections_nil (pe : PE) : pe.addSections [] = pe := by
  cases pe
  simp only [addSections, List.append_nil]

/-- Sections added in two steps are added in one. -/
theorem addSections_addSections (pe : PE) (a b : List SectionTable) :
    (pe.addSections a).addSections b = pe.addSections (a ++ b) := by
  simp only [addSections, List.append_assoc]

/-- **The image `objcopy` writes**: BFD's PE writer leaves every section of size zero out and
orders the section table by address. -/
def written (pe : PE) : PE :=
  { pe with
    sections := (pe.sections.filter fun t => !t.isEmpty).insertionSort SectionTable.StartsBefore }

/-- BFD's writer keeps the image's header. -/
@[simp] theorem written_header (pe : PE) : pe.written.header = pe.header := rfl

end PE

/-- Modelled from the spec: `pe_section` of the stub's `pe_section` module, not among the given
sources. It locates the named section: the bytes of the first section of that name. -/
def peSection (peData : PE) (sectionName : String) : Option Bytes :=
  (peData.sections.find? (·.name = sectionName)).map (·.data)

/-- Modelled from the spec: `pe_section_as_string` of the stub's `pe_section` module. The named
section decoded as UTF-8; nothing when it is missing or not valid UTF-8. -/
def peSectionAsString (peData : PE) (sectionName : String) : Option (List Char) :=
  (peSection peData sectionName).bind fromUtf8

/-- `pe_section` reads the first section of the name. -/
theorem peSection_eq_filter (pe : PE) (n : String) :
    peSection pe n = ((pe.sections.filter (·.name = n)).head?).map (·.data) := by
  rw [peSection, List.filter_head?]

/-- The sections of a name in the image `objcopy` writes: those of the image but the ones of
size zero, in some order. -/
theorem PE.written_filter_name (pe : PE) (n : String) :
    (pe.written.sections.filter (·.name = n)).Perm
      ((pe.sections.filter (·.name = n)).filter fun t => !t.isEmpty) := by
  have h := (List.perm_insertionSort SectionTable.StartsBefore
    (pe.sections.filter fun t => !t.isEmpty)).filter fun t => decide (t.name = n)
  simpa only [PE.written, List.filter_filter, Bool.and_comm] using h

/-- A name no section of an image has is not in the image `objcopy` writes. -/
theorem peSection_written_of_nil {pe : PE} {n : String}
    (h : pe.sections.filter (·.name = n) = []) : peSection pe.written n = none := by
  have hp := pe.written_filter_name n
  rw [h, List.filter_nil, List.perm_nil] at hp
  rw [peSection_eq_filter, hp]
  rfl

/-- A name one section of an image has is read from the image `objcopy` writes, unless that
section has size zero and is left out. -/
theorem peSection_written_of_singleton {pe : PE} {n : String} {t : SectionTable}
    (h : pe.sections.filter (·.name = n) = [t]) :
    peSection pe.written n = if t.isEmpty then none else some t.data := by
  have hp := pe.written_filter_name n
  rw [h] at hp
  rw [peSection_eq_filter]
  cases ht : t.isEmpty
  · simp only [List.filter_cons, List.filter_nil, ht, Bool.not_false, ite_true,
      List.perm_singleton] at hp
    rw [hp]
    rfl
  · simp only [List.filter_cons, List.filter_nil, ht, Bool.not_true, Bool.false_eq_true,
      ite_false, List.perm_nil] at hp
    rw [hp]
    rfl
