import Lanzaboote.EspPath
import Lanzaboote.Pe

/-!
# `lzbt`: writing the configuration into the stub

The build tool makes a bootable image out of the lanzaboote stub by adding sections to a copy
of it (`lanzaboote_image`): the os-release file, the kernel command line, and the ESP paths of
the initrd and the kernel. It cannot hand `objcopy` bytes, only files, so it first writes each
value to a temporary file (`write_to_tmp`); then it places the sections one after the other,
starting where the stub's last section ends (`stub_offset`), and runs `objcopy` on the list
(`wrap_in_pe`). `wrap_initrd` does the same with a single `.initrd` section.

The host is a file system the tool reads and writes (`HostFs`); a run either returns a value and
the file system after it, or stops with an `anyhow` error or a panic (`ToolError`). Temporary
files get names no file has. Machine integers are `UInt32` and `UInt64`, with the wrapping
arithmetic of a release build, where Rust does not check for overflow.

`objcopy` is not part of lanzaboote: it is modelled as the tool uses it and as binutils does it
on a PE image. It adds each section with the bytes of its file, and fails when the image already
has a section of that name ("can't add section"); it moves a section to the address given; and
it writes the image through BFD's PE writer, which leaves out sections of size zero and orders
the table by address (`PE.written`).
-/

/-- **What a file of the build host holds**: bytes, or a PE binary as `goblin` parses it. -/
inductive HostFile where
  | data (bytes : Bytes)
  | image (pe : PE)
  deriving DecidableEq, Repr

/-- The bytes of a file; an image's bytes are its sections' bytes. -/
def HostFile.bytes : HostFile → Bytes
  | .data bytes => bytes
  | .image pe => pe.sections.flatMap (·.data)

/-- **The build host's file system**: its files by path, the most recent write first. -/
structure HostFs where
  /-- The files and their paths. -/
  files : List (List Char × HostFile)
  deriving DecidableEq, Repr

namespace HostFs

/-- The file at a path. -/
def lookup (fs : HostFs) (path : List Char) : Option HostFile := fs.files.lookup path

/-- The file system with `file` written at `path`. -/
def write (fs : HostFs) (path : List Char) (file : HostFile) : HostFs :=
  ⟨(path, file) :: fs.files⟩

/-- A temporary file's name that no file has: longer than every path there is. -/
def freshPath (fs : HostFs) : List Char :=
  "/tmp/.tmp".toList ++ List.replicate (fs.files.map (·.1.length)).sum 'X'

/-- A file just written is found at its path. -/
@[simp] theorem lookup_write_self (fs : HostFs) (path : List Char) (file : HostFile) :
    (fs.write path file).lookup path = some file :=
  List.lookup_cons_self

/-- Writing a file changes only what is found at its path. -/
theorem lookup_write (fs : HostFs) (path : List Char) (file : HostFile) (q : List Char) :
    (fs.write path file).lookup q = if q = path then some file else fs.lookup q := by
  by_cases h : q = path
  · rw [if_pos h, h, lookup_write_self]
  · rw [if_neg h, lookup, write, List.lookup_cons, beq_false_of_ne h]
    rfl

end HostFs

/-- **How a run of the tool stops**: an `anyhow` error with its message, or a panic. -/
inductive ToolError where
  | error (message : String)
  | panic (p : Panic)
  deriving DecidableEq, Repr

/-- A run of the tool on the host's file system. -/
abbrev ToolM := StateT HostFs (Except ToolError)

namespace Lanzatool

/-- **`write_to_tmp`**: a new temporary file holding `contents`, kept, and its path. -/
def writeToTmp (contents : Bytes) : ToolM (List Char) := do
  let fs ← get
  set (fs.write fs.freshPath (.data contents))
  pure fs.freshPath

/-- **`file_size`**: the size of the file at a path. -/
def fileSize (path : List Char) : ToolM Nat := do
  match (← get).lookup path with
  | some file => pure file.bytes.length
  | none => throw (.error "No such file or directory (os error 2)")

/-- `fs::read` and `PE::parse` of a PE binary, with the contexts `stub_offset` gives them. -/
def readPe (binary : List Char) : ToolM PE := do
  match (← get).lookup binary with
  | some (.image pe) => pure pe
  | some (.data _) => throw (.error "Failed to parse PE binary file")
  | none => throw (.error "Failed to read PE binary file")

/-- **`image_base`**: the image base of the optional header. -/
def imageBase (pe : PE) : ToolM UInt64 :=
  match pe.header.optionalHeader with
  | some h => pure h.windowsFields.imageBase
  | none => throw (.panic (.expect "Failed to find optional header, you\x27re fucked"))

/-- **`stub_offset`**: where the stub's last section ends, `virtual_size + virtual_address`
added as `u32`, then widened and moved by the image base. -/
def stubOffset (binary : List Char) : ToolM UInt64 := do
  let pe ← readPe binary
  let imageBase ← imageBase pe
  match pe.sections.getLast? with
  | some s => pure ((s.virtualSize + s.virtualAddress).toUInt64 + imageBase)
  | none => throw (.panic (.expect "Failed to calculate offset"))

/-- A section to add: its name, the file holding its bytes, its address (`Section`). -/
structure Section where
  /-- The section's name. -/
  name : String
  /-- The file the bytes come from. -/
  filePath : List Char
  /-- The address the section is moved to. -/
  offset : UInt64
  deriving DecidableEq, Repr

/-- `s`: a section to add. -/
def s (name : String) (filePath : List Char) (offset : UInt64) : Section :=
  ⟨name, filePath, offset⟩

/-- The section `objcopy --add-section NAME=FILE` makes of a planned one: its name and the bytes
of its file, when there is one. -/
def Section.contents (fs : HostFs) (sec : Section) : Option (String × Bytes) :=
  (fs.lookup sec.filePath).map fun f => (sec.name, f.bytes)

/-- `format!("{:#x}", n)`: `0x` and the lowercase hexadecimal digits. -/
def formatHex (n : UInt64) : String := "0x" ++ String.mk (Nat.toDigits 16 n.toNat)

/-- **`Section::to_objcopy`**: the `objcopy` arguments that add the section and move it. -/
def Section.toObjcopy (self : Section) : List String :=
  ["--add-section", self.name ++ "=" ++ String.mk self.filePath,
    "--change-section-vma", self.name ++ "=" ++ formatHex self.offset]

/-- `format!("{:?}", args)`: the arguments quoted, as a list. -/
def debugArgs (args : List String) : String :=
  "[" ++ ", ".intercalate (args.map fun a => "\"" ++ a ++ "\"") ++ "]"

/-- The number read so far, followed by one more lowercase hexadecimal digit. -/
def parseHexDigit (n : Nat) (d : Char) : Option Nat :=
  if d.isDigit then some (16 * n + (d.toNat - '0'.toNat))
  else if 'a' ≤ d ∧ d ≤ 'f' then some (16 * n + (d.toNat - 'a'.toNat + 10))
  else none

/-- The number a `0x`-prefixed hexadecimal argument names. -/
def parseHex (arg : List Char) : Option Nat :=
  match arg with
  | '0' :: 'x' :: digits => digits.foldlM parseHexDigit 0
  | _ => none

/-- An `objcopy` option's `NAME=VALUE`, split at its first `=`. -/
def splitEq (arg : String) : String × List Char :=
  (String.mk (arg.toList.takeWhile (· ≠ '=')), (arg.toList.dropWhile (· ≠ '=')).drop 1)

/-- The options `--add-section NAME=FILE` and `--change-section-vma NAME=VMA`, applied in turn:
an added section holds the bytes of its file, and cannot take a name the image has; a moved one
gets the address `VMA` less the image base. -/
def objcopyOptions (fs : HostFs) : List String → PE → Option PE
  | [], pe => some pe
  | "--add-section" :: spec :: rest, pe => do
    let (name, file) := splitEq spec
    let bytes ← (fs.lookup file).map HostFile.bytes
    if pe.sections.any (·.name = name) then none
    else objcopyOptions fs rest (pe.addSections [⟨name, bytes.length.toUInt32, 0, bytes⟩])
  | "--change-section-vma" :: spec :: rest, pe => do
    let (name, vma) := splitEq spec
    let vma ← parseHex vma
    let base := (pe.header.optionalHeader.map (·.windowsFields.imageBase.toNat)).getD 0
    objcopyOptions fs rest
      { pe with sections := pe.sections.map fun t =>
          if t.name = name then { t with virtualAddress := (vma - base).toUInt32 } else t }
  | _, _ => none

/-- **`objcopy OPTIONS INPUT OUTPUT`**: the file system with `OUTPUT` written, or nothing when
`objcopy` exits with a failure. -/
def objcopy (args : List String) (fs : HostFs) : Option HostFs :=
  match args.reverse with
  | output :: input :: options =>
    match fs.lookup input.toList with
    | some (.image pe) =>
      (objcopyOptions fs options.reverse pe).map fun pe =>
        fs.write output.toList (.image pe.written)
    | _ => none
  | _ => none

/-- **`wrap_in_pe`**: a kept temporary image, which `objcopy` writes from the stub and the
sections. -/
def wrapInPe (stub : List Char) (sections : List Section) : ToolM (List Char) := do
  let image ← writeToTmp []
  let args := sections.flatMap Section.toObjcopy ++ [String.mk stub, String.mk image]
  match objcopy args (← get) with
  | some fs => set fs; pure image
  | none => throw (.error ("Failed to wrap in pe with args `" ++ debugArgs args ++ "`"))

/-- Run a computation that can only panic. -/
def liftPanic {α : Type} : Except Panic α → ToolM α
  | .ok a => pure a
  | .error p => throw (.panic p)

/-- The sections `lanzaboote_image` adds, as it computes them before calling `wrap_in_pe`. -/
def lanzabooteSections (lanzabooteStub osRelease : List Char) (kernelCmdline : List (List Char))
    (kernelPath initrdPath esp : List Char) : ToolM (List Section) := do
  let kernelCmdlineFile ← writeToTmp (utf8Encode ([' '].intercalate kernelCmdline))
  let kernelPathFile ← writeToTmp (utf8Encode (← liftPanic (espRelativePathString esp kernelPath)))
  let initrdPathFile ← writeToTmp (utf8Encode (← liftPanic (espRelativePathString esp initrdPath)))
  let osReleaseOffs ← stubOffset lanzabooteStub
  let kernelCmdlineOffs := osReleaseOffs + (← fileSize osRelease).toUInt64
  let initrdPathOffs := kernelCmdlineOffs + (← fileSize kernelCmdlineFile).toUInt64
  let kernelPathOffs := initrdPathOffs + (← fileSize initrdPathFile).toUInt64
  pure [s ".osrel" osRelease osReleaseOffs, s ".cmdline" kernelCmdlineFile kernelCmdlineOffs,
    s ".initrdp" initrdPathFile initrdPathOffs, s ".kernelp" kernelPathFile kernelPathOffs]

/-- **`lanzaboote_image`**: the stub with the os-release, the command line and the ESP paths of
the initrd and the kernel added as sections; the path of the new image. -/
def lanzabooteImage (lanzabooteStub osRelease : List Char) (kernelCmdline : List (List Char))
    (kernelPath initrdPath esp : List Char) : ToolM (List Char) := do
  let sections ← lanzabooteSections lanzabooteStub osRelease kernelCmdline kernelPath initrdPath esp
  wrapInPe lanzabooteStub sections

/-- The single section `wrap_initrd` adds, as it computes it before calling `wrap_in_pe`. -/
def initrdSections (initrdStub initrd : List Char) : ToolM (List Section) := do
  let initrdOffs ← stubOffset initrdStub
  pure [s ".initrd" initrd initrdOffs]

/-- **`wrap_initrd`**: the initrd stub with the initrd added as its `.initrd` section. -/
def wrapInitrd (initrdStub initrd : List Char) : ToolM (List Char) := do
  let sections ← initrdSections initrdStub initrd
  wrapInPe initrdStub sections

end Lanzatool
