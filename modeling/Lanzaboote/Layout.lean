import Lanzaboote.Tool
import Mathlib.Algebra.Order.BigOperators.Group.List
import Mathlib.Algebra.Order.Ring.Nat

/-!
# Where `lzbt` places the new sections

`lanzaboote_image` moves each section it adds to its own virtual address: the first where the
stub's last section ends (`stub_offset`), each next one where the previous one's content ends.
The addresses are machine integers. `stub_offset` adds the last section's `virtual_size` and
`virtual_address` as `u32` and only then widens the sum to `u64`: a stub whose last section ends
at or past 4 GiB gets its sum wrapped, and the first new section is planned at the image base
plus what is left, below the end of the stub's last section
(`Lanzatool.lanzabooteSections_wraps_section_end`). Everywhere
else the addresses are the exact sums, the new sections follow one another without overlap, and
they start past every section of the stub (`Lanzatool.lanzabooteSections_layout`).

The section plan is read off one spec lemma per operation of the tool, chained through the bind
lemma of the tool's monad (`ToolM.run_bind_eq_ok`).
-/

/-! ## Machine integers

The tool is built in release mode, where Rust does not check for overflow: `u32` and `u64`
additions wrap. -/

/-- A `u32` sum wraps at 4 GiB. -/
theorem UInt32.toNat_add_mod (x y : UInt32) : (x + y).toNat = (x.toNat + y.toNat) % 2 ^ 32 := rfl

/-- A `u64` sum wraps at `2^64`. -/
theorem UInt64.toNat_add_mod (x y : UInt64) : (x + y).toNat = (x.toNat + y.toNat) % 2 ^ 64 := rfl

/-- Widening a `u32` keeps its value. -/
theorem UInt32.toNat_toUInt64 (x : UInt32) : x.toUInt64.toNat = x.toNat := rfl

/-! ## The tool's operations, one spec lemma each -/

/-- A run of `x >>= f` succeeds exactly when `x` does and `f` does from where `x` left off. -/
@[simp] theorem ToolM.run_bind_eq_ok {α β : Type} {x : ToolM α} {f : α → ToolM β}
    {fs fs'' : HostFs} {b : β} :
    (x >>= f).run fs = .ok (b, fs'') ↔
      ∃ a fs', x.run fs = .ok (a, fs') ∧ (f a).run fs' = .ok (b, fs'') := by
  simp only [StateT.run_bind, Except.bind_eq_ok, Prod.exists]

/-- `pure` returns its value and leaves the host as it was. -/
@[simp] theorem ToolM.run_pure_eq_ok {α : Type} {a b : α} {fs fs' : HostFs} :
    (pure a : ToolM α).run fs = .ok (b, fs') ↔ b = a ∧ fs' = fs := by
  show Except.ok (a, fs) = _ ↔ _
  simp [eq_comm]

namespace HostFs

/-- A path found in the host has one of the lengths of its paths. -/
theorem length_mem_of_lookup {files : List (List Char × HostFile)} {path : List Char}
    {file : HostFile} (h : files.lookup path = some file) :
    path.length ∈ files.map (·.1.length) := by
  induction files with
  | nil => cases h
  | cons e files ih =>
    obtain ⟨k, b⟩ := e
    by_cases he : path = k
    · rw [List.map_cons, he]; exact List.mem_cons_self _ _
    · rw [List.lookup_cons, beq_false_of_ne he] at h
      exact List.mem_cons_of_mem _ (ih h)

/-- **A temporary file's name is fresh**: it is longer than every path there is. -/
theorem length_lt_freshPath {fs : HostFs} {path : List Char} {file : HostFile}
    (h : fs.lookup path = some file) : path.length < fs.freshPath.length := by
  have := List.le_sum_of_mem (length_mem_of_lookup h)
  rw [freshPath, List.length_append, List.length_replicate]
  exact Nat.lt_of_le_of_lt this (Nat.lt_add_of_pos_left (by decide))

/-- A path that holds a file is not the next temporary path. -/
theorem freshPath_ne {fs : HostFs} {path : List Char} {file : HostFile}
    (h : fs.lookup path = some file) : path ≠ fs.freshPath :=
  fun he => absurd (he ▸ length_lt_freshPath h) (lt_irrefl _)

/-- Writing a temporary file leaves every file there was. -/
theorem lookup_write_freshPath {fs : HostFs} {path : List Char} {file : HostFile}
    (h : fs.lookup path = some file) (new : HostFile) :
    (fs.write fs.freshPath new).lookup path = some file := by
  rw [lookup_write, if_neg (freshPath_ne h), h]

end HostFs

/-- `get` returns the host and leaves it as it was. -/
@[simp] theorem ToolM.run_get_eq_ok {a fs fs' : HostFs} :
    (get : ToolM HostFs).run fs = .ok (a, fs') ↔ a = fs ∧ fs' = fs := by
  show Except.ok (fs, fs) = _ ↔ _
  simp [eq_comm]

/-- An error stops the tool. -/
@[simp] theorem ToolM.run_throw {α : Type} (e : ToolError) (fs : HostFs) :
    (throw e : ToolM α).run fs = .error e := rfl

namespace Lanzatool

/-- `write_to_tmp` writes the bytes to the next temporary path and returns that path. -/
@[simp] theorem writeToTmp_run (contents : Bytes) (fs : HostFs) :
    (writeToTmp contents).run fs = .ok (fs.freshPath, fs.write fs.freshPath (.data contents)) :=
  rfl

/-- `write_to_tmp` succeeds, with a fresh path holding the contents. -/
theorem writeToTmp_run_eq_ok {contents : Bytes} {fs fs' : HostFs} {path : List Char} :
    (writeToTmp contents).run fs = .ok (path, fs') ↔
      path = fs.freshPath ∧ fs' = fs.write fs.freshPath (.data contents) :=
  ⟨fun h => (by cases h; exact ⟨rfl, rfl⟩), fun ⟨h, h'⟩ => (by subst h h'; rfl)⟩

/-- `file_size` succeeds on the files there are, with their size, and changes nothing. -/
theorem fileSize_run_eq_ok {path : List Char} {fs fs' : HostFs} {n : Nat} :
    (fileSize path).run fs = .ok (n, fs') ↔
      ∃ file, fs.lookup path = some file ∧ file.bytes.length = n ∧ fs = fs' := by
  cases h : fs.lookup path <;> simp [fileSize, h]

/-- `stub_offset` succeeds on a PE binary with an optional header and a section, with the end of
its last section, summed as `u32`, widened and moved by the image base. -/
theorem stubOffset_run_eq_ok {binary : List Char} {fs fs' : HostFs} {o : UInt64} :
    (stubOffset binary).run fs = .ok (o, fs') ↔
      ∃ pe hdr last, fs.lookup binary = some (.image pe) ∧ pe.header.optionalHeader = some hdr ∧
        pe.sections.getLast? = some last ∧
        (last.virtualSize + last.virtualAddress).toUInt64 + hdr.windowsFields.imageBase = o ∧
        fs = fs' := by
  unfold stubOffset readPe imageBase
  cases h : fs.lookup binary with
  | none => simp [h]
  | some file =>
    cases file with
    | data => simp [h]
    | image pe =>
      cases hh : pe.header.optionalHeader with
      | none => simp [h, hh]
      | some hdr =>
        cases hl : pe.sections.getLast? with
        | none => simp [h, hh, hl]
        | some last => simp [h, hh, hl, and_assoc]


/-- A `?` or `expect` of the tool returns exactly on an `Ok`, and leaves the host as it was. -/
@[simp] theorem liftPanic_run_eq_ok {α : Type} {x : Except Panic α} {fs fs' : HostFs} {a : α} :
    (liftPanic x).run fs = .ok (a, fs') ↔ x = .ok a ∧ fs = fs' := by
  cases x <;> simp [liftPanic]


/-- **The section plan of `lanzaboote_image`**, for a stub and an os-release file that exist:
the four sections in their order, the first at the end of the stub's last section and each next
one moved by the size of the content before it, in `u64` arithmetic. -/
theorem lanzabooteSections_plan {stub osr esp kp ip : List Char} {cmd : List (List Char)}
    {fs fs' : HostFs} {secs : List Section} {pe : PE} {osrFile : HostFile}
    (hstub : fs.lookup stub = some (.image pe)) (hosr : fs.lookup osr = some osrFile)
    (h : (lanzabooteSections stub osr cmd kp ip esp).run fs = .ok (secs, fs')) :
    ∃ hdr last kpath ipath, pe.header.optionalHeader = some hdr ∧
      pe.sections.getLast? = some last ∧
      espRelativePathString esp kp = .ok kpath ∧ espRelativePathString esp ip = .ok ipath ∧
      secs.map (·.name) = [".osrel", ".cmdline", ".initrdp", ".kernelp"] ∧
      let o₀ := (last.virtualSize + last.virtualAddress).toUInt64 + hdr.windowsFields.imageBase
      let o₁ := o₀ + osrFile.bytes.length.toUInt64
      let o₂ := o₁ + (utf8Encode ([' '].intercalate cmd)).length.toUInt64
      secs.map (·.offset) = [o₀, o₁, o₂, o₂ + (utf8Encode ipath).length.toUInt64] ∧
      secs.map (Section.contents fs') = [some (".osrel", osrFile.bytes),
        some (".cmdline", utf8Encode ([' '].intercalate cmd)), some (".initrdp", utf8Encode ipath),
        some (".kernelp", utf8Encode kpath)] ∧
      ∀ p f, fs.lookup p = some f → fs'.lookup p = some f := by
  simp only [lanzabooteSections, ToolM.run_bind_eq_ok, writeToTmp_run_eq_ok, liftPanic_run_eq_ok,
    stubOffset_run_eq_ok, fileSize_run_eq_ok, ToolM.run_pure_eq_ok] at h
  -- one step of the plan a line: taken apart at once, the nested pattern is slow
  obtain ⟨_, fs₁, ⟨rfl, hfs₁⟩, h⟩ := h
  obtain ⟨kpath, _, ⟨hk, rfl⟩, h⟩ := h
  obtain ⟨_, fs₃, ⟨rfl, hfs₃⟩, h⟩ := h
  obtain ⟨ipath, _, ⟨hi, rfl⟩, h⟩ := h
  obtain ⟨_, _, ⟨rfl, hfs₅⟩, h⟩ := h
  obtain ⟨_, _, ⟨pe', hdr, last, hstub', hh, hl, rfl, rfl⟩, h⟩ := h
  obtain ⟨_, _, ⟨f₀, hf₀, rfl, rfl⟩, h⟩ := h
  obtain ⟨_, _, ⟨f₁, hf₁, rfl, rfl⟩, h⟩ := h
  obtain ⟨_, _, ⟨f₂, hf₂, rfl, rfl⟩, rfl, rfl⟩ := h
  -- each temporary file holds what was written to it, and every file there was outlives it
  have keep₁ : ∀ {p f}, fs.lookup p = some f → fs₁.lookup p = some f := fun hp => by
    rw [hfs₁]; exact HostFs.lookup_write_freshPath hp _
  have keep₃ : ∀ {p f}, fs₁.lookup p = some f → fs₃.lookup p = some f := fun hp => by
    rw [hfs₃]; exact HostFs.lookup_write_freshPath hp _
  have keep₅ : ∀ {p f}, fs₃.lookup p = some f → fs'.lookup p = some f := fun hp => by
    rw [hfs₅]; exact HostFs.lookup_write_freshPath hp _
  have hcmd := keep₅ (keep₃ (hfs₁ ▸ HostFs.lookup_write_self _ _ _))
  have hkp := keep₅ (hfs₃ ▸ HostFs.lookup_write_self _ _ _)
  have hip : fs'.lookup fs₃.freshPath = some (.data (utf8Encode ipath)) := by
    rw [hfs₅, HostFs.lookup_write_self]
  have hosr' := keep₅ (keep₃ (keep₁ hosr))
  rw [keep₅ (keep₃ (keep₁ hstub)), Option.some.injEq, HostFile.image.injEq] at hstub'
  rw [hosr', Option.some.injEq] at hf₀
  rw [hcmd, Option.some.injEq] at hf₁
  rw [hip, Option.some.injEq] at hf₂
  subst hstub' hf₀ hf₁ hf₂
  refine ⟨hdr, last, kpath, ipath, hh, hl, hk, hi, rfl, rfl, ?_,
    fun _ _ hp => keep₅ (keep₃ (keep₁ hp))⟩
  simp only [List.map_cons, List.map_nil, Section.contents, s, hosr', hcmd, hkp, hip,
    Option.map_some']
  rfl

end Lanzatool

/-- Where a section ends, relative to the image base, as an exact sum. -/
def SectionTable.endAddress (t : SectionTable) : Nat :=
  t.virtualAddress.toNat + t.virtualSize.toNat

/-- **In an ascending section table the last section ends last.** -/
theorem endAddress_le_last {ts : List SectionTable} {last : SectionTable}
    (hasc : ts.Chain' fun a b => a.endAddress ≤ b.virtualAddress.toNat)
    (hl : ts.getLast? = some last) : ∀ t ∈ ts, t.endAddress ≤ last.endAddress := by
  induction ts with
  | nil => cases hl
  | cons a ts ih =>
    intro t ht
    cases ts with
    | nil =>
      simp only [List.getLast?_singleton, Option.some.injEq, List.mem_singleton] at hl ht
      rw [ht, hl]
    | cons b ts =>
      have hab := (List.chain'_cons.mp hasc).1
      have hrest := ih (List.chain'_cons.mp hasc).2 (by simpa using hl)
      rcases List.mem_cons.mp ht with rfl | ht
      · have := hrest b (List.mem_cons_self _ _)
        unfold SectionTable.endAddress at *
        omega
      · exact hrest t ht

namespace Lanzatool

/-- The end of the last section, summed as `u32` and widened: the exact end, less 4 GiB when the
sum passes it. -/
theorem stubEnd_toNat (t : SectionTable) :
    (t.virtualSize + t.virtualAddress).toUInt64.toNat = t.endAddress % 2 ^ 32 := by
  rw [UInt32.toNat_toUInt64, UInt32.toNat_add_mod, SectionTable.endAddress, Nat.add_comm]

/-- **Without a wrap the planned addresses are the exact sums**: when the stub's last section
ends below 4 GiB and the image base, that end and the contents before the last new section sum
below `2^64`. -/
theorem offsets_toNat_of_lt (last : SectionTable) (base : UInt64) (l₀ l₁ l₂ : Nat)
    (hlast : last.endAddress < 2 ^ 32)
    (hsum : base.toNat + last.endAddress + l₀ + l₁ + l₂ < 2 ^ 64) :
    let o₀ := (last.virtualSize + last.virtualAddress).toUInt64 + base
    let o₁ := o₀ + l₀.toUInt64
    let o₂ := o₁ + l₁.toUInt64
    [o₀, o₁, o₂, o₂ + l₂.toUInt64].map UInt64.toNat = [base.toNat + last.endAddress,
      base.toNat + last.endAddress + l₀, base.toNat + last.endAddress + l₀ + l₁,
      base.toNat + last.endAddress + l₀ + l₁ + l₂] := by
  have hto : ∀ n : Nat, n.toUInt64.toNat = n % 2 ^ 64 := fun _ => rfl
  simp only [List.map_cons, List.map_nil, UInt64.toNat_add_mod, stubEnd_toNat,
    Nat.mod_eq_of_lt hlast, hto, List.cons.injEq, and_true]
  omega


/-- A stub with one `.text` section, as the stub's own build makes it: no configuration. -/
def bootStub : PE := ⟨⟨some ⟨⟨0x140000000⟩⟩⟩, [⟨".text", 0x2000, 0x1000, [1, 2]⟩]⟩

/-- A build host with `bootStub` and a two-byte os-release file. -/
def bootHost : HostFs :=
  ⟨[("/stub.efi".toList, .image bootStub), ("/os-release".toList, .data [73, 68])]⟩

/-- **Without a wrap the new sections follow the stub's.** For a stub with an ascending section
table, an os-release file, a command line and ESP paths, `lanzaboote_image` plans `.osrel`,
`.cmdline`, `.initrdp` and `.kernelp` in this order, holding the os-release file, the command line
joined by spaces and the two ESP paths. When the stub's last section ends below 4 GiB and the
image base, that end and the four contents sum below `2^64`, each planned address is the exact
sum, the first at the image base plus the end of the last section and each next one past the
content before it. So the new sections neither overlap one another nor start below the end of a
section of the stub. -/
theorem lanzabooteSections_layout {stub osr esp kp ip : List Char} {cmd : List (List Char)}
    {fs fs' : HostFs} {secs : List Section} {pe : PE} {osrFile : HostFile}
    (hstub : fs.lookup stub = some (.image pe)) (hosr : fs.lookup osr = some osrFile)
    (hasc : pe.sections.Chain' fun a b => a.endAddress ≤ b.virtualAddress.toNat)
    (h : (lanzabooteSections stub osr cmd kp ip esp).run fs = .ok (secs, fs')) :
    ∃ hdr last kpath ipath, pe.header.optionalHeader = some hdr ∧
      pe.sections.getLast? = some last ∧
      espRelativePathString esp kp = .ok kpath ∧ espRelativePathString esp ip = .ok ipath ∧
      secs.map (·.name) = [".osrel", ".cmdline", ".initrdp", ".kernelp"] ∧
      secs.map (Section.contents fs') = [some (".osrel", osrFile.bytes),
        some (".cmdline", utf8Encode ([' '].intercalate cmd)), some (".initrdp", utf8Encode ipath),
        some (".kernelp", utf8Encode kpath)] ∧
      let l₀ := osrFile.bytes.length
      let l₁ := (utf8Encode ([' '].intercalate cmd)).length
      let l₂ := (utf8Encode ipath).length
      let l₃ := (utf8Encode kpath).length
      let e := hdr.windowsFields.imageBase.toNat + last.endAddress
      last.endAddress < 2 ^ 32 → e + l₀ + l₁ + l₂ + l₃ < 2 ^ 64 →
        secs.map (·.offset.toNat) = [e, e + l₀, e + l₀ + l₁, e + l₀ + l₁ + l₂] ∧
        ((secs.map (·.offset.toNat)).zip [l₀, l₁, l₂, l₃]).Pairwise
          (fun a b => a.1 + a.2 ≤ b.1) ∧
        ∀ t ∈ pe.sections, hdr.windowsFields.imageBase.toNat + t.endAddress ≤ e := by
  obtain ⟨hdr, last, kpath, ipath, hh, hl, hk, hi, hnames, hoffs, hcont, -⟩ :=
    lanzabooteSections_plan hstub hosr h
  refine ⟨hdr, last, kpath, ipath, hh, hl, hk, hi, hnames, hcont, ?_⟩
  intro l₀ l₁ l₂ l₃ e hlast hsum
  have hexact : secs.map (·.offset.toNat) = [e, e + l₀, e + l₀ + l₁, e + l₀ + l₁ + l₂] := by
    rw [show secs.map (·.offset.toNat) = (secs.map (·.offset)).map UInt64.toNat from
      (List.map_map UInt64.toNat _ _).symm, hoffs]
    exact offsets_toNat_of_lt last _ l₀ l₁ l₂ hlast (by omega)
  refine ⟨hexact, ?_, fun t ht => ?_⟩
  · rw [hexact]
    simp only [List.zip_cons_cons, List.zip_nil_right, List.pairwise_cons, List.mem_cons,
      List.mem_singleton, forall_eq_or_imp, forall_eq, List.not_mem_nil, false_implies,
      implies_true, List.Pairwise.nil, and_true]
    omega
  · have := endAddress_le_last hasc hl t ht
    simp only [e]
    omega

theorem bootHost_layout :
    ∃ secs fs', (lanzabooteSections "/stub.efi".toList "/os-release".toList ["quiet".toList]
        "/esp/EFI/k.efi".toList "/esp/EFI/i.efi".toList "/esp".toList).run bootHost =
        .ok (secs, fs') ∧
      secs.map (·.name) = [".osrel", ".cmdline", ".initrdp", ".kernelp"] ∧
      secs.map (·.offset.toNat) = [0x140003000, 0x140003002, 0x140003007, 0x140003011] := by
  refine ⟨_, _, rfl, ?_⟩
  obtain ⟨hdr, last, kpath, ipath, hh, hl, hk, hi, hnames, -, himp⟩ :=
    @lanzabooteSections_layout "/stub.efi".toList "/os-release".toList "/esp".toList
      "/esp/EFI/k.efi".toList "/esp/EFI/i.efi".toList ["quiet".toList] bootHost _ _ bootStub
      (.data [73, 68]) rfl rfl (List.chain'_singleton _) rfl
  cases hh
  cases hl
  cases hk
  cases hi
  exact ⟨hnames, (himp (by decide) (by decide)).1⟩


/-- A stub whose only section reaches past 4 GiB: it starts at `0xFFFFF000` and is `0x2000`
bytes long, at the image base `0x140000000`. -/
def wrapStub : PE := ⟨⟨some ⟨⟨0x140000000⟩⟩⟩, [⟨".text", 0x2000, 0xFFFFF000, [1, 2]⟩]⟩

/-- A build host with `wrapStub` and a three-byte os-release file. -/
def wrapHost : HostFs :=
  ⟨[("/stub.efi".toList, .image wrapStub), ("/os-release".toList, .data [65, 66, 67])]⟩

/-- **The new sections start below the end of the stub's section.** With `wrapStub` the stub's
section ends at `0x240001000`, but `stub_offset` wraps its `u32` sum to `0x1000`:
`lanzaboote_image` plans the os-release at `0x140001000` and the next sections right after it,
and `wrap_initrd` plans the initrd there too, all below the end of the stub's section. -/
theorem lanzabooteSections_wraps_section_end :
    wrapStub.sections.map (0x140000000 + ·.endAddress) = [0x240001000] ∧
      ((lanzabooteSections "/stub.efi".toList "/os-release".toList ["quiet".toList]
          "/esp/EFI/k.efi".toList "/esp/EFI/i.efi".toList "/esp".toList).run' wrapHost).map
          (·.map (·.offset.toNat)) = .ok [0x140001000, 0x140001003, 0x140001008, 0x140001012] ∧
      ((initrdSections "/stub.efi".toList "/initrd".toList).run' wrapHost).map
          (·.map (·.offset.toNat)) = .ok [0x140001000] := by
  decide

/-- `wrap_initrd`'s plan: one `.initrd` section at the end of the stub's last section. -/
theorem initrdSections_run_eq_ok {stub initrd : List Char} {fs fs' : HostFs}
    {secs : List Section} :
    (initrdSections stub initrd).run fs = .ok (secs, fs') ↔
      ∃ o, (stubOffset stub).run fs = .ok (o, fs') ∧ secs = [s ".initrd" initrd o] := by
  simp only [initrdSections, ToolM.run_bind_eq_ok, ToolM.run_pure_eq_ok]
  constructor
  · rintro ⟨o, _, h, rfl, rfl⟩
    exact ⟨o, h, rfl⟩
  · rintro ⟨o, h, rfl⟩
    exact ⟨o, fs', h, rfl, rfl⟩

/-- **Without a wrap the initrd follows the stub.** For a stub with an ascending section table,
`wrap_initrd` plans one section, `.initrd`, from the initrd's file. When the stub's last section
ends below 4 GiB, with the image base below `2^64`, it plans it at the image base plus that end,
at or past the end of every section of the stub. -/
theorem initrdSections_layout {stub initrd : List Char} {fs fs' : HostFs} {secs : List Section}
    {pe : PE} (hstub : fs.lookup stub = some (.image pe))
    (hasc : pe.sections.Chain' fun a b => a.endAddress ≤ b.virtualAddress.toNat)
    (h : (initrdSections stub initrd).run fs = .ok (secs, fs')) :
    ∃ hdr last, pe.header.optionalHeader = some hdr ∧ pe.sections.getLast? = some last ∧
      secs.map (fun sec => (sec.name, sec.filePath)) = [(".initrd", initrd)] ∧
      let e := hdr.windowsFields.imageBase.toNat + last.endAddress
      last.endAddress < 2 ^ 32 → e < 2 ^ 64 →
        secs.map (·.offset.toNat) = [e] ∧
        ∀ t ∈ pe.sections, hdr.windowsFields.imageBase.toNat + t.endAddress ≤ e := by
  obtain ⟨o, ho, rfl⟩ := initrdSections_run_eq_ok.mp h
  obtain ⟨pe', hdr, last, hstub', hh, hl, rfl, -⟩ := stubOffset_run_eq_ok.mp ho
  rw [hstub, Option.some.injEq, HostFile.image.injEq] at hstub'
  subst hstub'
  refine ⟨hdr, last, hh, hl, rfl, fun hlast he => ⟨?_, fun t ht => ?_⟩⟩
  · simp only [List.map_cons, List.map_nil, s, UInt64.toNat_add_mod, stubEnd_toNat,
      List.cons.injEq, and_true]
    omega
  · have := endAddress_le_last hasc hl t ht
    omega

theorem bootHost_initrd_layout :
    ∃ secs fs', (initrdSections "/stub.efi".toList "/initrd".toList).run bootHost =
        .ok (secs, fs') ∧
      secs.map (fun sec => (sec.name, sec.filePath)) = [(".initrd", "/initrd".toList)] ∧
      secs.map (·.offset.toNat) = [0x140003000] := by
  refine ⟨_, _, rfl, ?_⟩
  obtain ⟨hdr, last, hh, hl, hfile, himp⟩ := @initrdSections_layout "/stub.efi".toList "/initrd".toList
    bootHost _ _ bootStub rfl (List.chain'_singleton _) rfl
  cases hh
  cases hl
  exact ⟨hfile, (himp (by decide) (by decide)).1⟩

end Lanzatool
