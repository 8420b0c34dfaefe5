import Lanzaboote.Embed

/-!
# The section table of the built image

`lzbt` plans an address for each section it adds (`Lanzaboote.Layout`), and `objcopy` moves each
to its address, less the image base (`Lanzatool.lanzabooteImage_written`). This module shows the
invariant the plan is made for: a stub whose sections are ascending and do not overlap gives an
image whose sections are ascending and do not overlap, for `lanzaboote_image`
(`Lanzatool.lanzabooteImage_sections_ascending`) and for `wrap_initrd`
(`Lanzatool.wrapInitrd_sections_ascending`), as long as nothing wraps: the new sections end below
4 GiB and their addresses stay below `2^64`.

BFD's PE writer then orders the sections by address and leaves out the empty ones. A table
already ascending is in that order, so the writer only drops sections from it, and what is left
is still ascending (`PE.written_chain'`).
-/

/-- **BFD keeps an ascending table ascending.** On a section table in which each section ends
before the next one starts, the writer sorts nothing and only leaves out the empty sections. -/
theorem PE.written_chain' {pe : PE}
    (h : pe.sections.Chain' fun a b => a.endAddress ≤ b.virtualAddress.toNat) :
    pe.written.sections.Chain' fun a b => a.endAddress ≤ b.virtualAddress.toNat := by
  have htrans : IsTrans SectionTable fun a b => a.endAddress ≤ b.virtualAddress.toNat :=
    ⟨fun _ _ _ hab hbc => by unfold SectionTable.endAddress at *; omega⟩
  have hpw := (List.chain'_iff_pairwise.mp h).filter fun t => !t.isEmpty
  have hsorted : (pe.sections.filter fun t => !t.isEmpty).Sorted SectionTable.StartsBefore :=
    hpw.imp fun hab => by
      unfold SectionTable.endAddress at hab
      unfold SectionTable.StartsBefore
      omega
  show ((pe.sections.filter _).insertionSort _).Chain' _
  rw [hsorted.insertionSort_eq]
  exact hpw.chain'

namespace Lanzatool

/-! ## The image keeps its sections apart -/

/-- A `u32` made of a number is the number modulo 4 GiB. -/
theorem Nat.toNat_toUInt32 (n : Nat) : n.toUInt32.toNat = n % 2 ^ 32 := rfl

/-- **`lanzaboote_image` keeps the section table ascending.** For a stub with an ascending
section table and an os-release file: when the four new sections end below 4 GiB and the image
base plus that end is below `2^64`, the image a successful run writes has an ascending section
table too. No two of its sections overlap: each new one starts where the one before it ends, the
first where the stub's last section ends. (A run on a stub that has one of the four names does
not succeed: `objcopy` refuses to add the section.) -/
theorem lanzabooteImage_sections_ascending {stub osr esp kp ip : List Char}
    {cmd : List (List Char)} {fs fs' : HostFs} {image : List Char} {pe : PE} {osrFile : HostFile}
    (hstub : fs.lookup stub = some (.image pe)) (hosr : fs.lookup osr = some osrFile)
    (hasc : pe.sections.Chain' fun a b => a.endAddress ≤ b.virtualAddress.toNat)
    (h : (lanzabooteImage stub osr cmd kp ip esp).run fs = .ok (image, fs')) :
    ∃ hdr last kpath ipath pe', pe.header.optionalHeader = some hdr ∧
      pe.sections.getLast? = some last ∧
      espRelativePathString esp kp = .ok kpath ∧ espRelativePathString esp ip = .ok ipath ∧
      fs'.lookup image = some (.image pe') ∧
      let l₀ := osrFile.bytes.length
      let l₁ := (utf8Encode ([' '].intercalate cmd)).length
      let l₂ := (utf8Encode ipath).length
      let l₃ := (utf8Encode kpath).length
      last.endAddress + l₀ + l₁ + l₂ + l₃ < 2 ^ 32 →
      hdr.windowsFields.imageBase.toNat + last.endAddress + l₀ + l₁ + l₂ + l₃ < 2 ^ 64 →
        pe'.sections.Chain' fun a b => a.endAddress ≤ b.virtualAddress.toNat := by
  obtain ⟨hdr, last, kpath, ipath, pe₀, hh, hl, hk, hi, -, himage, -, hsecs⟩ :=
    lanzabooteImage_written hstub hosr h
  refine ⟨hdr, last, kpath, ipath, pe₀.written, hh, hl, hk, hi, himage, ?_⟩
  dsimp only at hsecs ⊢
  intro hend hsum
  refine PE.written_chain' ?_
  have hexact := offsets_toNat_of_lt last hdr.windowsFields.imageBase osrFile.bytes.length
    (utf8Encode ([' '].intercalate cmd)).length (utf8Encode ipath).length (by omega) (by omega)
  simp only [List.map_cons, List.map_nil, List.cons.injEq, and_true] at hexact
  obtain ⟨ha, hb, hc, hd⟩ := hexact
  rw [hsecs]
  unfold SectionTable.endAddress at hend hsum
  -- with the addresses exact, each new section starts where the one before it ends
  refine List.chain'_append.mpr ⟨hasc, ?_, ?_⟩
  · simp (disch := omega) only [List.chain'_cons, List.chain'_singleton, and_true, addedTable,
      SectionTable.endAddress, Nat.toNat_toUInt32, ha, hb, hc, hd, Nat.add_assoc,
      Nat.add_sub_cancel_left, Nat.mod_eq_of_lt, le_refl, and_self]
  · simp (disch := omega) only [hl, Option.mem_def, Option.some.injEq, List.head?_cons,
      forall_eq', addedTable, SectionTable.endAddress, Nat.toNat_toUInt32, ha, Nat.add_assoc,
      Nat.add_sub_cancel_left, Nat.mod_eq_of_lt, le_refl]

theorem bootHost_sections_ascending :
    ∃ image fs', (lanzabooteImage "/stub.efi".toList "/os-release".toList ["quiet".toList]
        "/esp/EFI/k.efi".toList "/esp/EFI/i.efi".toList "/esp".toList).run bootHost =
        .ok (image, fs') ∧
      ∃ pe', fs'.lookup image = some (.image pe') ∧
        pe'.sections.Chain' fun a b => a.endAddress ≤ b.virtualAddress.toNat := by
  refine ⟨_, _, rfl, ?_⟩
  obtain ⟨hdr, last, kpath, ipath, pe', hh, hl, hk, hi, himage, himp⟩ :=
    @lanzabooteImage_sections_ascending "/stub.efi".toList "/os-release".toList "/esp".toList
      "/esp/EFI/k.efi".toList "/esp/EFI/i.efi".toList ["quiet".toList] bootHost _ _ bootStub
      (.data [73, 68]) rfl rfl (List.chain'_singleton _) rfl
  cases hh
  cases hl
  cases hk
  cases hi
  exact ⟨pe', himage, himp (by decide) (by decide)⟩

/-- **`wrap_initrd` keeps the section table ascending.** For an initrd stub with an ascending
section table and an initrd: when the initrd ends below 4 GiB and the image base plus the end of
the stub is below `2^64`, the image a successful run writes has an ascending section table too. -/
theorem wrapInitrd_sections_ascending {stub initrd : List Char} {fs fs' : HostFs}
    {image : List Char} {pe : PE} {initrdFile : HostFile}
    (hstub : fs.lookup stub = some (.image pe)) (hinitrd : fs.lookup initrd = some initrdFile)
    (hasc : pe.sections.Chain' fun a b => a.endAddress ≤ b.virtualAddress.toNat)
    (h : (wrapInitrd stub initrd).run fs = .ok (image, fs')) :
    ∃ hdr last pe', pe.header.optionalHeader = some hdr ∧ pe.sections.getLast? = some last ∧
      fs'.lookup image = some (.image pe') ∧
      (last.endAddress + initrdFile.bytes.length < 2 ^ 32 →
        hdr.windowsFields.imageBase.toNat + last.endAddress < 2 ^ 64 →
        pe'.sections.Chain' fun a b => a.endAddress ≤ b.virtualAddress.toNat) := by
  obtain ⟨hdr, last, pe₀, hh, hl, -, himage, -, hsecs⟩ := wrapInitrd_written hstub hinitrd h
  refine ⟨hdr, last, pe₀.written, hh, hl, himage, fun hend hsum => PE.written_chain' ?_⟩
  have ho : ((last.virtualSize + last.virtualAddress).toUInt64 +
      hdr.windowsFields.imageBase).toNat = hdr.windowsFields.imageBase.toNat + last.endAddress := by
    rw [UInt64.toNat_add_mod, stubEnd_toNat, Nat.mod_eq_of_lt (by omega), Nat.mod_eq_of_lt (by omega),
      Nat.add_comm]
  rw [hsecs]
  refine List.chain'_append.mpr ⟨hasc, List.chain'_singleton _, ?_⟩
  simp (disch := omega) only [hl, Option.mem_def, Option.some.injEq, List.head?_cons, forall_eq',
    addedTable, ho, Nat.toNat_toUInt32, Nat.add_sub_cancel_left, Nat.mod_eq_of_lt, le_refl]

theorem initrdHost_sections_ascending :
    ∃ image fs', (wrapInitrd "/stub.efi".toList "/initrd".toList).run initrdHost =
        .ok (image, fs') ∧
      ∃ pe', fs'.lookup image = some (.image pe') ∧
        pe'.sections.Chain' fun a b => a.endAddress ≤ b.virtualAddress.toNat := by
  refine ⟨_, _, rfl, ?_⟩
  obtain ⟨hdr, last, pe', hh, hl, himage, himp⟩ :=
    @wrapInitrd_sections_ascending "/stub.efi".toList "/initrd".toList initrdHost _ _ bootStub
      (.data [7, 8, 9]) rfl rfl (List.chain'_singleton _) rfl
  cases hh
  cases hl
  exact ⟨pe', himage, himp (by decide) (by decide)⟩

end Lanzatool
