import Lanzaboote.Objcopy
import Lanzaboote.Config
import Lanzaboote.Utf8

/-!
# From `lzbt` to the stub: what the built image holds

`lanzaboote_image` writes the boot configuration into a copy of the stub, and at boot the stub
reads its configuration back out of its own image (`EmbeddedConfiguration::new`). This module
follows the bytes from one to the other.

`objcopy` adds each planned section under a name the stub does not have
(`Lanzatool.lanzabooteImage_written`). So in the image it writes, each of the four names
`.osrel`, `.cmdline`, `.initrdp` and `.kernelp` is held by the one section added under it, unless
that section is empty and BFD's PE writer left it out, and any other name by the stub's sections
alone (`Lanzatool.lanzabooteImage_peSection`). From there:

- the ESP paths of the kernel and the initrd are never empty and are read back exactly by
  `pe_section_as_string`; the command line joined by spaces is read back when it is not empty,
  and has no section when it is. `extract_string` gives each text in UCS-2 when
  `CString16::try_from` keeps it, and `INVALID_PARAMETER` otherwise, also for the missing
  `.cmdline` of an empty command line (`Lanzatool.lanzabooteImage_extractString`);
- but no section holds a digest. `EmbeddedConfiguration::new` also requires `.kernelh` and
  `.initrdh`, which `lanzaboote_image` never adds, so on the image built from any stub without
  them the configuration is `INVALID_PARAMETER` (`Lanzatool.lanzabooteImage_new_fails`), and `main`
  panics on it.

In the same way `wrap_initrd` builds the initrd stub with the initrd's bytes as its `.initrd`
section, among the stub's sections in the order of their addresses, and with no `.initrd` at all
for an empty initrd (`Lanzatool.wrapInitrd_contents`).
-/

/-! ## Sections of a name -/

/-- `pe_section` finds nothing exactly when no section has the name. -/
theorem peSection_eq_none_iff {pe : PE} {n : String} :
    peSection pe n = none ↔ ∀ t ∈ pe.sections, t.name ≠ n := by
  rw [peSection_eq_filter, Option.map_eq_none', List.head?_eq_none_iff, List.filter_eq_nil_iff]
  simp only [decide_eq_true_eq]

/-- In the image `objcopy` writes, a name no section had is not found. -/
theorem peSection_written_eq_none {pe : PE} {n : String} (h : ∀ t ∈ pe.sections, t.name ≠ n) :
    peSection pe.written n = none :=
  peSection_written_of_nil (List.filter_eq_nil_iff.mpr fun t ht => by simpa using h t ht)

/-- In the image `objcopy` writes, a name that only one added section has is read as that
section's bytes, unless they are empty and the section was left out. -/
theorem peSection_written_of_added {pe : PE} {ts added : List SectionTable} {n : String}
    {bytes : Bytes} {vma : UInt64} {base : Nat} (hsec : pe.sections = ts ++ added)
    (hfresh : ∀ t ∈ ts, t.name ≠ n)
    (hadded : added.filter (·.name = n) = [Lanzatool.addedTable n bytes vma base]) :
    peSection pe.written n = if bytes = [] then none else some bytes := by
  have hnil : ts.filter (·.name = n) = [] :=
    List.filter_eq_nil_iff.mpr fun t ht => by simpa using hfresh t ht
  rw [peSection_written_of_singleton (by rw [hsec, List.filter_append, hnil, hadded, List.nil_append]),
    Lanzatool.addedTable_isEmpty]
  simp only [List.isEmpty_iff]
  rfl

/-- A section holding a text's UTF-8 is read back as that text. -/
theorem peSectionAsString_of_utf8Encode {d : PE} {n : String} {s : List Char}
    (h : peSection d n = some (utf8Encode s)) : peSectionAsString d n = some s := by
  rw [peSectionAsString, h, Option.some_bind, fromUtf8_utf8Encode]

/-- A section that holds a text's UTF-8 unless the text is empty, and is missing then, is read
back as the text, or not at all. -/
theorem peSectionAsString_of_text {d : PE} {n : String} {s : List Char}
    (h : peSection d n = if s = [] then none else some (utf8Encode s)) :
    peSectionAsString d n = if s = [] then none else some s := by
  split_ifs at h ⊢
  · rw [peSectionAsString, h, Option.none_bind]
  · exact peSectionAsString_of_utf8Encode h

/-- `extract_string` of such a section: the text in UCS-2 when `CString16::try_from` keeps it,
and `INVALID_PARAMETER` when it does not or when the section is missing. -/
theorem extractString_of_text {d : PE} {n : String} {s : List Char}
    (h : peSectionAsString d n = if s = [] then none else some s) :
    extractString d n = if s = [] then .error .invalidParameter
      else (CString16.tryFrom s).okOr .invalidParameter := by
  split_ifs at h ⊢
  · simp only [extractString, h, Option.okOr_none]
    rfl
  · exact extractString_of_peSectionAsString h

namespace Lanzatool

/-! ## The built image -/

/-- **What the stub finds in the built image.** For a stub and an os-release file that exist, in
the image a successful `lanzaboote_image` writes, `.kernelp` and `.initrdp` hold the UTF-8 of the
ESP paths of the kernel and the initrd, `.cmdline` the UTF-8 of the command line joined by spaces
when that is not empty and nothing when it is, and a name of none of the four new sections is
missing when the stub lacks it. -/
theorem lanzabooteImage_peSection {stub osr esp kp ip : List Char} {cmd : List (List Char)}
    {fs fs' : HostFs} {image : List Char} {pe : PE} {osrFile : HostFile}
    (hstub : fs.lookup stub = some (.image pe)) (hosr : fs.lookup osr = some osrFile)
    (h : (lanzabooteImage stub osr cmd kp ip esp).run fs = .ok (image, fs')) :
    ∃ kpath ipath pe', espRelativePathString esp kp = .ok kpath ∧
      espRelativePathString esp ip = .ok ipath ∧ fs'.lookup image = some (.image pe') ∧
      peSection pe' ".kernelp" = some (utf8Encode kpath) ∧
      peSection pe' ".initrdp" = some (utf8Encode ipath) ∧
      peSection pe' ".cmdline" = (if [' '].intercalate cmd = [] then none
        else some (utf8Encode ([' '].intercalate cmd))) ∧
      ∀ n, n ∉ [".osrel", ".cmdline", ".initrdp", ".kernelp"] → peSection pe n = none →
        peSection pe' n = none := by
  obtain ⟨_, _, kpath, ipath, pe₀, -, -, hk, hi, hfresh, himage, -, hsecs⟩ :=
    lanzabooteImage_written hstub hosr h
  have hnew : ∀ n ∈ [".osrel", ".cmdline", ".initrdp", ".kernelp"], ∀ t ∈ pe.sections,
      t.name ≠ n := fun n hn t ht he => hfresh t ht (he ▸ hn)
  have hpath : ∀ {p : List Char}, espRelativePathString esp kp = .ok p ∨
      espRelativePathString esp ip = .ok p → utf8Encode p ≠ [] := fun hp =>
    utf8Encode_eq_nil_iff.not.mpr
      (hp.elim espRelativePathString_ne_nil espRelativePathString_ne_nil)
  refine ⟨kpath, ipath, pe₀.written, hk, hi, himage, ?_, ?_, ?_, fun n hn hnone => ?_⟩
  case refine_1 =>
    rw [peSection_written_of_added hsecs (hnew ".kernelp" (by simp)) rfl,
      if_neg (hpath (.inl hk))]
  case refine_2 =>
    rw [peSection_written_of_added hsecs (hnew ".initrdp" (by simp)) rfl,
      if_neg (hpath (.inr hi))]
  case refine_3 =>
    rw [peSection_written_of_added hsecs (hnew ".cmdline" (by simp)) rfl]
    simp only [utf8Encode_eq_nil_iff]
  -- a name none of the added sections has: only the stub's sections could hold it
  refine peSection_written_eq_none fun t ht he => ?_
  rw [hsecs, List.mem_append] at ht
  rcases ht with ht | ht
  · exact peSection_eq_none_iff.mp hnone t ht he
  · exact hn (he ▸ List.mem_map_of_mem (·.name) ht)

/-- **The texts come back.** On the image that `lanzaboote_image` builds from a stub,
`pe_section_as_string` reads back the ESP paths of the kernel and the initrd exactly, and the
command line joined by spaces when it is not empty; `extract_string` gives each in UCS-2 when
`CString16::try_from` keeps it (no NUL, nothing outside the Basic Multilingual Plane), and
`INVALID_PARAMETER` otherwise and for an empty command line, whose section `objcopy` left out. -/
theorem lanzabooteImage_extractString {stub osr esp kp ip : List Char} {cmd : List (List Char)}
    {fs fs' : HostFs} {image : List Char} {pe : PE} {osrFile : HostFile}
    (hstub : fs.lookup stub = some (.image pe)) (hosr : fs.lookup osr = some osrFile)
    (h : (lanzabooteImage stub osr cmd kp ip esp).run fs = .ok (image, fs')) :
    ∃ kpath ipath pe', espRelativePathString esp kp = .ok kpath ∧
      espRelativePathString esp ip = .ok ipath ∧ fs'.lookup image = some (.image pe') ∧
      peSectionAsString pe' ".kernelp" = some kpath ∧
      peSectionAsString pe' ".initrdp" = some ipath ∧
      peSectionAsString pe' ".cmdline" =
        (if [' '].intercalate cmd = [] then none else some ([' '].intercalate cmd)) ∧
      extractString pe' ".kernelp" = (CString16.tryFrom kpath).okOr .invalidParameter ∧
      extractString pe' ".initrdp" = (CString16.tryFrom ipath).okOr .invalidParameter ∧
      extractString pe' ".cmdline" = (if [' '].intercalate cmd = [] then .error .invalidParameter
        else (CString16.tryFrom ([' '].intercalate cmd)).okOr .invalidParameter) := by
  obtain ⟨kpath, ipath, pe', hk, hi, himage, hkp, hip, hcmd, -⟩ :=
    lanzabooteImage_peSection hstub hosr h
  have hkp := peSectionAsString_of_utf8Encode hkp
  have hip := peSectionAsString_of_utf8Encode hip
  have hcmd := peSectionAsString_of_text hcmd
  exact ⟨kpath, ipath, pe', hk, hi, himage, hkp, hip, hcmd,
    extractString_of_peSectionAsString hkp, extractString_of_peSectionAsString hip,
    extractString_of_text hcmd⟩

theorem bootHost_extractString :
    ∃ image fs', (lanzabooteImage "/stub.efi".toList "/os-release".toList ["quiet".toList]
        "/esp/EFI/k.efi".toList "/esp/EFI/i.efi".toList "/esp".toList).run bootHost =
        .ok (image, fs') ∧
      ∃ kpath ipath pe', espRelativePathString "/esp".toList "/esp/EFI/k.efi".toList = .ok kpath ∧
        espRelativePathString "/esp".toList "/esp/EFI/i.efi".toList = .ok ipath ∧
        fs'.lookup image = some (.image pe') ∧
        peSectionAsString pe' ".kernelp" = some kpath ∧
        peSectionAsString pe' ".initrdp" = some ipath ∧
        peSectionAsString pe' ".cmdline" = (if [' '].intercalate ["quiet".toList] = [] then none
          else some ([' '].intercalate ["quiet".toList])) ∧
        extractString pe' ".kernelp" = (CString16.tryFrom kpath).okOr .invalidParameter ∧
        extractString pe' ".initrdp" = (CString16.tryFrom ipath).okOr .invalidParameter ∧
        extractString pe' ".cmdline" = (if [' '].intercalate ["quiet".toList] = []
          then .error .invalidParameter
          else (CString16.tryFrom ([' '].intercalate ["quiet".toList])).okOr .invalidParameter) :=
  ⟨_, _, rfl, @lanzabooteImage_extractString "/stub.efi".toList "/os-release".toList "/esp".toList
    "/esp/EFI/k.efi".toList "/esp/EFI/i.efi".toList ["quiet".toList] bootHost _ _ bootStub
    (.data [73, 68]) rfl rfl rfl⟩

/-- **No configuration comes back.** `lanzaboote_image` adds no `.kernelh` section, so on the
image it builds from any stub without one, `EmbeddedConfiguration::new` fails with
`INVALID_PARAMETER`, whatever the os-release file, the command line and the paths. -/
theorem lanzabooteImage_new_fails {stub osr esp kp ip : List Char} {cmd : List (List Char)}
    {fs fs' : HostFs} {image : List Char} {pe : PE} {osrFile : HostFile}
    (hstub : fs.lookup stub = some (.image pe)) (hosr : fs.lookup osr = some osrFile)
    (hkernelh : peSection pe ".kernelh" = none)
    (h : (lanzabooteImage stub osr cmd kp ip esp).run fs = .ok (image, fs')) :
    ∃ pe', fs'.lookup image = some (.image pe') ∧
      EmbeddedConfiguration.new pe' = .error .invalidParameter := by
  obtain ⟨_, _, pe', -, -, himage, -, -, -, hrest⟩ := lanzabooteImage_peSection hstub hosr h
  exact ⟨pe', himage, EmbeddedConfiguration.new_of_no_kernelh (hrest _ (by decide) hkernelh)⟩

theorem bootHost_new_fails :
    ∃ image fs', (lanzabooteImage "/stub.efi".toList "/os-release".toList ["quiet".toList]
        "/esp/EFI/k.efi".toList "/esp/EFI/i.efi".toList "/esp".toList).run bootHost =
        .ok (image, fs') ∧
      ∃ pe', fs'.lookup image = some (.image pe') ∧
        EmbeddedConfiguration.new pe' = .error .invalidParameter :=
  ⟨_, _, rfl, @lanzabooteImage_new_fails "/stub.efi".toList "/os-release".toList "/esp".toList
    "/esp/EFI/k.efi".toList "/esp/EFI/i.efi".toList ["quiet".toList] bootHost _ _ bootStub
    (.data [73, 68]) rfl rfl rfl rfl⟩

/-- **The built stub has no digests.** From `bootStub`, `lanzaboote_image` builds an image with
the sections `.text`, `.osrel`, `.cmdline`, `.initrdp` and `.kernelp` and nothing else, and
`EmbeddedConfiguration::new` on it is `INVALID_PARAMETER`. -/
theorem lanzabooteImage_omits_hashes :
    ∃ image fs' pe', (lanzabooteImage "/stub.efi".toList "/os-release".toList ["quiet".toList]
        "/esp/EFI/k.efi".toList "/esp/EFI/i.efi".toList "/esp".toList).run bootHost =
        .ok (image, fs') ∧ fs'.lookup image = some (.image pe') ∧
      pe'.sections.map (·.name) = [".text", ".osrel", ".cmdline", ".initrdp", ".kernelp"] ∧
      EmbeddedConfiguration.new pe' = .error .invalidParameter :=
  ⟨_, _, _, rfl, rfl, rfl, by decide⟩

/-! ## The initrd stub -/

/-- **What `wrap_initrd` builds.** For an initrd stub and an initrd that exist, a run of
`wrap_initrd` that succeeds finds no `.initrd` section in the stub, and writes an image whose
sections, by name and bytes, are in some order the stub's non-empty sections and, unless the
initrd is empty, one section `.initrd` holding exactly its bytes: `pe_section` reads the initrd
back from it, and finds no `.initrd` for an empty initrd. -/
theorem wrapInitrd_contents {stub initrd : List Char} {fs fs' : HostFs} {image : List Char}
    {pe : PE} {initrdFile : HostFile} (hstub : fs.lookup stub = some (.image pe))
    (hinitrd : fs.lookup initrd = some initrdFile)
    (h : (wrapInitrd stub initrd).run fs = .ok (image, fs')) :
    ∃ pe', fs'.lookup image = some (.image pe') ∧ (∀ t ∈ pe.sections, t.name ≠ ".initrd") ∧
      (pe'.sections.map fun t => (t.name, t.data)).Perm
        ((pe.sections.filter fun t => !t.isEmpty).map (fun t => (t.name, t.data)) ++
          if initrdFile.bytes = [] then [] else [(".initrd", initrdFile.bytes)]) ∧
      peSection pe' ".initrd" = if initrdFile.bytes = [] then none else some initrdFile.bytes := by
  obtain ⟨_, _, pe₀, -, -, hfresh, himage, -, hsecs⟩ := wrapInitrd_written hstub hinitrd h
  refine ⟨pe₀.written, himage, hfresh, ?_, peSection_written_of_added hsecs hfresh rfl⟩
  -- BFD's writer keeps the sections that are not empty, and reorders them
  refine ((List.perm_insertionSort SectionTable.StartsBefore _).map _).trans (.of_eq ?_)
  rw [hsecs, List.filter_append, List.map_append, List.filter_singleton, addedTable_isEmpty]
  cases initrdFile.bytes <;> simp [addedTable]

/-- A build host with `bootStub` and a three-byte initrd. -/
def initrdHost : HostFs :=
  ⟨[("/stub.efi".toList, .image bootStub), ("/initrd".toList, .data [7, 8, 9])]⟩

theorem initrdHost_wrapInitrd :
    ∃ image fs', (wrapInitrd "/stub.efi".toList "/initrd".toList).run initrdHost =
        .ok (image, fs') ∧
      ∃ pe', fs'.lookup image = some (.image pe') ∧
        (∀ t ∈ bootStub.sections, t.name ≠ ".initrd") ∧
        (pe'.sections.map fun t => (t.name, t.data)).Perm
          ((bootStub.sections.filter fun t => !t.isEmpty).map (fun t => (t.name, t.data)) ++
            if ([7, 8, 9] : Bytes) = [] then [] else [(".initrd", [7, 8, 9])]) ∧
        peSection pe' ".initrd" = if ([7, 8, 9] : Bytes) = [] then none else some [7, 8, 9] :=
  ⟨_, _, rfl, @wrapInitrd_contents "/stub.efi".toList "/initrd".toList initrdHost _ _ bootStub
    (.data [7, 8, 9]) rfl rfl rfl⟩

end Lanzatool
