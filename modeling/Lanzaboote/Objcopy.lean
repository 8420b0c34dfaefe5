import Lanzaboote.Layout
import Mathlib.Tactic.IntervalCases

/-!
# `objcopy` as `lzbt` runs it

`wrap_in_pe` hands `objcopy` two options per planned section, `--add-section NAME=FILE` and then
`--change-section-vma NAME=VMA` with the address printed by `format!("{:#x}")`, followed by the
stub and the temporary image. This module works out once what image `objcopy` writes; the
modules after it read that off and do not unfold the tool again.

Two facts carry the plan across. The printed address reads back as the number printed
(`Lanzatool.parseHex_formatHex`: `parseHex` undoes `Nat.toDigits 16`, digit by digit). And
`objcopy` refuses a name the image already has, so each `--change-section-vma` of a run that goes
on moves the section just added and no other (`Lanzatool.objcopyOptions_toObjcopy_cons`). By
induction over the plan, the options go through exactly when the planned names are new and
distinct and every file exists, and the image is then the stub's table with one table per planned
section appended, each holding the bytes of its file at its planned address
(`Lanzatool.objcopyOptions_toObjcopy_eq_some`). `objcopy` writes it as BFD's PE writer lays it
out: the sections of size zero left out and the table ordered by address (`PE.written`).

For each of the two entry points this gives one spec lemma, which the later modules cite:
`Lanzatool.lanzabooteImage_written` and `Lanzatool.wrapInitrd_written`.
-/

namespace Lanzatool

/-! ## Hexadecimal addresses -/

/-- One more hexadecimal digit, as `Nat.toDigits` prints it, reads back as that digit. -/
theorem parseHexDigit_digitChar (n : Nat) {k : Nat} (hk : k < 16) :
    parseHexDigit n (Nat.digitChar k) = some (16 * n + k) := by
  interval_cases k <;> rfl

/-- Reading the digits `Nat.toDigitsCore` prepends to `acc` goes on from the number they name. -/
theorem foldlM_parseHexDigit_toDigitsCore (fuel n : Nat) (acc : List Char) (h : n < fuel) :
    (Nat.toDigitsCore 16 fuel n acc).foldlM parseHexDigit 0 = acc.foldlM parseHexDigit n := by
  induction fuel generalizing n acc with
  | zero => omega
  | succ fuel ih =>
    have hd := parseHexDigit_digitChar (n / 16) (Nat.mod_lt n (by norm_num : 16 > 0))
    have hn : 16 * (n / 16) + n % 16 = n := Nat.div_add_mod n 16
    have hcore : Nat.toDigitsCore 16 (fuel + 1) n acc = if n / 16 = 0
        then Nat.digitChar (n % 16) :: acc
        else Nat.toDigitsCore 16 fuel (n / 16) (Nat.digitChar (n % 16) :: acc) := rfl
    by_cases h0 : n / 16 = 0
    case pos =>
      rw [h0, Nat.mul_zero, Nat.zero_add] at hd hn
      rw [hcore, if_pos h0, List.foldlM_cons, hd, hn]
      rfl
    case neg =>
      rw [hcore, if_neg h0, ih _ _ (by omega), List.foldlM_cons, hd, hn]
      rfl

/-- **An address printed by `lzbt` reads back as itself.** -/
theorem parseHex_formatHex (n : UInt64) : parseHex (formatHex n).toList = some n.toNat := by
  show (Nat.toDigitsCore 16 (n.toNat + 1) n.toNat []).foldlM parseHexDigit 0 = _
  rw [foldlM_parseHexDigit_toDigitsCore _ _ _ (Nat.lt_succ_self _)]
  rfl

/-! ## The options -/

/-- An option `NAME=PATH` splits back into the name and the path when the name has no `=`. -/
theorem splitEq_append {name : String} (path : List Char) (h : '=' ∉ name.toList) :
    splitEq (name ++ "=" ++ String.mk path) = (name, path) := by
  have hne : ∀ c ∈ name.toList, decide (c ≠ '=') = true := fun c hc =>
    decide_eq_true fun he => h (he ▸ hc)
  have hl : (name ++ "=" ++ String.mk path).toList = name.toList ++ '=' :: path := by
    simp [String.toList]
  simp only [splitEq, hl, List.takeWhile_append_of_pos hne, List.dropWhile_append_of_pos hne]
  simp

/-- **The table entry of an added section**: its name, its bytes and as long as they are, moved
to `vma` less the image base `base`. -/
def addedTable (name : String) (bytes : Bytes) (vma : UInt64) (base : Nat) : SectionTable :=
  ⟨name, bytes.length.toUInt32, (vma.toNat - base).toUInt32, bytes⟩

/-- An added section has size zero exactly when its file is empty. -/
@[simp] theorem addedTable_isEmpty (name : String) (bytes : Bytes) (vma : UInt64) (base : Nat) :
    (addedTable name bytes vma base).isEmpty = bytes.isEmpty := by
  cases bytes
  case nil => rfl
  case cons => simp [addedTable, SectionTable.isEmpty]

/-- The table entry `objcopy` makes of a planned section, when its file exists. -/
def Section.toTable (fs : HostFs) (base : Nat) (sec : Section) : Option SectionTable :=
  (sec.contents fs).map fun c => addedTable c.1 c.2 sec.offset base

/-- Moving the sections of a name that none of `ts` has leaves `ts` as it was. -/
theorem map_move_of_not_mem {ts : List SectionTable} {n : String} {a : UInt32}
    (h : ∀ t ∈ ts, t.name ≠ n) :
    (ts.map fun t => if t.name = n then { t with virtualAddress := a } else t) = ts :=
  (List.map_congr_left fun t ht => if_neg (h t ht)).trans (List.map_id _)

/-- **One planned section's two options**: `objcopy` adds the section with the bytes of its file,
as long as they are, unless the image has a section of its name, and then moves it to its address
less the image base. A name the image does not have is only the new section's, so the move
moves no other. -/
theorem objcopyOptions_toObjcopy_cons {fs : HostFs} {sec : Section} {secs : List Section}
    {pe : PE} {hdr : OptionalHeader} (hhdr : pe.header.optionalHeader = some hdr)
    (hsec : '=' ∉ sec.name.toList) :
    objcopyOptions fs ((sec :: secs).flatMap Section.toObjcopy) pe =
      (Section.toTable fs hdr.windowsFields.imageBase.toNat sec).bind fun t =>
        if pe.sections.any (·.name = sec.name) then none
        else objcopyOptions fs (secs.flatMap Section.toObjcopy) (pe.addSections [t]) := by
  rw [List.flatMap_cons, Section.toObjcopy, List.cons_append, List.cons_append, List.cons_append,
    List.cons_append, List.nil_append, objcopyOptions.eq_2, splitEq_append _ hsec]
  cases hf : fs.lookup sec.filePath with
  | none => simp [hf, Section.toTable, Section.contents]
  | some f =>
    simp only [hf, Option.map_some', Option.bind_eq_bind, Option.some_bind, Section.toTable,
      Section.contents]
    split
    · rfl
    next hnew =>
    simp only [List.any_eq_true, decide_eq_true_eq, not_exists, not_and] at hnew
    have hvma : parseHex (formatHex sec.offset).data = some sec.offset.toNat := parseHex_formatHex _
    rw [objcopyOptions.eq_3, splitEq_append _ hsec]
    simp only [hvma, PE.addSections, hhdr, Option.map_some', Option.getD_some, Option.bind_eq_bind, Option.some_bind,
      List.map_append, map_move_of_not_mem hnew, List.map_singleton, if_pos]
    rfl

/-- **What the options do to the image.** The options of the planned sections go through exactly
when none of the planned names is one the image had, no two are alike and every file exists; the
image is then the one it was with the table of each planned section appended, in order. -/
theorem objcopyOptions_toObjcopy_eq_some {fs : HostFs} {secs : List Section} {pe pe' : PE}
    {hdr : OptionalHeader} (hhdr : pe.header.optionalHeader = some hdr)
    (hname : ∀ sec ∈ secs, '=' ∉ sec.name.toList) :
    objcopyOptions fs (secs.flatMap Section.toObjcopy) pe = some pe' ↔
      (∀ t ∈ pe.sections, t.name ∉ secs.map (·.name)) ∧ (secs.map (·.name)).Nodup ∧
        (∀ sec ∈ secs, (fs.lookup sec.filePath).isSome) ∧
        pe' = pe.addSections (secs.filterMap (Section.toTable fs hdr.windowsFields.imageBase.toNat)) := by
  induction secs generalizing pe with
  | nil =>
    simp only [List.flatMap_nil, objcopyOptions, Option.some.injEq, List.map_nil, List.not_mem_nil,
      not_false_eq_true, implies_true, List.nodup_nil, List.filterMap_nil, true_and,
      false_implies]
    rw [PE.addSections_nil]
    exact eq_comm
  | cons sec secs ih =>
    rw [objcopyOptions_toObjcopy_cons hhdr (hname sec (List.mem_cons_self _ _))]
    cases ht : Section.toTable fs hdr.windowsFields.imageBase.toNat sec with
    | none =>
      -- the file of the section is missing
      simp only [Section.toTable, Section.contents, Option.map_map, Option.map_eq_none'] at ht
      refine iff_of_false (fun h => nomatch h) fun h => ?_
      simpa [ht] using h.2.2.1 sec (List.mem_cons_self _ _)
    | some t =>
      have htname : t.name = sec.name ∧ (fs.lookup sec.filePath).isSome := by
        simp only [Section.toTable, Section.contents, Option.map_map, Option.map_eq_some'] at ht
        obtain ⟨f, hf, rfl⟩ := ht
        exact ⟨rfl, by simp [hf]⟩
      rw [Option.some_bind]
      split
      next hany =>
        -- the image has a section of the name
        obtain ⟨t', ht', he⟩ := List.any_eq_true.mp hany
        refine iff_of_false (fun h => nomatch h) fun h => ?_
        exact h.1 t' ht' (by rw [of_decide_eq_true he]; exact List.mem_cons_self _ _)
      next hnew =>
        simp only [List.any_eq_true, decide_eq_true_eq, not_exists, not_and] at hnew
        rw [ih (by exact hhdr) (fun s hs => hname s (List.mem_cons_of_mem _ hs)),
          List.filterMap_cons_some ht, PE.addSections_addSections, List.singleton_append]
        constructor
        · rintro ⟨hfresh, hnodup, hfiles, rfl⟩
          refine ⟨fun t' ht' => ?_, List.nodup_cons.mpr ⟨?_, hnodup⟩, fun s hs => ?_, rfl⟩
          · simp only [List.map_cons, List.mem_cons, not_or]
            exact ⟨hnew t' ht', hfresh t' (List.mem_append_left _ ht')⟩
          · have hadded := hfresh t (List.mem_append_right _ (List.mem_singleton_self _))
            rwa [htname.1] at hadded
          · rcases List.mem_cons.mp hs with rfl | hs
            exacts [htname.2, hfiles s hs]
        · rintro ⟨hfresh, hnodup, hfiles, rfl⟩
          refine ⟨fun t' ht' => ?_, (List.nodup_cons.mp hnodup).2,
            fun s hs => hfiles s (List.mem_cons_of_mem _ hs), rfl⟩
          rcases List.mem_append.mp ht' with ht' | ht'
          · exact fun hm => hfresh t' ht' (List.mem_cons_of_mem _ hm)
          · rw [List.mem_singleton.mp ht', htname.1]
            exact (List.nodup_cons.mp hnodup).1

/-- `objcopy` writes its output exactly when the input is a PE image and the options go through:
the output then holds the image they made, as BFD writes it. -/
theorem objcopy_eq_some {options : List String} {input output : List Char} {fs fs' : HostFs} :
    objcopy (options ++ [String.mk input, String.mk output]) fs = some fs' ↔
      ∃ pe pe', fs.lookup input = some (.image pe) ∧ objcopyOptions fs options pe = some pe' ∧
        fs' = fs.write output (.image pe'.written) := by
  simp only [objcopy, List.reverse_append, List.reverse_cons, List.reverse_nil, List.nil_append,
    List.cons_append, List.singleton_append, List.reverse_reverse]
  split
  · next pe hin =>
    constructor
    · intro h
      obtain ⟨pe', h', rfl⟩ := Option.map_eq_some'.mp h
      exact ⟨pe, pe', hin, h', rfl⟩
    · rintro ⟨pe₁, pe', hin', h', rfl⟩
      obtain rfl := HostFile.image.inj (Option.some.inj (hin.symm.trans hin'))
      rw [h']
      rfl
  · next hin =>
    exact iff_of_false (nomatch ·) fun ⟨pe, _, h, _⟩ => hin pe h

/-- `wrap_in_pe` succeeds exactly when `objcopy` does, on a fresh temporary image. -/
theorem wrapInPe_run_eq_ok {stub : List Char} {secs : List Section} {fs fs' : HostFs}
    {image : List Char} :
    (wrapInPe stub secs).run fs = .ok (image, fs') ↔ image = fs.freshPath ∧
      objcopy (secs.flatMap Section.toObjcopy ++ [String.mk stub, String.mk fs.freshPath])
        (fs.write fs.freshPath (.data [])) = some fs' := by
  unfold wrapInPe
  simp only [ToolM.run_bind_eq_ok, writeToTmp_run, ToolM.run_get_eq_ok, Except.ok.injEq,
    Prod.mk.injEq, and_assoc]
  constructor
  · rintro ⟨_, _, rfl, rfl, _, _, rfl, rfl, h⟩
    split at h
    · next fs₂ hobj =>
      cases h
      exact ⟨rfl, hobj⟩
    · cases h
  · rintro ⟨rfl, h⟩
    refine ⟨_, _, rfl, rfl, _, _, rfl, rfl, ?_⟩
    rw [h]
    rfl

/-- A section whose file exists keeps its bytes when a temporary file is written. -/
theorem Section.contents_write_freshPath {fs : HostFs} {sec : Section} {c : String × Bytes}
    (h : Section.contents fs sec = some c) (new : HostFile) :
    Section.contents (fs.write fs.freshPath new) sec = some c := by
  obtain ⟨f, hf, rfl⟩ := Option.map_eq_some'.mp h
  simp only [Section.contents, HostFs.lookup_write_freshPath hf, Option.map_some']

/-- The table of a section whose file exists does not change when a temporary file is written. -/
theorem Section.toTable_write_freshPath {fs : HostFs} {sec : Section} {c : String × Bytes}
    (h : Section.contents fs sec = some c) (new : HostFile) (base : Nat) :
    Section.toTable (fs.write fs.freshPath new) base sec = some (addedTable c.1 c.2 sec.offset base) := by
  rw [Section.toTable, Section.contents_write_freshPath h new, Option.map_some']

/-! ## The two entry points -/

/-- **What `lanzaboote_image` writes.** For a stub and an os-release file that exist, a run that
succeeds finds none of the four new names in the stub, and writes the image `objcopy` makes of
the stub with the os-release file, the command line joined by spaces and the ESP paths of the
initrd and the kernel (the texts in UTF-8) appended as sections, each at the address planned for
it (`Lanzatool.lanzabooteSections_plan`). -/
theorem lanzabooteImage_written {stub osr esp kp ip : List Char} {cmd : List (List Char)}
    {fs fs' : HostFs} {image : List Char} {pe : PE} {osrFile : HostFile}
    (hstub : fs.lookup stub = some (.image pe)) (hosr : fs.lookup osr = some osrFile)
    (h : (lanzabooteImage stub osr cmd kp ip esp).run fs = .ok (image, fs')) :
    ∃ (hdr : OptionalHeader) (last : SectionTable) (kpath ipath : List Char) (pe₀ : PE),
      pe.header.optionalHeader = some hdr ∧
      pe.sections.getLast? = some last ∧
      espRelativePathString esp kp = .ok kpath ∧ espRelativePathString esp ip = .ok ipath ∧
      (∀ t ∈ pe.sections, t.name ∉ [".osrel", ".cmdline", ".initrdp", ".kernelp"]) ∧
      fs'.lookup image = some (.image pe₀.written) ∧ pe₀.header = pe.header ∧
      let base := hdr.windowsFields.imageBase.toNat
      let o₀ := (last.virtualSize + last.virtualAddress).toUInt64 + hdr.windowsFields.imageBase
      let o₁ := o₀ + osrFile.bytes.length.toUInt64
      let o₂ := o₁ + (utf8Encode ([' '].intercalate cmd)).length.toUInt64
      pe₀.sections = pe.sections ++ [addedTable ".osrel" osrFile.bytes o₀ base,
        addedTable ".cmdline" (utf8Encode ([' '].intercalate cmd)) o₁ base,
        addedTable ".initrdp" (utf8Encode ipath) o₂ base,
        addedTable ".kernelp" (utf8Encode kpath) (o₂ + (utf8Encode ipath).length.toUInt64) base] := by
  obtain ⟨secs, fs₁, hsecs, hwrap⟩ := ToolM.run_bind_eq_ok.mp h
  obtain ⟨hdr, last, kpath, ipath, hh, hl, hk, hi, hnames, hoffs, hcont, hkeep⟩ :=
    lanzabooteSections_plan hstub hosr hsecs
  obtain ⟨rfl, hobj⟩ := wrapInPe_run_eq_ok.mp hwrap
  obtain ⟨pe₀, pe', hin, hopts, rfl⟩ := objcopy_eq_some.mp hobj
  rw [HostFs.lookup_write_freshPath (hkeep _ _ hstub), Option.some.injEq,
    HostFile.image.injEq] at hin
  subst hin
  have hnoeq : ∀ n ∈ [".osrel", ".cmdline", ".initrdp", ".kernelp"], '=' ∉ n.toList := by decide
  obtain ⟨hfresh, -, -, rfl⟩ := (objcopyOptions_toObjcopy_eq_some hh
    (fun sec hsec => hnoeq _ (hnames ▸ List.mem_map_of_mem _ hsec))).mp hopts
  rw [hnames] at hfresh
  refine ⟨hdr, last, kpath, ipath, _, hh, hl, hk, hi, hfresh, HostFs.lookup_write_self _ _ _,
    rfl, ?_⟩
  -- the four planned sections, one by one
  obtain ⟨a, _, rfl, -, h₁⟩ := List.map_eq_cons_iff.mp hnames
  obtain ⟨b, _, rfl, -, h₂⟩ := List.map_eq_cons_iff.mp h₁
  obtain ⟨c, _, rfl, -, h₃⟩ := List.map_eq_cons_iff.mp h₂
  obtain ⟨d, _, rfl, -, h₄⟩ := List.map_eq_cons_iff.mp h₃
  obtain rfl := List.map_eq_nil_iff.mp h₄
  simp only [List.map_cons, List.map_nil, List.cons.injEq, and_true] at hoffs hcont
  obtain ⟨ha, hb, hc, hd⟩ := hoffs
  obtain ⟨ca, cb, cc, cd⟩ := hcont
  rw [PE.addSections_sections, List.filterMap_cons_some (Section.toTable_write_freshPath ca _ _),
    List.filterMap_cons_some (Section.toTable_write_freshPath cb _ _),
    List.filterMap_cons_some (Section.toTable_write_freshPath cc _ _),
    List.filterMap_cons_some (Section.toTable_write_freshPath cd _ _), List.filterMap_nil, ha, hb,
    hc, hd]

/-- **What `wrap_initrd` writes.** For an initrd stub and an initrd that exist, a run that succeeds
finds no `.initrd` section in the stub, and writes the image `objcopy` makes of the stub with the
initrd appended as its `.initrd` section, at the end of the stub's last section. -/
theorem wrapInitrd_written {stub initrd : List Char} {fs fs' : HostFs} {image : List Char}
    {pe : PE} {initrdFile : HostFile} (hstub : fs.lookup stub = some (.image pe))
    (hinitrd : fs.lookup initrd = some initrdFile)
    (h : (wrapInitrd stub initrd).run fs = .ok (image, fs')) :
    ∃ (hdr : OptionalHeader) (last : SectionTable) (pe₀ : PE),
      pe.header.optionalHeader = some hdr ∧ pe.sections.getLast? = some last ∧
      (∀ t ∈ pe.sections, t.name ≠ ".initrd") ∧
      fs'.lookup image = some (.image pe₀.written) ∧ pe₀.header = pe.header ∧
      pe₀.sections = pe.sections ++ [addedTable ".initrd" initrdFile.bytes
        ((last.virtualSize + last.virtualAddress).toUInt64 + hdr.windowsFields.imageBase)
        hdr.windowsFields.imageBase.toNat] := by
  obtain ⟨secs, fs₁, hsecs, hwrap⟩ := ToolM.run_bind_eq_ok.mp h
  obtain ⟨o, ho, rfl⟩ := initrdSections_run_eq_ok.mp hsecs
  obtain ⟨pe₁, hdr, last, hstub', hh, hl, rfl, rfl⟩ := stubOffset_run_eq_ok.mp ho
  rw [hstub, Option.some.injEq, HostFile.image.injEq] at hstub'
  subst hstub'
  obtain ⟨rfl, hobj⟩ := wrapInPe_run_eq_ok.mp hwrap
  obtain ⟨pe₁, pe', hin, hopts, rfl⟩ := objcopy_eq_some.mp hobj
  rw [HostFs.lookup_write_freshPath hstub, Option.some.injEq, HostFile.image.injEq] at hin
  subst hin
  obtain ⟨hfresh, -, -, rfl⟩ := (objcopyOptions_toObjcopy_eq_some hh
    (fun sec hsec => List.mem_singleton.mp hsec ▸ (by decide : '=' ∉ ".initrd".toList))).mp hopts
  have hcont : ∀ o, Section.contents fs (s ".initrd" initrd o) = some (".initrd", initrdFile.bytes) := by
    intro o
    simp only [Section.contents, s, hinitrd, Option.map_some']
  refine ⟨hdr, last, _, hh, hl, fun t ht => by simpa using hfresh t ht,
    HostFs.lookup_write_self _ _ _, rfl, ?_⟩
  rw [PE.addSections_sections,
    List.filterMap_cons_some (Section.toTable_write_freshPath (hcont _) _ _),
    List.filterMap_nil]
  rfl

end Lanzatool
