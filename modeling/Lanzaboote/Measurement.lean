import Lanzaboote.BootSafety

/-!
# The stub measures itself before it boots

Measured boot asks that the stub extend the TPM with its own image before it hands control to
anything it loaded. `main` asks the firmware for the image it was booted from a second time,
measures it (`measure_image`), exports its EFI variables, and `expect`s both, before it collects
the companion initrds and boots.

This module proves over every run of `main` that each boot event comes after those three
events, in a row and with success: the booted image, the measurement of that very image, and the
export of the variables (`Stub.main_measures_before_boot`). No kernel is loaded or started, and
no initrd loader installed, by a run that has not measured the stub.

As for `Stub.Appends` and `Stub.Scoped`, a predicate says once what an action adds
(`Stub.MeasuredFirst`), and two rules carry it through `main`: one for a prefix that adds no
boot event, and one for the preparation of the boot, whose successful runs hold the measurement
(`Stub.prepareBoot_ok`).

Measured boot also has the stub tell the system which companion initrds it measured. `main`
packs the credentials, the global credentials and the system extensions it finds on its volume,
each best-effort (`pack_cpio`), and hands the archives it got to `export_pcr_efi_variables`. The
second part of this module proves over every run that each such export is handed exactly the
archives the `pack_cpio` calls before it returned, each with its kind, and that a run packs at
most one archive of each kind, in that order (`Stub.main_exports_packed_initrds`). A predicate
says this of an action (`Stub.HandsOnPacks`), with one rule for a prefix that neither packs nor
exports and one for a continuation that does neither.
-/

namespace Stub

variable (fw : Firmware)

/-- The three events of a measurement that did not panic: the image the stub was booted from,
its measurement, the export of the stub's EFI variables. -/
def measuredEvents (image : PE) (n : Nat) : Trace :=
  [.bootedImageFile (.ok image), .measureImage image (.ok n), .exportEfiVariables (.ok ())]

/-- **The run measured the stub before `e`**: its events hold a measurement, and `e` after it. -/
def MeasuredBefore (e : Event) (events : Trace) : Prop :=
  ∃ pre image n post, events = pre ++ measuredEvents image n ++ post ∧ e ∈ post

/-- What an action appended, as far as it did, from the run it started with. -/
theorem Appends.trace_of_ok {α : Type} {P : Event → Prop} {x : StubM α} (hx : Appends P x)
    {trace trace' : Trace} {a : α} (h : x.run.run trace = (.ok a, trace')) :
    ∃ added, trace' = trace ++ added := by
  obtain ⟨added, hadded, -⟩ := hx trace
  rw [h] at hadded
  exact ⟨added, hadded⟩

/-- **A preparation that does not panic measures the stub**: its events hold the booted image,
the measurement of that image and the export of the stub's variables, in a row. -/
theorem prepareBoot_ok {trace trace' : Trace}
    (h : (prepareBoot fw).run.run trace = (.ok (), trace')) :
    ∃ pre image n post, trace' = pre ++ measuredEvents image n ++ post := by
  simp only [prepareBoot, run_call_bind, run_bind_ok, run_unwrap_ok, run_expect_ok,
    run_pure_ok] at h
  obtain ⟨_, _, -, _, pre, -, image, _, ⟨himage, rfl⟩, n, _, ⟨hmeasure, rfl⟩, ⟨⟩, _,
    ⟨hexport, rfl⟩, _, _, hcollect, -, rfl⟩ := h
  obtain ⟨added, rfl⟩ := (collectCompanionInitrds_appends fw).trace_of_ok hcollect
  rw [hexport, hmeasure, himage]
  exact ⟨pre, image, n, added ++ [_], by
    simp only [measuredEvents, List.append_assoc, List.singleton_append, List.cons_append,
      List.nil_append]
    rfl⟩

/-- **What an action may add around the measurement**: from every run so far it only appends
events, and each boot event among them comes after a measurement of the stub. -/
def MeasuredFirst {α : Type} (x : StubM α) : Prop :=
  ∀ trace, ∃ added, (x.run.run trace).2 = trace ++ added ∧
    ∀ e ∈ added, e.isBoot = true → MeasuredBefore e (trace ++ added)

section MeasuredFirst

variable {α β : Type}

/-- A prefix that adds no boot event, followed by what it goes on to when it succeeds, adds
boot events only after a measurement, as long as its continuation does so on every run the
prefix ends in. -/
theorem MeasuredFirst.bind_of_ok {x : StubM α} {f : α → StubM β} (hx : Appends NotBoot x)
    (hf : ∀ trace a trace', x.run.run trace = (.ok a, trace') → ∃ added,
      ((f a).run.run trace').2 = trace' ++ added ∧
        ∀ e ∈ added, e.isBoot = true → MeasuredBefore e (trace' ++ added)) :
    MeasuredFirst (x >>= f) := by
  intro trace
  obtain ⟨added, hadded, hnone⟩ := hx trace
  rw [run_bind]
  rcases hrun : x.run.run trace with ⟨_ | a, trace'⟩ <;> rw [hrun] at hadded <;> subst hadded
  · exact ⟨added, rfl, fun e he hb => absurd ((hnone e he).symm.trans hb) Bool.false_ne_true⟩
  · obtain ⟨added', hadded', hmeasured⟩ := hf trace a _ hrun
    refine ⟨added ++ added', by rw [hadded', List.append_assoc], fun e he hb => ?_⟩
    rcases List.mem_append.mp he with he | he
    · exact absurd ((hnone e he).symm.trans hb) Bool.false_ne_true
    · rw [← List.append_assoc]
      exact hmeasured e he hb

/-- A prefix that adds no boot event keeps a measured continuation measured. -/
theorem MeasuredFirst.bind_of_appends {x : StubM α} {f : α → StubM β}
    (hx : Appends NotBoot x) (hf : ∀ a, MeasuredFirst (f a)) : MeasuredFirst (x >>= f) :=
  MeasuredFirst.bind_of_ok hx fun _ a trace' _ => hf a trace'

/-- **The boot comes after the preparation**: whatever follows a preparation of the boot, and
adds what it likes, adds it after the measurement. -/
theorem prepareBoot_bind {f : Unit → StubM β} (hf : ∀ a, Appends (fun _ => True) (f a)) :
    MeasuredFirst (prepareBoot fw >>= f) := by
  refine MeasuredFirst.bind_of_ok (prepareBoot_appends fw) fun _ () _ hrun => ?_
  obtain ⟨pre, image, n, post, rfl⟩ := prepareBoot_ok fw hrun
  obtain ⟨added, hadded, -⟩ := hf () (pre ++ measuredEvents image n ++ post)
  exact ⟨added, hadded, fun e he _ => ⟨pre, image, n, post ++ added,
    by simp only [List.append_assoc], List.mem_append_right _ he⟩⟩

end MeasuredFirst

variable (digest : Bytes → Hash)

/-- `verify_and_boot` boots only after the image was measured. -/
theorem verifyAndBoot_measuredFirst (config : EmbeddedConfiguration)
    (kernelData initrdData : Bytes) :
    MeasuredFirst (verifyAndBoot fw digest config kernelData initrdData) := by
  unfold verifyAndBoot
  refine MeasuredFirst.bind_of_appends (logIf_appends _ _) fun _ => ?_
  refine MeasuredFirst.bind_of_appends (logIf_appends _ _) fun _ => ?_
  refine prepareBoot_bind fw fun _ => Appends.ite ?_ ?_
  · exact ((bootLinuxUnchecked_appends fw _ _ _).mono fun _ _ => trivial).bind fun _ =>
      Appends.pure _
  · exact (Appends.emit trivial).bind fun _ =>
      ((bootLinuxUefi_appends fw _ _ _).mono fun _ _ => trivial).bind fun _ => Appends.pure _

/-- **The stub measures itself before it boots.** For every firmware and every digest function,
each boot event of a run of `main` (a boot function entered, the kernel loaded or started, the
initrd loader installed or uninstalled) comes after three events in a row: the image the stub
was booted from, returned by the firmware, the measurement of that image, which succeeded, and
the export of the stub's EFI variables, which succeeded. -/
theorem main_measures_before_boot (fw : Firmware) (digest : Bytes → Hash) :
    ∀ e ∈ (runMain fw digest).2, e.isBoot = true →
      ∃ pre image n post, (runMain fw digest).2 =
        pre ++ [.bootedImageFile (.ok image), .measureImage image (.ok n),
          .exportEfiVariables (.ok ())] ++ post ∧ e ∈ post := by
  intro e he hboot
  obtain ⟨added, hadded, hmeasured⟩ :=
    MeasuredFirst.bind_of_appends (loadBootFiles_appends fw)
      (fun _ => verifyAndBoot_measuredFirst fw digest _ _ _) []
  rw [runMain, main, hadded, List.nil_append] at he ⊢
  exact hmeasured e he hboot

theorem exampleFirmware_measures_before_boot :
    ∃ pre image n post, (runMain exampleFirmware exampleDigest).2 =
        pre ++ [.bootedImageFile (.ok image), .measureImage image (.ok n),
          .exportEfiVariables (.ok ())] ++ post ∧
      Event.bootLinuxUnchecked [1] exampleCmdline [2] ∈ post :=
  main_measures_before_boot exampleFirmware exampleDigest _ (by decide) rfl

end Stub

/-! ## The PCR variables name the companion initrds -/

namespace Event

/-- The archive a `pack_cpio` returned, with its kind. -/
def packed : Event → Option (CompanionKind × Bytes)
  | .packCpio kind (.ok (some archive)) => some (kind, archive)
  | _ => none

/-- The export of the PCR variables for the companion initrds. -/
def isPcrExport : Event → Bool
  | .exportPcrEfiVariables .. => true
  | _ => false

end Event

namespace Stub

/-- An event that neither returns a companion initrd nor exports the PCR variables. -/
def NotCompanion (e : Event) : Prop := e.packed = none ∧ e.isPcrExport = false

/-- **Every PCR export names the archives packed before it**: the companion initrds handed to
`export_pcr_efi_variables` are the archives the `pack_cpio` calls before it returned, each with
its kind, in their order. -/
def ExportsPacked (trace : Trace) : Prop :=
  ∀ pre initrds r post, trace = pre ++ .exportPcrEfiVariables initrds r :: post →
    initrds = pre.filterMap Event.packed

/-- **The archives packed are at most one of each kind**, in the order `main` packs them:
credentials, global credentials, system extensions. -/
def PacksInOrder (trace : Trace) : Prop :=
  ((trace.filterMap Event.packed).map Prod.fst).Sublist
    [.credentials, .globalCredentials, .systemExtension]

section ExportsPacked

variable {trace added : Trace}

/-- A trace with no PCR export holds none. -/
theorem exportPcr_not_mem (h : ∀ e ∈ trace, e.isPcrExport = false)
    (initrds : List (CompanionKind × Bytes)) (r : Except Status Unit) :
    Event.exportPcrEfiVariables initrds r ∉ trace :=
  fun hm => Bool.false_ne_true (h _ hm).symm

/-- The empty run exports nothing. -/
theorem ExportsPacked.nil : ExportsPacked [] := fun pre _ _ _ h => by
  cases pre <;> cases h

/-- Events that export nothing keep every export before them as it was. -/
theorem ExportsPacked.append (ht : ExportsPacked trace)
    (hadded : ∀ e ∈ added, e.isPcrExport = false) : ExportsPacked (trace ++ added) := by
  intro pre initrds r post h
  rcases List.append_eq_append_iff.mp h with ⟨a', rfl, h'⟩ | ⟨c', rfl, h'⟩
  · exact absurd (h' ▸ List.mem_append_right _ (List.mem_cons_self _ _))
      (exportPcr_not_mem hadded _ _)
  rcases List.cons_eq_append_iff.mp h' with ⟨rfl, rfl⟩ | ⟨post', rfl, -⟩
  · exact absurd (List.mem_cons_self _ _) (exportPcr_not_mem hadded _ _)
  · exact ht pre initrds r post' rfl

/-- A run that exports nothing has nothing to get wrong. -/
theorem ExportsPacked.of_notExport (h : ∀ e ∈ added, e.isPcrExport = false) :
    ExportsPacked added := by
  simpa using ExportsPacked.nil.append h

/-- An export of the archives packed so far keeps the run's exports right. -/
theorem ExportsPacked.append_export (ht : ExportsPacked trace) (r : Except Status Unit) :
    ExportsPacked (trace ++ [.exportPcrEfiVariables (trace.filterMap Event.packed) r]) := by
  intro pre initrds r' post h
  rcases List.eq_nil_or_concat post with rfl | ⟨post', e, rfl⟩
  · obtain ⟨rfl, h'⟩ := List.append_inj' h rfl
    simp only [List.cons.injEq, Event.exportPcrEfiVariables.injEq] at h'
    exact h'.1.1.symm
  · rw [List.concat_eq_append, ← List.cons_append, ← List.append_assoc] at h
    exact ht pre initrds r' post' (List.append_inj' h rfl).1

/-- A trace of events that pack nothing holds no archive. -/
theorem filterMap_packed_eq_nil (h : ∀ e ∈ trace, NotCompanion e) :
    trace.filterMap Event.packed = [] :=
  List.filterMap_eq_nil_iff.mpr fun e he => (h e he).1

/-- Events that neither pack nor export, put before a run, change none of its exports. -/
theorem ExportsPacked.notCompanion_append (hq : ∀ e ∈ trace, NotCompanion e)
    (h : ExportsPacked added) : ExportsPacked (trace ++ added) := by
  have hnone := filterMap_packed_eq_nil hq
  intro pre initrds r post hsplit
  rcases List.append_eq_append_iff.mp hsplit with ⟨a', rfl, h'⟩ | ⟨c', rfl, h'⟩
  · rw [h a' initrds r post h', List.filterMap_append, hnone, List.nil_append]
  rcases List.cons_eq_append_iff.mp h' with ⟨rfl, rfl⟩ | ⟨post', rfl, -⟩
  · rw [List.append_nil] at hnone
    rw [hnone]
    exact h [] initrds r post rfl
  · exact absurd (List.mem_append_right _ (List.mem_cons_self _ _))
      (exportPcr_not_mem (fun e he => (hq e he).2) _ _)

end ExportsPacked

/-- **What an action may add around the companion initrds**: from every run so far it only
appends events; each PCR export among them names the archives packed before it by the action
itself, and those are at most one of each kind, in order. -/
def HandsOnPacks {α : Type} (x : StubM α) : Prop :=
  ∀ trace, ∃ added, (x.run.run trace).2 = trace ++ added ∧ ExportsPacked added ∧
    PacksInOrder added

section HandsOnPacks

variable {α β : Type}

/-- A prefix that neither packs nor exports keeps what follows it right. -/
theorem HandsOnPacks.bind_of_notCompanion {x : StubM α} {f : α → StubM β}
    (hx : Appends NotCompanion x) (hf : ∀ a, HandsOnPacks (f a)) : HandsOnPacks (x >>= f) := by
  intro trace
  obtain ⟨added, hadded, hq⟩ := hx trace
  rw [run_bind]
  rcases hrun : x.run.run trace with ⟨_ | a, trace'⟩ <;> rw [hrun] at hadded <;> subst hadded
  · refine ⟨added, rfl, ?_, ?_⟩
    · exact ExportsPacked.of_notExport fun e he => (hq e he).2
    · simp only [PacksInOrder, filterMap_packed_eq_nil hq, List.map_nil, List.nil_sublist]
  · obtain ⟨added', hadded', hexports, horder⟩ := hf a (trace ++ added)
    refine ⟨added ++ added', by rw [hadded', List.append_assoc],
      ExportsPacked.notCompanion_append hq hexports, ?_⟩
    rwa [PacksInOrder, List.filterMap_append, filterMap_packed_eq_nil hq, List.nil_append]

/-- What follows, when it neither packs nor exports, keeps an action right. -/
theorem HandsOnPacks.bind_notCompanion {x : StubM α} {f : α → StubM β} (hx : HandsOnPacks x)
    (hf : ∀ a, Appends NotCompanion (f a)) : HandsOnPacks (x >>= f) := by
  intro trace
  obtain ⟨added, hadded, hexports, horder⟩ := hx trace
  rw [run_bind]
  rcases hrun : x.run.run trace with ⟨_ | a, trace'⟩ <;> rw [hrun] at hadded <;> subst hadded
  · exact ⟨added, rfl, hexports, horder⟩
  · obtain ⟨added', hadded', hq⟩ := hf a (trace ++ added)
    refine ⟨added ++ added', by rw [hadded', List.append_assoc],
      hexports.append fun e he => (hq e he).2, ?_⟩
    rwa [PacksInOrder, List.filterMap_append, filterMap_packed_eq_nil hq, List.append_nil]

end HandsOnPacks

variable (fw : Firmware)

/-- Packing the companion files of a kind makes one `pack_cpio` call and returns what it packed. -/
theorem packCompanion_run (kind : CompanionKind) (trace : Trace) :
    (packCompanion fw kind).run.run trace =
      (.ok ([Event.packCpio kind (fw.packCpio trace kind)].filterMap Event.packed),
        trace ++ [.packCpio kind (fw.packCpio trace kind)]) := by
  simp only [packCompanion, run_call_bind]
  rcases fw.packCpio trace kind with _ | _ | _ <;> rfl

/-- One `pack_cpio` call packs at most one archive, of its own kind. -/
theorem packCpio_kinds (kind : CompanionKind) (r : Except Status (Option Bytes)) :
    (([Event.packCpio kind r].filterMap Event.packed).map Prod.fst).Sublist [kind] := by
  rcases r with _ | _ | _ <;> simp [Event.packed]

/-- Collecting the companion initrds returns the archives its calls packed, exports no PCR and packs
in order. -/
theorem collectCompanionInitrds_run (trace : Trace) :
    ∃ added, (collectCompanionInitrds fw).run.run trace =
        (.ok (added.filterMap Event.packed), trace ++ added) ∧
      (∀ e ∈ added, e.isPcrExport = false) ∧ PacksInOrder added := by
  simp only [collectCompanionInitrds, run_call_bind]
  rcases fw.getImageFileSystem trace with s | u
  · exact ⟨[.getImageFileSystem (.error s)], rfl, by simp [Event.isPcrExport], List.nil_sublist _⟩
  · let g : Event := .getImageFileSystem (.ok u)
    let p₁ : Event := .packCpio .credentials (fw.packCpio (trace ++ [g]) .credentials)
    let p₂ : Event :=
      .packCpio .globalCredentials (fw.packCpio (trace ++ [g] ++ [p₁]) .globalCredentials)
    let p₃ : Event :=
      .packCpio .systemExtension (fw.packCpio (trace ++ [g] ++ [p₁] ++ [p₂]) .systemExtension)
    have hsplit : [g, p₁, p₂, p₃] = [g] ++ [p₁] ++ [p₂] ++ [p₃] := rfl
    refine ⟨[g, p₁, p₂, p₃], ?_, by simp [g, p₁, p₂, p₃, Event.isPcrExport], ?_⟩
    · rw [hsplit]
      simp only [run_bind, packCompanion_run, run_pure, List.filterMap_append, List.append_assoc,
        g, p₁, p₂, p₃]
      rfl
    · rw [PacksInOrder, hsplit, List.filterMap_append, List.filterMap_append,
        List.filterMap_append, List.map_append, List.map_append, List.map_append]
      exact (((List.nil_sublist []).append (packCpio_kinds .credentials _)).append
        (packCpio_kinds .globalCredentials _)).append (packCpio_kinds .systemExtension _)

/-- `unwrap` appends nothing, whether it returns or panics. -/
theorem Appends.unwrap {P : Event → Prop} {α ε : Type} {r : Except ε α} :
    Appends P (Stub.unwrap r) := by
  cases r
  exacts [Appends.throw _, Appends.pure _]

/-- **The preparation hands on what it packs**: its one PCR export names the archives its
`pack_cpio`s returned, and those are at most one of each kind, in order. -/
theorem prepareBoot_handsOnPacks : HandsOnPacks (prepareBoot fw) := by
  unfold prepareBoot
  refine .bind_of_notCompanion (Appends.call fun _ => ⟨rfl, rfl⟩) fun _ =>
    .bind_of_notCompanion (Appends.logIf ⟨rfl, rfl⟩) fun _ => ?_
  refine .bind_of_notCompanion (Appends.call fun _ => ⟨rfl, rfl⟩) fun _ =>
    .bind_of_notCompanion (Appends.logIf ⟨rfl, rfl⟩) fun _ => ?_
  refine .bind_of_notCompanion (Appends.call fun _ => ⟨rfl, rfl⟩) fun _ =>
    .bind_of_notCompanion Appends.unwrap fun _ => ?_
  refine .bind_of_notCompanion (Appends.call fun _ => ⟨rfl, rfl⟩) fun _ =>
    .bind_of_notCompanion Appends.expect fun _ => ?_
  refine .bind_of_notCompanion (Appends.call fun _ => ⟨rfl, rfl⟩) fun _ =>
    .bind_of_notCompanion Appends.expect fun _ => ?_
  intro trace
  obtain ⟨added, hrun, hexport, horder⟩ := collectCompanionInitrds_run fw trace
  rw [run_bind, hrun]
  simp only [run_call_bind, run_pure]
  refine ⟨added ++ [_], List.append_assoc _ _ _,
    (ExportsPacked.of_notExport hexport).append_export _, ?_⟩
  simpa [PacksInOrder, Event.packed] using horder

/-! ### Loading and booting neither pack nor export -/

/-- Reading a boot file packs and exports nothing. -/
theorem readBootFile_notCompanion (name : CString16)
    (openMessage kindMessage readMessage : String) :
    Appends NotCompanion (readBootFile fw name openMessage kindMessage readMessage) := by
  unfold readBootFile
  refine Appends.call_bind (fun _ => ⟨rfl, rfl⟩) fun _ => Appends.expect_bind fun _ => ?_
  refine Appends.expectRegularFile_bind fun _ => ?_
  exact Appends.call_bind (fun _ => ⟨rfl, rfl⟩) fun _ => Appends.expect

/-- Loading the boot files packs and exports nothing. -/
theorem loadBootFiles_notCompanion : Appends NotCompanion (loadBootFiles fw) := by
  unfold loadBootFiles
  refine Appends.call_bind (fun _ => ⟨rfl, rfl⟩) fun _ => Appends.unwrap_bind fun _ => ?_
  refine Appends.call_bind (fun _ => ⟨rfl, rfl⟩) fun _ => Appends.unwrap_bind fun _ => ?_
  refine Appends.expect_bind fun _ => ?_
  refine Appends.call_bind (fun _ => ⟨rfl, rfl⟩) fun _ => Appends.expect_bind fun _ => ?_
  refine Appends.call_bind (fun _ => ⟨rfl, rfl⟩) fun _ => Appends.expect_bind fun _ => ?_
  exact (readBootFile_notCompanion fw _ _ _ _).bind fun _ =>
    (readBootFile_notCompanion fw _ _ _ _).bind fun _ => Appends.pure _

variable (kernelData : Bytes) (kernelCmdline : CString16) (initrdData : Bytes)

/-- The unchecked boot packs and exports nothing. -/
theorem bootLinuxUnchecked_notCompanion :
    Appends NotCompanion (bootLinuxUnchecked fw kernelData kernelCmdline initrdData) := by
  unfold bootLinuxUnchecked
  refine (Appends.emit ⟨rfl, rfl⟩).bind fun _ => ?_
  refine Appends.call_bind (fun _ => ⟨rfl, rfl⟩) fun _ => Appends.expect_bind fun _ => ?_
  exact withInitrdLoader_appends fw initrdData (fun _ => ⟨rfl, rfl⟩)
    (Appends.call fun _ => ⟨rfl, rfl⟩) fun _ => ⟨rfl, rfl⟩

/-- The firmware boot packs and exports nothing. -/
theorem bootLinuxUefi_notCompanion :
    Appends NotCompanion (bootLinuxUefi fw kernelData kernelCmdline initrdData) := by
  unfold bootLinuxUefi
  refine (Appends.emit ⟨rfl, rfl⟩).bind fun _ => ?_
  refine Appends.call_bind (fun _ => ⟨rfl, rfl⟩) fun r => ?_
  rcases r with _ | ⟨⟩
  · exact Appends.pure _
  refine Appends.call_bind (fun _ => ⟨rfl, rfl⟩) fun r => ?_
  rcases r with _ | ⟨⟩
  · exact Appends.pure _
  refine Appends.unwrapU32_bind fun _ => (Appends.emit ⟨rfl, rfl⟩).bind fun _ => ?_
  exact withInitrdLoader_appends fw initrdData (fun _ => ⟨rfl, rfl⟩)
    (Appends.call fun _ => ⟨rfl, rfl⟩) fun _ => ⟨rfl, rfl⟩

variable (digest : Bytes → Hash)

/-- `verify_and_boot` hands every PCR export the archives packed before it, in order. -/
theorem verifyAndBoot_handsOnPacks (config : EmbeddedConfiguration) :
    HandsOnPacks (verifyAndBoot fw digest config kernelData initrdData) := by
  unfold verifyAndBoot
  refine .bind_of_notCompanion (Appends.logIf ⟨rfl, rfl⟩) fun _ =>
    .bind_of_notCompanion (Appends.logIf ⟨rfl, rfl⟩) fun _ => ?_
  refine (prepareBoot_handsOnPacks fw).bind_notCompanion fun _ => Appends.ite ?_ ?_
  · exact (bootLinuxUnchecked_notCompanion fw _ _ _).bind fun _ => Appends.pure _
  · exact (Appends.emit ⟨rfl, rfl⟩).bind fun _ =>
      (bootLinuxUefi_notCompanion fw _ _ _).bind fun _ => Appends.pure _

/-- **The PCR variables name the companion initrds packed.** For every firmware and every digest
function, each export of the PCR variables in a run of `main` is handed exactly the archives the
`pack_cpio` calls before it returned, each with its kind, in their order; and the archives a
run packs are at most one of each kind, credentials before global credentials before system
extensions. -/
theorem main_exports_packed_initrds (fw : Firmware) (digest : Bytes → Hash) :
    ExportsPacked (runMain fw digest).2 ∧ PacksInOrder (runMain fw digest).2 := by
  obtain ⟨added, hadded, hexports, horder⟩ :=
    HandsOnPacks.bind_of_notCompanion (loadBootFiles_notCompanion fw)
      (fun _ => verifyAndBoot_handsOnPacks fw _ _ digest _) []
  rw [runMain, main, hadded, List.nil_append]
  exact ⟨hexports, horder⟩

/-- The example's firmware, with a credentials archive and a system extension on the volume,
and no global credentials. -/
def companionFirmware : Firmware :=
  { exampleFirmware with
    packCpio := fun _ kind => if kind = .globalCredentials then .ok none else .ok (some [7]) }

theorem companionFirmware_exports_packed_initrds :
    ExportsPacked (runMain companionFirmware exampleDigest).2 ∧
      PacksInOrder (runMain companionFirmware exampleDigest).2 ∧
      Event.exportPcrEfiVariables [(.credentials, [7]), (.systemExtension, [7])] (.ok ()) ∈
        (runMain companionFirmware exampleDigest).2 :=
  ⟨(main_exports_packed_initrds companionFirmware exampleDigest).1,
    (main_exports_packed_initrds companionFirmware exampleDigest).2, by decide⟩

end Stub
