import Lanzaboote.Stub

/-!
# The stub boots unchecked only what it verified

Secure Boot has checked the stub, and the stub vouches for the kernel: it starts the kernel from
a buffer with its own PE loader, past the firmware's signature check, only when the kernel and
the initrd it read hash to the digests embedded in its own image. This module proves that over
every run of `main`: every firmware, every boot volume, every booted image, every digest
function (`Stub.main_boot_safety`).

The proof says once what each part of `main` can add to a run (`Stub.Appends`). Loading and
preparing add no boot event at all. Each boot function adds only events of its own path, and
hands on exactly the buffers and the command line it was given. And the part of `main` that
reads the two files ends, when it does not panic, with one exact sequence of events: the
image, the configuration extracted from it, and the two reads by the names the configuration
gives (`Stub.loadBootFiles_ok`). Put together, every boot event of a run comes after those
reads, passes their bytes and the configuration's command line, and belongs to the unchecked
path only when both digests matched.
-/

namespace Event

/-- The events of the unchecked path: `boot_linux_unchecked`, `Image::load`, `kernel.start`. -/
def isUnchecked : Event → Bool
  | .bootLinuxUnchecked .. | .imageLoad .. | .kernelStart .. => true
  | _ => false

/-- The events of the firmware path: `boot_linux_uefi`, `LoadImage`, the loaded image's
protocol, its load options and `StartImage`. -/
def isUefi : Event → Bool
  | .bootLinuxUefi .. | .loadImage .. | .openLoadedImage .. | .setLoadOptions .. | .startImage .. =>
    true
  | _ => false

/-- The events both paths share: installing and uninstalling the initrd loader. -/
def isInitrdLoader : Event → Bool
  | .initrdLoaderNew .. | .initrdLoaderUninstall .. => true
  | _ => false

/-- **A boot event**: an event of either path. -/
def isBoot (e : Event) : Bool := e.isUnchecked || e.isUefi || e.isInitrdLoader

/-- **The event hands on these buffers and this command line**, as far as it hands on any. -/
def Passes (kernelData : Bytes) (kernelCmdline : CString16) (initrdData : Bytes) : Event → Prop
  | .bootLinuxUnchecked k c i | .bootLinuxUefi k c i =>
    k = kernelData ∧ c = kernelCmdline ∧ i = initrdData
  | .imageLoad k _ | .loadImage k _ => k = kernelData
  | .initrdLoaderNew i _ => i = initrdData
  | .kernelStart c _ | .setLoadOptions c _ => c = kernelCmdline
  | _ => True

end Event

namespace Stub

/-! ## Runs, one equation per operation -/

/-- Running `x >>= f` runs `x` and, when it returns, `f` on its value from the trace `x` left. -/
theorem run_bind {α β : Type} (x : StubM α) (f : α → StubM β) (trace : Trace) :
    (x >>= f).run.run trace = match x.run.run trace with
      | (.ok a, trace') => (f a).run.run trace'
      | (.error e, trace') => (.error e, trace') := by
  simp only [ExceptT.run_bind, StateT.run_bind]
  rcases x.run.run trace with ⟨_ | _, _⟩ <;> rfl

/-- A firmware call returns the firmware's answer and records the call with it. -/
@[simp] theorem run_call {α : Type} (answer : Trace → α) (event : α → Event) (trace : Trace) :
    (call answer event).run.run trace = (.ok (answer trace), trace ++ [event (answer trace)]) :=
  rfl

/-- An emitted event is recorded and nothing else happens. -/
@[simp] theorem run_emit (event : Event) (trace : Trace) :
    (emit event).run.run trace = (.ok (), trace ++ [event]) := rfl

/-- `pure` returns its value and records nothing. -/
@[simp] theorem run_pure {α : Type} (a : α) (trace : Trace) :
    (pure a : StubM α).run.run trace = (.ok a, trace) := rfl

/-- A panic stops the run and records nothing. -/
@[simp] theorem run_throw {α : Type} (p : Panic) (trace : Trace) :
    (throw p : StubM α).run.run trace = (.error p, trace) := rfl

/-- A run of `x >>= f` returns exactly when `x` does and `f` does from where `x` left off. -/
theorem run_bind_ok {α β : Type} {x : StubM α} {f : α → StubM β} {trace trace'' : Trace} {b : β} :
    (x >>= f).run.run trace = (.ok b, trace'') ↔
      ∃ a trace', x.run.run trace = (.ok a, trace') ∧ (f a).run.run trace' = (.ok b, trace'') := by
  rw [run_bind]
  rcases x.run.run trace with ⟨_ | a, trace'⟩
  · exact ⟨fun h => (by cases h), fun ⟨_, _, h, _⟩ => (by cases h)⟩
  · exact ⟨fun h => ⟨a, trace', rfl, h⟩, fun ⟨_, _, h, h'⟩ => (by cases h; exact h')⟩

/-- After a firmware call the run goes on with its answer, the call recorded. -/
@[simp] theorem run_call_bind {α β : Type} (answer : Trace → α) (event : α → Event)
    (f : α → StubM β) (trace : Trace) :
    (call answer event >>= f).run.run trace =
      (f (answer trace)).run.run (trace ++ [event (answer trace)]) := by
  rw [run_bind, run_call]

/-- `pure a` returns `b` exactly when `a = b`, and leaves the trace as it was. -/
@[simp] theorem run_pure_ok {α : Type} {a b : α} {trace trace' : Trace} :
    (pure a : StubM α).run.run trace = (.ok b, trace') ↔ a = b ∧ trace = trace' :=
  ⟨fun h => (by cases h; exact ⟨rfl, rfl⟩), fun ⟨h, h'⟩ => (by cases h; cases h'; rfl)⟩

/-- `unwrap` returns exactly on an `Ok`, and records nothing. -/
@[simp] theorem run_unwrap_ok {α ε : Type} {r : Except ε α} {a : α} {trace trace' : Trace} :
    (unwrap r).run.run trace = (.ok a, trace') ↔ r = .ok a ∧ trace' = trace := by
  cases r
  · exact ⟨fun h => (by cases h), fun ⟨h, _⟩ => (by cases h)⟩
  · exact ⟨fun h => (by cases h; exact ⟨rfl, rfl⟩), fun ⟨h, h'⟩ => (by cases h; cases h'; rfl)⟩

/-- `expect` returns exactly on an `Ok`, and records nothing. -/
@[simp] theorem run_expect_ok {α ε : Type} {r : Except ε α} {message : String} {a : α}
    {trace trace' : Trace} :
    (expect r message).run.run trace = (.ok a, trace') ↔ r = .ok a ∧ trace' = trace := by
  cases r
  · exact ⟨fun h => (by cases h), fun ⟨h, _⟩ => (by cases h)⟩
  · exact ⟨fun h => (by cases h; exact ⟨rfl, rfl⟩), fun ⟨h, h'⟩ => (by cases h; cases h'; rfl)⟩

/-- The check on a file's kind returns exactly on a regular file, and records nothing. -/
@[simp] theorem run_expectRegularFile_ok {kind : FileKind} {message : String} {u : Unit}
    {trace trace' : Trace} :
    (expectRegularFile kind message).run.run trace = (.ok u, trace') ↔
      kind = .regular ∧ trace' = trace := by
  cases kind
  · exact ⟨fun h => (by cases h; exact ⟨rfl, rfl⟩), fun ⟨_, h'⟩ => (by cases h'; rfl)⟩
  · exact ⟨fun h => (by cases h), fun ⟨h, _⟩ => (by cases h)⟩

/-! ## What an action adds to a run -/

/-- **What an action may add to a run**: from every run so far, whether it panics or not, it
only appends events, and all of them satisfy `P`. -/
def Appends {α : Type} (P : Event → Prop) (x : StubM α) : Prop :=
  ∀ trace, ∃ added, (x.run.run trace).2 = trace ++ added ∧ ∀ e ∈ added, P e

section Appends

variable {P Q : Event → Prop} {α β : Type}

/-- What `x` appends followed by what each continuation appends is what `x >>= f` appends. -/
theorem Appends.bind {x : StubM α} {f : α → StubM β} (hx : Appends P x)
    (hf : ∀ a, Appends P (f a)) : Appends P (x >>= f) := by
  intro trace
  obtain ⟨added, hadded, hP⟩ := hx trace
  rw [run_bind]
  rcases hrun : x.run.run trace with ⟨_ | a, trace'⟩ <;> rw [hrun] at hadded <;> subst hadded
  · exact ⟨added, rfl, hP⟩
  · obtain ⟨added', hadded', hP'⟩ := hf a (trace ++ added)
    refine ⟨added ++ added', by rw [hadded', List.append_assoc], fun e he => ?_⟩
    rcases List.mem_append.mp he with he | he
    exacts [hP e he, hP' e he]

/-- `pure` appends nothing. -/
theorem Appends.pure (a : α) : Appends P (pure a : StubM α) :=
  fun _ => ⟨[], (List.append_nil _).symm, fun _ h => absurd h (List.not_mem_nil _)⟩

/-- A panic appends nothing. -/
theorem Appends.throw (p : Panic) : Appends P (throw p : StubM α) :=
  fun _ => ⟨[], (List.append_nil _).symm, fun _ h => absurd h (List.not_mem_nil _)⟩

/-- A firmware call appends its one event. -/
theorem Appends.call {answer : Trace → α} {event : α → Event} (h : ∀ a, P (event a)) :
    Appends P (call answer event) :=
  fun _ => ⟨[_], rfl, fun _ he => (List.mem_singleton.mp he) ▸ h _⟩

/-- An emitted event appends itself. -/
theorem Appends.emit {event : Event} (h : P event) : Appends P (emit event) :=
  fun _ => ⟨[event], rfl, fun _ he => (List.mem_singleton.mp he) ▸ h⟩

/-- `Appends` weakens along its predicate. -/
theorem Appends.mono {x : StubM α} (hPQ : ∀ e, P e → Q e) (hx : Appends P x) : Appends Q x :=
  fun trace => (hx trace).imp fun _ h => ⟨h.1, fun e he => hPQ e (h.2 e he)⟩

/-- An `if` appends what both its branches may append. -/
theorem Appends.ite {c : Prop} [Decidable c] {x y : StubM α} (hx : Appends P x)
    (hy : Appends P y) : Appends P (if c then x else y) := by
  split
  exacts [hx, hy]

/-- A call and then actions appending `P`-events append `P`-events, the call's included. -/
theorem Appends.call_bind {answer : Trace → α} {event : α → Event} {f : α → StubM β}
    (h : ∀ a, P (event a)) (hf : ∀ a, Appends P (f a)) :
    Appends P (Stub.call answer event >>= f) :=
  (Appends.call h).bind hf

/-- `unwrap` adds no event of its own. -/
theorem Appends.unwrap_bind {ε : Type} {r : Except ε α} {f : α → StubM β}
    (hf : ∀ a, Appends P (f a)) : Appends P (unwrap r >>= f) := by
  cases r
  exacts [(Appends.throw _).bind hf, (Appends.pure _).bind hf]

/-- `expect` appends nothing, whether it returns or panics. -/
theorem Appends.expect {ε : Type} {r : Except ε α} {message : String} :
    Appends P (Stub.expect r message) := by
  cases r
  exacts [Appends.throw _, Appends.pure _]

/-- The conversion to `u32` appends nothing, whether it returns or panics. -/
theorem Appends.unwrapU32 {n : Nat} : Appends P (Stub.unwrapU32 n) :=
  Appends.ite (Appends.pure _) (Appends.throw _)

/-- `expect` adds no event of its own. -/
theorem Appends.expect_bind {ε : Type} {r : Except ε α} {message : String} {f : α → StubM β}
    (hf : ∀ a, Appends P (f a)) : Appends P (Stub.expect r message >>= f) :=
  Appends.expect.bind hf

/-- The check on a file's kind adds no event of its own. -/
theorem Appends.expectRegularFile_bind {kind : FileKind} {message : String} {f : Unit → StubM β}
    (hf : ∀ a, Appends P (f a)) : Appends P (expectRegularFile kind message >>= f) := by
  cases kind
  exacts [(Appends.pure _).bind hf, (Appends.throw _).bind hf]

/-- A conditional log appends at most its log line. -/
theorem Appends.logIf {condition : Bool} {message : String} (h : P (.log message)) :
    Appends P (logIf condition message) :=
  Appends.ite (Appends.emit h) (Appends.pure _)

/-- The conversion to `u32` adds no event of its own. -/
theorem Appends.unwrapU32_bind {n : Nat} {f : UInt32 → StubM β} (hf : ∀ a, Appends P (f a)) :
    Appends P (Stub.unwrapU32 n >>= f) :=
  Appends.unwrapU32.bind hf

end Appends

/-! ## Loading and preparing add no boot event -/

variable (fw : Firmware)

/-- An event that is not a boot event. -/
def NotBoot (e : Event) : Prop := e.isBoot = false

/-- Reading a boot file boots nothing. -/
theorem readBootFile_appends (name : CString16) (openMessage kindMessage readMessage : String) :
    Appends NotBoot (readBootFile fw name openMessage kindMessage readMessage) := by
  unfold readBootFile
  refine Appends.call_bind (fun _ => rfl) fun _ => Appends.expect_bind fun _ => ?_
  refine Appends.expectRegularFile_bind fun _ => ?_
  exact Appends.call_bind (fun _ => rfl) fun _ => Appends.expect

/-- Loading the configuration, the kernel and the initrd boots nothing. -/
theorem loadBootFiles_appends : Appends NotBoot (loadBootFiles fw) := by
  unfold loadBootFiles
  refine Appends.call_bind (fun _ => rfl) fun _ => Appends.unwrap_bind fun _ => ?_
  refine Appends.call_bind (fun _ => rfl) fun _ => Appends.unwrap_bind fun _ => ?_
  refine Appends.expect_bind fun _ => ?_
  refine Appends.call_bind (fun _ => rfl) fun _ => Appends.expect_bind fun _ => ?_
  refine Appends.call_bind (fun _ => rfl) fun _ => Appends.expect_bind fun _ => ?_
  exact (readBootFile_appends fw _ _ _ _).bind fun _ =>
    (readBootFile_appends fw _ _ _ _).bind fun _ => Appends.pure _

/-- A log line boots nothing. -/
theorem logIf_appends (condition : Bool) (message : String) :
    Appends NotBoot (logIf condition message) :=
  Appends.logIf rfl

/-- Packing the companion files of a kind boots nothing. -/
theorem packCompanion_appends (kind : CompanionKind) : Appends NotBoot (packCompanion fw kind) :=
  Appends.call_bind (fun _ => rfl) fun r => by
    rcases r with _ | _ | _ <;> exact Appends.pure _

/-- Collecting the companion initrds boots nothing. -/
theorem collectCompanionInitrds_appends : Appends NotBoot (collectCompanionInitrds fw) :=
  Appends.call_bind (fun _ => rfl) fun r => by
    rcases r with _ | ⟨⟩
    · exact Appends.pure _
    · exact (packCompanion_appends fw _).bind fun _ => (packCompanion_appends fw _).bind
        fun _ => (packCompanion_appends fw _).bind fun _ => Appends.pure _

/-- Everything `main` does before `verify_and_boot` boots nothing. -/
theorem prepareBoot_appends : Appends NotBoot (prepareBoot fw) := by
  unfold prepareBoot
  refine Appends.call_bind (fun _ => rfl) fun _ => (logIf_appends _ _).bind fun _ => ?_
  refine Appends.call_bind (fun _ => rfl) fun _ => (logIf_appends _ _).bind fun _ => ?_
  refine Appends.call_bind (fun _ => rfl) fun _ => Appends.unwrap_bind fun _ => ?_
  refine Appends.call_bind (fun _ => rfl) fun _ => Appends.expect_bind fun _ => ?_
  refine Appends.call_bind (fun _ => rfl) fun _ => Appends.expect_bind fun _ => ?_
  exact (collectCompanionInitrds_appends fw).bind fun _ =>
    Appends.call_bind (fun _ => rfl) fun _ => Appends.pure _

/-! ## Each boot function hands on what it is given -/

variable (kernelData : Bytes) (kernelCmdline : CString16) (initrdData : Bytes)

/-- **The initrd loader's events**: the installation, what the start adds, the uninstallation. -/
theorem withInitrdLoader_appends {P : Event → Prop} {start : StubM Status}
    (hnew : ∀ r, P (.initrdLoaderNew initrdData r)) (hstart : Appends P start)
    (huninstall : ∀ r, P (.initrdLoaderUninstall r)) :
    Appends P (withInitrdLoader fw initrdData start) := by
  unfold withInitrdLoader
  refine Appends.call_bind hnew fun r => ?_
  rcases r with _ | ⟨⟩
  · exact Appends.pure _
  refine hstart.bind fun _ => Appends.call_bind huninstall fun r => ?_
  rcases r with _ | ⟨⟩ <;> exact Appends.pure _

/-- **The unchecked boot stays on its path**: the boot events it adds are not of the firmware
path, and each hands on the buffers and the command line `boot_linux_unchecked` was given. -/
theorem bootLinuxUnchecked_appends :
    Appends (fun e => e.isBoot = true → e.Passes kernelData kernelCmdline initrdData ∧
      e.isUefi = false) (bootLinuxUnchecked fw kernelData kernelCmdline initrdData) := by
  unfold bootLinuxUnchecked
  refine (Appends.emit fun _ => ⟨⟨rfl, rfl, rfl⟩, rfl⟩).bind fun _ => ?_
  refine Appends.call_bind (fun _ _ => ⟨rfl, rfl⟩) fun _ => Appends.expect_bind fun _ => ?_
  exact withInitrdLoader_appends fw initrdData (fun _ _ => ⟨rfl, rfl⟩)
    (Appends.call fun _ _ => ⟨rfl, rfl⟩) fun _ _ => ⟨trivial, rfl⟩

/-- **The firmware boot stays on its path**: the boot events it adds are not of the unchecked
path, and each hands on the buffers and the command line `boot_linux_uefi` was given. -/
theorem bootLinuxUefi_appends :
    Appends (fun e => e.isBoot = true → e.Passes kernelData kernelCmdline initrdData ∧
      e.isUnchecked = false) (bootLinuxUefi fw kernelData kernelCmdline initrdData) := by
  unfold bootLinuxUefi
  refine (Appends.emit fun _ => ⟨⟨rfl, rfl, rfl⟩, rfl⟩).bind fun _ => ?_
  refine Appends.call_bind (fun _ _ => ⟨rfl, rfl⟩) fun r => ?_
  rcases r with _ | ⟨⟩
  · exact Appends.pure _
  refine Appends.call_bind (fun _ _ => ⟨trivial, rfl⟩) fun r => ?_
  rcases r with _ | ⟨⟩
  · exact Appends.pure _
  refine Appends.unwrapU32_bind fun _ => (Appends.emit fun _ => ⟨rfl, rfl⟩).bind fun _ => ?_
  exact withInitrdLoader_appends fw initrdData (fun _ _ => ⟨rfl, rfl⟩)
    (Appends.call fun _ _ => ⟨trivial, rfl⟩) fun _ _ => ⟨trivial, rfl⟩

/-! ## The verified boot -/

variable (digest : Bytes → Hash)

/-- **What the verified boot may add**: boot events only, as far as they hand on anything, with
the buffers read and the configuration's command line; events of the unchecked path only when
both digests match; events of the firmware path only when one does not. -/
def VerifiedBootEvent (config : EmbeddedConfiguration) (e : Event) : Prop :=
  e.isBoot = true → e.Passes kernelData config.cmdline initrdData ∧
    (e.isUnchecked = true → digest kernelData = config.kernelHash ∧
      digest initrdData = config.initrdHash) ∧
    (e.isUefi = true → ¬(digest kernelData = config.kernelHash ∧
      digest initrdData = config.initrdHash))

/-- An event that is not a boot event satisfies every condition put on boot events. -/
theorem notBoot_imp {Q : Event → Prop} (e : Event) (h : NotBoot e) : e.isBoot = true → Q e :=
  fun hb => absurd (h.symm.trans hb) Bool.false_ne_true

/-- `verify_and_boot` adds only the events `VerifiedBootEvent` allows. -/
theorem verifyAndBoot_appends (config : EmbeddedConfiguration) :
    Appends (VerifiedBootEvent kernelData initrdData digest config)
      (verifyAndBoot fw digest config kernelData initrdData) := by
  unfold verifyAndBoot
  refine ((logIf_appends _ _).mono notBoot_imp).bind fun _ => ?_
  refine ((logIf_appends _ _).mono notBoot_imp).bind fun _ => ?_
  refine ((prepareBoot_appends fw).mono notBoot_imp).bind fun _ => ?_
  split
  · next hok =>
    simp only [Bool.and_eq_true, decide_eq_true_eq] at hok
    refine ((bootLinuxUnchecked_appends fw _ _ _).mono fun e he hb => ?_).bind
      fun _ => Appends.pure _
    obtain ⟨hpass, huefi⟩ := he hb
    exact ⟨hpass, fun _ => hok, fun h => absurd (huefi.symm.trans h) Bool.false_ne_true⟩
  · next hbad =>
    simp only [Bool.and_eq_true, decide_eq_true_eq] at hbad
    refine (Appends.emit fun hb => absurd hb Bool.false_ne_true).bind fun _ => ?_
    refine ((bootLinuxUefi_appends fw _ _ _).mono fun e he hb => ?_).bind
      fun _ => Appends.pure _
    obtain ⟨hpass, hunchecked⟩ := he hb
    exact ⟨hpass, fun h => absurd (hunchecked.symm.trans h) Bool.false_ne_true, fun _ => hbad⟩

/-! ## What `main` has read when it boots -/

/-- **The events of a load that did not panic**: the image the stub was booted from, then the
kernel and the initrd, each opened as a regular file by the name the configuration gives and
read whole. -/
def loadedEvents (image : PE) (config : EmbeddedConfiguration) (kernelData initrdData : Bytes) :
    Trace :=
  [.servicesInit (.ok ()), .bootedImageFile (.ok image), .getImageFileSystem (.ok ()),
    .openVolume (.ok ()), .openFile config.kernelFilename (.ok .regular),
    .readAll config.kernelFilename (.ok kernelData), .openFile config.initrdFilename (.ok .regular),
    .readAll config.initrdFilename (.ok initrdData)]

/-- **A read that does not panic** appends the file's opening as a regular file and the read that
returned its bytes, which the firmware's `read_all` answered. -/
theorem readBootFile_ok {name : CString16} {openMessage kindMessage readMessage : String}
    {trace trace' : Trace} {data : Bytes}
    (h : (readBootFile fw name openMessage kindMessage readMessage).run.run trace =
      (.ok data, trace')) :
    trace' = trace ++ [.openFile name (.ok .regular), .readAll name (.ok data)] ∧
      ∃ t, fw.readAll t name = .ok data := by
  simp only [readBootFile, run_bind_ok, run_call_bind, run_expect_ok,
    run_expectRegularFile_ok] at h
  obtain ⟨_, _, ⟨hopen, rfl⟩, ⟨⟩, _, ⟨rfl, rfl⟩, hread, rfl⟩ := h
  refine ⟨?_, _, hread⟩
  rw [hread, hopen, List.append_assoc, List.singleton_append]

/-- **A load that does not panic** appends exactly `loadedEvents`, with the configuration
extracted from the image it records and the bytes of the two reads it records, each an answer
of the firmware's `read_all` for the name the configuration gives. -/
theorem loadBootFiles_ok {trace trace' : Trace} {config : EmbeddedConfiguration}
    {kernelData initrdData : Bytes}
    (h : (loadBootFiles fw).run.run trace = (.ok (config, kernelData, initrdData), trace')) :
    ∃ image, trace' = trace ++ loadedEvents image config kernelData initrdData ∧
      EmbeddedConfiguration.new image = .ok config ∧
      (∃ t, fw.readAll t config.kernelFilename = .ok kernelData) ∧
      ∃ t, fw.readAll t config.initrdFilename = .ok initrdData := by
  simp only [loadBootFiles, run_bind_ok, run_call_bind, run_unwrap_ok, run_expect_ok,
    run_pure_ok, Prod.mk.injEq] at h
  obtain ⟨⟨⟩, _, ⟨hinit, rfl⟩, image, _, ⟨himage, rfl⟩, _, _, ⟨hcfg, rfl⟩, ⟨⟩, _, ⟨hfs, rfl⟩,
    ⟨⟩, _, ⟨hvol, rfl⟩, _, _, hkernel, _, _, hinitrd, ⟨rfl, rfl, rfl⟩, rfl⟩ := h
  obtain ⟨hk, hkread⟩ := readBootFile_ok fw hkernel
  obtain ⟨hi, hiread⟩ := readBootFile_ok fw hinitrd
  refine ⟨image, ?_, hcfg, hkread, hiread⟩
  rw [hi, hk, hvol, hfs, himage, hinit]
  simp only [loadedEvents, List.append_assoc, List.singleton_append, List.cons_append,
    List.nil_append]

/-- None of the events of loading the boot files is a boot event. -/
theorem loadedEvents_notBoot (image : PE) (config : EmbeddedConfiguration)
    (kernelData initrdData : Bytes) :
    ∀ e ∈ loadedEvents image config kernelData initrdData, e.isBoot = false := by
  intro e he
  simp only [loadedEvents, List.mem_cons, List.mem_singleton, List.not_mem_nil, or_false] at he
  rcases he with rfl | rfl | rfl | rfl | rfl | rfl | rfl | rfl <;> rfl

/-! ## The boot is safe -/

/-- **Every boot event of a run follows a complete load.** It comes after the events of a load
that did not panic, with the configuration of the booted image and two answers of the
firmware's `read_all`, and it is a verified boot event for them. -/
theorem boot_event_after_load {e : Event} (he : e ∈ (runMain fw digest).2)
    (hboot : e.isBoot = true) :
    ∃ image config kernelData initrdData rest,
      (runMain fw digest).2 = loadedEvents image config kernelData initrdData ++ rest ∧
      EmbeddedConfiguration.new image = .ok config ∧ e ∈ rest ∧
      ((∃ t, fw.readAll t config.kernelFilename = .ok kernelData) ∧
        ∃ t, fw.readAll t config.initrdFilename = .ok initrdData) ∧
      VerifiedBootEvent kernelData initrdData digest config e := by
  have hmain := run_bind (loadBootFiles fw)
    (fun r => verifyAndBoot fw digest r.1 r.2.1 r.2.2) []
  obtain ⟨loaded, hloaded, hnb⟩ := loadBootFiles_appends fw []
  rcases hload : (loadBootFiles fw).run.run [] with
    ⟨_ | ⟨config, kernelData, initrdData⟩, trace⟩ <;> rw [hload] at hmain hloaded
  · -- a panic while loading: no boot event at all
    subst hloaded
    rw [runMain, main, hmain] at he
    exact absurd hboot (by rw [hnb e he]; exact Bool.false_ne_true)
  · obtain ⟨image, rfl, hcfg, hreads⟩ := loadBootFiles_ok fw hload
    obtain ⟨added, hadded, hQ⟩ := verifyAndBoot_appends fw kernelData initrdData digest config
      ([] ++ loadedEvents image config kernelData initrdData)
    have htrace :
        (runMain fw digest).2 = loadedEvents image config kernelData initrdData ++ added := by
      rw [runMain, main, hmain]
      simpa using hadded
    rw [htrace] at he ⊢
    rcases List.mem_append.mp he with hl | ha
    · exact absurd hboot (by rw [loadedEvents_notBoot _ _ _ _ e hl]; exact Bool.false_ne_true)
    · exact ⟨image, config, kernelData, initrdData, added, rfl, hcfg, ha, hreads, hQ e ha⟩

/-- **`main` boots unchecked only what it verified.** For every firmware and boot volume, every
booted image and every digest function, each boot event of a run of `main` comes after the
image the stub was booted from, the configuration extracted from it, and the reads of the
kernel and the initrd by the names it gives. The event hands on exactly the bytes of those two
reads and the configuration's command line; it is an event of the unchecked path
(`boot_linux_unchecked`, `Image::load`, `kernel.start`) only when both digests match the
configuration's, and an event of the firmware path (`boot_linux_uefi` and its `LoadImage`) only
when one of them does not. -/
theorem main_boot_safety (fw : Firmware) (digest : Bytes → Hash) :
    ∀ e ∈ (runMain fw digest).2, e.isBoot = true →
      ∃ image config kernelData initrdData rest,
        (runMain fw digest).2 = loadedEvents image config kernelData initrdData ++ rest ∧
        EmbeddedConfiguration.new image = .ok config ∧ e ∈ rest ∧
        e.Passes kernelData config.cmdline initrdData ∧
        (e.isUnchecked = true →
          digest kernelData = config.kernelHash ∧ digest initrdData = config.initrdHash) ∧
        (e.isUefi = true →
          ¬(digest kernelData = config.kernelHash ∧ digest initrdData = config.initrdHash)) := by
  intro e he hboot
  obtain ⟨image, config, kernelData, initrdData, rest, htrace, hcfg, hmem, -, hverified⟩ :=
    boot_event_after_load fw digest he hboot
  exact ⟨image, config, kernelData, initrdData, rest, htrace, hcfg, hmem, hverified hboot⟩

end Stub

namespace Stub

/-- The digest the example configuration gives the kernel. -/
def kernelDigest : Hash := ⟨List.replicate 32 1, rfl⟩

/-- The digest the example configuration gives the initrd. -/
def initrdDigest : Hash := ⟨List.replicate 32 2, rfl⟩

/-- A stub image as `lzbt` should build it: the five sections `EmbeddedConfiguration::new`
reads, naming `\k` and `\i` with their digests and the command line `quiet`. -/
def exampleImage : PE :=
  ⟨⟨none⟩, [⟨".kernelp", 0, 0, utf8Encode "\\k".toList⟩,
    ⟨".kernelh", 0, 0, kernelDigest.bytes⟩,
    ⟨".initrdp", 0, 0, utf8Encode "\\i".toList⟩, ⟨".initrdh", 0, 0, initrdDigest.bytes⟩,
    ⟨".cmdline", 0, 0, utf8Encode "quiet".toList⟩]⟩

/-- The kernel's file name in the example configuration. -/
def exampleKernelName : CString16 := (CString16.tryFrom "\\k".toList).get (by decide)

/-- The example volume: the kernel `[1]` under its name, and `[2]` under every other name. -/
def exampleContent (name : CString16) : Bytes := if name = exampleKernelName then [1] else [2]

/-- A firmware under which everything succeeds: it boots `exampleImage`, and `read_all` reads the
example volume. -/
def exampleFirmware : Firmware where
  servicesInit _ := .ok ()
  bootedImageFile _ := .ok exampleImage
  getImageFileSystem _ := .ok ()
  openVolume _ := .ok ()
  openFile _ _ := .ok .regular
  readAll _ name := .ok (exampleContent name)
  tpmAvailable _ := false
  getLoaderFeatures _ := .ok false
  measureImage _ _ := .ok 0
  exportEfiVariables _ := .ok ()
  packCpio _ _ := .ok none
  exportPcrEfiVariables _ _ := .ok ()
  imageLoad _ _ := .ok ()
  initrdLoaderNew _ _ := .ok ()
  kernelStart _ _ := .success
  initrdLoaderUninstall _ := .ok ()
  loadImage _ _ := .ok ()
  openLoadedImage _ := .ok ()
  startImage _ := .success

/-- A digest function that matches the example configuration. -/
def exampleDigest (b : Bytes) : Hash := if b = [1] then kernelDigest else initrdDigest

/-- The example's command line. -/
def exampleCmdline : CString16 := (CString16.tryFrom "quiet".toList).get (by decide)

theorem exampleFirmware_boot_safety :
    ∃ image config kernelData initrdData rest,
      (runMain exampleFirmware exampleDigest).2 =
        loadedEvents image config kernelData initrdData ++ rest ∧
      EmbeddedConfiguration.new image = .ok config ∧
      Event.bootLinuxUnchecked [1] exampleCmdline [2] ∈ rest ∧
      (Event.bootLinuxUnchecked [1] exampleCmdline [2]).Passes kernelData config.cmdline
        initrdData ∧
      ((Event.bootLinuxUnchecked [1] exampleCmdline [2]).isUnchecked = true →
        exampleDigest kernelData = config.kernelHash ∧
          exampleDigest initrdData = config.initrdHash) ∧
      ((Event.bootLinuxUnchecked [1] exampleCmdline [2]).isUefi = true →
        ¬(exampleDigest kernelData = config.kernelHash ∧
          exampleDigest initrdData = config.initrdHash)) :=
  main_boot_safety exampleFirmware exampleDigest _ (by decide) rfl

end Stub
