import Lanzaboote.BootSafety

/-!
# The initrd loader lives as long as the kernel

Both boot functions hand the initrd to the kernel through `InitrdLoader`
(`Stub.withInitrdLoader`): they install the loader, start the kernel (`kernel.start` on the
unchecked path, `StartImage` on the firmware's), and uninstall the loader when the kernel
returns. Nothing between the installation and the uninstallation can panic, and `main` does
nothing more once the boot function has returned.

This module proves over every run of `main` that the loader is scoped to the kernel's run
(`Stub.main_initrd_loader_scoped`): when a run installs the loader, that installation is its
only one, its last three events are the installation, the start of the kernel and the
uninstallation, whatever the uninstallation answered, and `main` returns a status to the
firmware instead of panicking.

The proof says once what an action that may install the loader adds to a run
(`Stub.Scoped`), as `Stub.Appends` does for the boot events, and carries it through `main` by
two rules: one for a prefix that installs nothing (`Stub.Scoped.bind_of_appends`) and one for a
suffix that only returns (`Stub.Scoped.bind_pure`).
-/

namespace Event

/-- The start of the kernel: `kernel.start` on the unchecked path, `StartImage` on the
firmware's. -/
def isStart : Event → Bool
  | .kernelStart .. | .startImage .. => true
  | _ => false

/-- A successful installation of the initrd loader. -/
def isInstall : Event → Bool
  | .initrdLoaderNew _ (.ok ()) => true
  | _ => false

/-- An installation is a boot event. -/
theorem isBoot_of_isInstall {e : Event} (h : e.isInstall = true) : e.isBoot = true := by
  cases e <;> first | rfl | exact absurd h Bool.false_ne_true

end Event

namespace Stub

/-- An event that is not a boot event installs nothing. -/
theorem isInstall_eq_false {e : Event} (h : NotBoot e) : e.isInstall = false := by
  cases hi : e.isInstall
  · rfl
  · exact absurd (h.symm.trans (Event.isBoot_of_isInstall hi)) Bool.false_ne_true

/-- **The events end with the installation `e`**, then the start of the kernel and the
uninstallation, and hold no other installation. -/
def EndsWithInstall (e : Event) (events : Trace) : Prop :=
  ∃ pre start r, events = pre ++ [e, start, .initrdLoaderUninstall r] ∧ start.isStart = true ∧
    ∀ e' ∈ pre, e'.isInstall = false

/-- Events that install nothing, put in front, keep the install the last of its kind. -/
theorem EndsWithInstall.append {e : Event} {before events : Trace}
    (h : EndsWithInstall e events) (hbefore : ∀ e' ∈ before, e'.isInstall = false) :
    EndsWithInstall e (before ++ events) := by
  obtain ⟨pre, start, r, rfl, hstart, hpre⟩ := h
  exact ⟨before ++ pre, start, r, (List.append_assoc _ _ _).symm, hstart,
    fun e' he' => (List.mem_append.mp he').elim (hbefore e') (hpre e')⟩

/-- **What an action may add around an installation of the initrd loader**: from every run so
far it only appends events, and when one of them installs the loader, the events it appended
end with that installation, the start of the kernel and the uninstallation, and the action
returned rather than panicked. -/
def Scoped {α : Type} (x : StubM α) : Prop :=
  ∀ trace, ∃ added, (x.run.run trace).2 = trace ++ added ∧
    ∀ e ∈ added, e.isInstall = true →
      EndsWithInstall e added ∧ ∃ a, (x.run.run trace).1 = .ok a

section Scoped

variable {α β : Type}

/-- An action that installs nothing is scoped. -/
theorem Scoped.of_appends {x : StubM α} (hx : Appends (fun e => e.isInstall = false) x) :
    Scoped x :=
  fun trace => (hx trace).imp fun _ h =>
    ⟨h.1, fun e he hi => absurd ((h.2 e he).symm.trans hi) Bool.false_ne_true⟩

/-- A prefix that installs nothing keeps a scoped continuation scoped. -/
theorem Scoped.bind_of_appends {x : StubM α} {f : α → StubM β}
    (hx : Appends (fun e => e.isInstall = false) x) (hf : ∀ a, Scoped (f a)) :
    Scoped (x >>= f) := by
  intro trace
  obtain ⟨added, hadded, hnone⟩ := hx trace
  rw [run_bind]
  rcases hrun : x.run.run trace with ⟨_ | a, trace'⟩ <;> rw [hrun] at hadded <;> subst hadded
  · exact ⟨added, rfl, fun e he hi => absurd ((hnone e he).symm.trans hi) Bool.false_ne_true⟩
  · obtain ⟨added', hadded', hscoped⟩ := hf a (trace ++ added)
    refine ⟨added ++ added', by rw [hadded', List.append_assoc], fun e he hi => ?_⟩
    rcases List.mem_append.mp he with he | he
    · exact absurd ((hnone e he).symm.trans hi) Bool.false_ne_true
    · exact ⟨(hscoped e he hi).1.append hnone, (hscoped e he hi).2⟩

/-- A suffix that only returns keeps a scoped action scoped. -/
theorem Scoped.bind_pure {x : StubM α} {g : α → β} (hx : Scoped x) :
    Scoped (x >>= fun a => pure (g a)) := by
  intro trace
  obtain ⟨added, hadded, hscoped⟩ := hx trace
  rw [run_bind]
  rcases hrun : x.run.run trace with ⟨_ | a, trace'⟩ <;> rw [hrun] at hadded hscoped <;>
    subst hadded
  · refine ⟨added, rfl, fun e he hi => ?_⟩
    obtain ⟨_, h⟩ := (hscoped e he hi).2
    cases h
  · exact ⟨added, rfl, fun e he hi => ⟨(hscoped e he hi).1, g a, rfl⟩⟩

/-- An `if` keeps the initrd loader scoped when both its branches do. -/
theorem Scoped.ite {c : Prop} [Decidable c] {x y : StubM α} (hx : Scoped x) (hy : Scoped y) :
    Scoped (if c then x else y) := by
  split
  exacts [hx, hy]

end Scoped

/-- An installation, a start and an uninstallation end with that installation. -/
theorem endsWithInstall_of_mem {initrdData : Bytes} {start : Event} (hstart : start.isStart = true)
    (r : Except Status Unit) :
    ∀ e ∈ [.initrdLoaderNew initrdData (.ok ()), start, .initrdLoaderUninstall r],
      e.isInstall = true →
        EndsWithInstall e
          [.initrdLoaderNew initrdData (.ok ()), start, .initrdLoaderUninstall r] := by
  intro e he hi
  simp only [List.mem_cons, List.mem_singleton, List.not_mem_nil, or_false] at he
  rcases he with rfl | rfl | rfl
  · exact ⟨[], _, r, rfl, hstart, fun _ h => absurd h (List.not_mem_nil _)⟩
  · cases e <;> first | exact absurd hstart Bool.false_ne_true | exact absurd hi Bool.false_ne_true
  · exact absurd hi Bool.false_ne_true

variable (fw : Firmware)

/-- **The loader is uninstalled when the kernel returns.** Around a start of the kernel that is
one call, recorded as a start, the installation is followed by that start and the
uninstallation, and the function returns. -/
theorem withInitrdLoader_scoped (initrdData : Bytes) {answer : Trace → Status}
    {event : Status → Event} (hstart : ∀ s, (event s).isStart = true) :
    Scoped (withInitrdLoader fw initrdData (call answer event)) := by
  intro trace
  unfold withInitrdLoader
  rw [run_call_bind]
  cases hnew : fw.initrdLoaderNew trace initrdData with
  | error status =>
    refine ⟨[.initrdLoaderNew initrdData (.error status)], rfl, fun e he hi => ?_⟩
    rw [List.mem_singleton] at he
    subst he
    cases hi
  | ok u =>
    cases u
    simp only [run_call_bind, List.append_assoc, List.singleton_append]
    generalize fw.initrdLoaderUninstall _ = r
    cases r <;>
      exact ⟨[_, _, _], rfl, fun e he hi =>
        ⟨endsWithInstall_of_mem (hstart _) _ e he hi, _, rfl⟩⟩

/-- The unchecked boot uninstalls the initrd loader it installs. -/
theorem bootLinuxUnchecked_scoped (kernelData : Bytes) (kernelCmdline : CString16)
    (initrdData : Bytes) : Scoped (bootLinuxUnchecked fw kernelData kernelCmdline initrdData) := by
  unfold bootLinuxUnchecked
  refine Scoped.bind_of_appends (Appends.emit rfl) fun _ => ?_
  refine Scoped.bind_of_appends (Appends.call fun _ => rfl) fun _ => ?_
  refine Scoped.bind_of_appends Appends.expect fun _ => ?_
  exact withInitrdLoader_scoped fw initrdData fun _ => rfl

/-- The firmware boot uninstalls the initrd loader it installs. -/
theorem bootLinuxUefi_scoped (kernelData : Bytes) (kernelCmdline : CString16)
    (initrdData : Bytes) : Scoped (bootLinuxUefi fw kernelData kernelCmdline initrdData) := by
  unfold bootLinuxUefi
  refine Scoped.bind_of_appends (Appends.emit rfl) fun _ => ?_
  refine Scoped.bind_of_appends (Appends.call fun _ => rfl) fun r => ?_
  rcases r with _ | ⟨⟩
  · exact Scoped.of_appends (Appends.pure _)
  refine Scoped.bind_of_appends (Appends.call fun _ => rfl) fun r => ?_
  rcases r with _ | ⟨⟩
  · exact Scoped.of_appends (Appends.pure _)
  refine Scoped.bind_of_appends Appends.unwrapU32 fun _ => ?_
  refine Scoped.bind_of_appends (Appends.emit rfl) fun _ => ?_
  exact withInitrdLoader_scoped fw initrdData fun _ => rfl

variable (digest : Bytes → Hash)

/-- `verify_and_boot` uninstalls the initrd loader on either path. -/
theorem verifyAndBoot_scoped (config : EmbeddedConfiguration) (kernelData initrdData : Bytes) :
    Scoped (verifyAndBoot fw digest config kernelData initrdData) := by
  unfold verifyAndBoot
  refine Scoped.bind_of_appends ((logIf_appends _ _).mono fun _ => isInstall_eq_false)
    fun _ => ?_
  refine Scoped.bind_of_appends ((logIf_appends _ _).mono fun _ => isInstall_eq_false)
    fun _ => ?_
  refine Scoped.bind_of_appends ((prepareBoot_appends fw).mono fun _ => isInstall_eq_false)
    fun _ => ?_
  refine Scoped.ite (bootLinuxUnchecked_scoped fw _ _ _).bind_pure ?_
  exact Scoped.bind_of_appends (Appends.emit rfl) fun _ =>
    (bootLinuxUefi_scoped fw _ _ _).bind_pure

/-- `main` installs the initrd loader only around a start, and uninstalls it after. -/
theorem main_scoped : Scoped (main fw digest) :=
  Scoped.bind_of_appends ((loadBootFiles_appends fw).mono fun _ => isInstall_eq_false)
    fun _ => verifyAndBoot_scoped fw digest _ _ _

/-- **The initrd loader is scoped to the kernel's run.** For every firmware and every digest
function, when a run of `main` installs the initrd loader, that is its only installation, and
the run ends with it, the start of the kernel (`kernel.start` or `StartImage`) and the
uninstallation, whatever the uninstallation answered; and `main` returns a status to the
firmware rather than panicking. -/
theorem main_initrd_loader_scoped (fw : Firmware) (digest : Bytes → Hash) :
    ∀ e ∈ (runMain fw digest).2, e.isInstall = true →
      (∃ pre start r, (runMain fw digest).2 = pre ++ [e, start, .initrdLoaderUninstall r] ∧
        start.isStart = true ∧ ∀ e' ∈ pre, e'.isInstall = false) ∧
      ∃ status, (runMain fw digest).1 = .ok status := by
  intro e he hinstall
  obtain ⟨added, hadded, hscoped⟩ := main_scoped fw digest []
  rw [runMain, hadded, List.nil_append] at he
  obtain ⟨hends, hok⟩ := hscoped e he hinstall
  refine ⟨?_, hok⟩
  rw [runMain, hadded, List.nil_append]
  exact hends

theorem exampleFirmware_initrd_loader_scoped :
    (∃ pre start r, (runMain exampleFirmware exampleDigest).2 =
        pre ++ [.initrdLoaderNew [2] (.ok ()), start, .initrdLoaderUninstall r] ∧
        start.isStart = true ∧ ∀ e' ∈ pre, e'.isInstall = false) ∧
      ∃ status, (runMain exampleFirmware exampleDigest).1 = .ok status :=
  main_initrd_loader_scoped exampleFirmware exampleDigest _ (by decide) rfl

end Stub
