import Lanzaboote.BootSafety
import Lanzaboote.ReadAll

/-!
# The stub boots the files on its volume

`Stub.main_boot_safety` is about the bytes the firmware's `read_all` answered, whatever they are;
`readAll_honours` is about the `read_all` loop over one file's `RegularFile::read`. This module
puts the two levels together, so that the boot is about the files themselves.

The stub calls a `read_all` of its own crate, which is not among the sources; the loader crate's
`read_all` is the loop of `Lanzaboote.ReadAll`. `Stub.ReadsBy` is the bridge between the two
levels: whatever the run so far, the answer the stub gets for a name is what a finished run of
that loop returns on the file's reads. It constrains only `read_all`: every other call, the
booted image among them, is still answered by anything at all.

Under it, and with every file's reads honouring the contract of `read`, each success of the
stub's `read_all` is the file's content (`Stub.readAll_eq_content`). Every boot event of a run
of `main` is then a verified boot event for the contents of the two files the configuration of
the booted image names (`Stub.main_boots_file_contents`): it hands on exactly those contents,
takes the unchecked path only when both hash to the configuration's digests, and the firmware's
path only when one does not.
-/

namespace Stub

/-- **The stub's `read_all` is the loop of `read_all`** on each file's `read`: for every run so
far and every name, the firmware's answer is what a finished run of the loop returns on the
reads of the file by that name. -/
def ReadsBy (fw : Firmware) (reads : CString16 → ReadBehaviour) : Prop :=
  ∀ trace name, ∃ fuel run, readAll (reads name) fuel = some run ∧
    run.result = .ok (fw.readAll trace name)

/-- **Under honest reads, the stub reads the files.** Every success of the firmware's `read_all`
is the content of the file by that name. -/
theorem readAll_eq_content {fw : Firmware} {reads : CString16 → ReadBehaviour}
    {content : CString16 → Bytes} (hreads : ∀ name, (reads name).Honours (content name))
    (hfw : ReadsBy fw reads) {trace : Trace} {name : CString16} {data : Bytes}
    (h : fw.readAll trace name = .ok data) : data = content name := by
  obtain ⟨_, run, hrun, hres⟩ := hfw trace name
  exact (readAll_result_of_honours (hreads name) hrun).eq_of_ok (hres.trans (congrArg _ h))

/-- **The stub boots the files on its volume.** For every firmware whose `read_all` is the loop
over each file's `read`, every content of the volume whose reads honour the contract, and every
digest function: each boot event of a run of `main` comes after the image the stub was booted
from, whose configuration was extracted, and is a verified boot event for the contents of the
two files that configuration names. It hands on those contents and the configuration's command
line, takes the unchecked path only when both contents hash to the configuration's digests, and
the firmware's path only when one does not. -/
theorem main_boots_file_contents (fw : Firmware) (digest : Bytes → Hash)
    (reads : CString16 → ReadBehaviour) (content : CString16 → Bytes)
    (hreads : ∀ name, (reads name).Honours (content name)) (hfw : ReadsBy fw reads) :
    ∀ e ∈ (runMain fw digest).2, e.isBoot = true →
      ∃ image config, Event.bootedImageFile (.ok image) ∈ (runMain fw digest).2 ∧
        EmbeddedConfiguration.new image = .ok config ∧
        VerifiedBootEvent (content config.kernelFilename) (content config.initrdFilename)
          digest config e := by
  intro e he hboot
  obtain ⟨image, config, _, _, rest, htrace, hcfg, -, ⟨⟨_, hkernel⟩, _, hinitrd⟩,
    hverified⟩ := boot_event_after_load fw digest he hboot
  obtain rfl := readAll_eq_content hreads hfw hkernel
  obtain rfl := readAll_eq_content hreads hfw hinitrd
  refine ⟨image, config, ?_, hcfg, hverified⟩
  rw [htrace]
  exact List.mem_append_left _ (List.mem_cons_of_mem _ (List.mem_cons_self _ _))

/-- The example volume, read one byte at a time. -/
def exampleReads (name : CString16) : ReadBehaviour :=
  ReadBehaviour.ofContent (exampleContent name) 1

/-- The example firmware's `read_all` is the loop over the example volume's reads. -/
theorem exampleFirmware_readsBy : ReadsBy exampleFirmware exampleReads := by
  intro _ name
  show ∃ fuel run, readAll (ReadBehaviour.ofContent (exampleContent name) 1) fuel = some run ∧
    run.result = .ok (.ok (exampleContent name))
  unfold exampleContent
  split
  · exact ⟨2, _, rfl, rfl⟩
  · exact ⟨2, _, rfl, rfl⟩

theorem exampleFirmware_boots_file_contents :
    ∃ image config,
      Event.bootedImageFile (.ok image) ∈ (runMain exampleFirmware exampleDigest).2 ∧
      EmbeddedConfiguration.new image = .ok config ∧
      VerifiedBootEvent (exampleContent config.kernelFilename)
        (exampleContent config.initrdFilename) exampleDigest config
        (.bootLinuxUnchecked [1] exampleCmdline [2]) :=
  main_boots_file_contents exampleFirmware exampleDigest exampleReads exampleContent
    (fun _ => ReadBehaviour.ofContent_honours _ (by decide)) exampleFirmware_readsBy _
    (by decide) rfl

end Stub
