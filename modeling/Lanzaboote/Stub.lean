import Lanzaboote.Config

/-!
# The stub's `main`, as a run against the firmware

At boot the stub reads its configuration out of its own image, reads the kernel and the initrd
from its volume, hashes both, measures itself, collects companion initrds, and then boots the
kernel: directly from the buffer (`boot_linux_unchecked`) when both digests match, through the
firmware's `LoadImage` (`boot_linux_uefi`) otherwise.

Everything `main` asks of the world goes through a call: the firmware's boot and runtime
services, and the stub's own modules that are not among the sources (`booted_image_file`,
`read_all`, `pe_loader`, `linux_loader`, `measure`, `cpio`, `initrd`, `tpm`). A run records
every call with what it passed and what it got back (`Event`), and also each log line and the
entry into each of the two boot functions with its arguments. A `Firmware` answers every call
from the run so far, so it stands for every behaviour of the services, every content of the
boot volume and every image the stub was booted from; SHA-256 is a function `digest` given
with it.

`main` either returns a status to the firmware or panics (`unwrap`, `expect`); a run keeps its
events in both cases (`Stub.runMain`).
-/

/-- **The three kinds of companion initrd** (`CompanionInitrd`), in the order `main` packs them. -/
inductive CompanionKind where
  | credentials
  | globalCredentials
  | systemExtension
  deriving DecidableEq, Repr

/-- What `into_regular_file` finds behind a name the stub opened. -/
inductive FileKind where
  | regular
  | directory
  deriving DecidableEq, Repr

/-- **An event of a run of the stub**: a call, with what it passed and what it got back; a log
line; or the entry into a boot function, with its arguments. -/
inductive Event where
  | servicesInit (result : Except Status Unit)
  | bootedImageFile (result : Except Status PE)
  | getImageFileSystem (result : Except Status Unit)
  | openVolume (result : Except Status Unit)
  | openFile (name : CString16) (result : Except Status FileKind)
  | readAll (name : CString16) (result : Except Status Bytes)
  | log (message : String)
  | tpmAvailable (result : Bool)
  /-- `get_loader_features`: on success, whether the features hold `RandomSeed`. -/
  | getLoaderFeatures (result : Except Status Bool)
  | measureImage (image : PE) (result : Except Status Nat)
  | exportEfiVariables (result : Except Status Unit)
  | packCpio (kind : CompanionKind) (result : Except Status (Option Bytes))
  | exportPcrEfiVariables (initrds : List (CompanionKind × Bytes)) (result : Except Status Unit)
  | bootLinuxUnchecked (kernelData : Bytes) (kernelCmdline : CString16) (initrdData : Bytes)
  /-- `Image::load` of `pe_loader`: the kernel loaded without the firmware's signature check. -/
  | imageLoad (kernelData : Bytes) (result : Except Status Unit)
  | initrdLoaderNew (initrdData : Bytes) (result : Except Status Unit)
  | kernelStart (kernelCmdline : CString16) (status : Status)
  | initrdLoaderUninstall (result : Except Status Unit)
  | bootLinuxUefi (kernelData : Bytes) (kernelCmdline : CString16) (initrdData : Bytes)
  | loadImage (buffer : Bytes) (result : Except Status Unit)
  | openLoadedImage (result : Except Status Unit)
  | setLoadOptions (options : CString16) (size : UInt32)
  | startImage (status : Status)
  deriving DecidableEq

/-- The events of a run so far, oldest first. -/
abbrev Trace := List Event

/-- **The world the stub runs in**: the answer to each call, from the run so far. Every call is
answered by a value, so the firmware and the stub's modules that are not among the sources never
panic here: a panic inside one of them is not among the runs modelled. -/
structure Firmware where
  /-- `uefi_services::init`. -/
  servicesInit : Trace → Except Status Unit
  /-- `booted_image_file`: the image the stub was booted from, parsed. -/
  bootedImageFile : Trace → Except Status PE
  /-- `get_image_file_system` on the stub's handle. -/
  getImageFileSystem : Trace → Except Status Unit
  /-- `open_volume`: the root directory of the stub's volume. -/
  openVolume : Trace → Except Status Unit
  /-- `Directory::open` for reading, then `into_regular_file`: what is behind the name. -/
  openFile : Trace → CString16 → Except Status FileKind
  /-- `read_all` of the file by that name. -/
  readAll : Trace → CString16 → Except Status Bytes
  /-- `tpm_available`. -/
  tpmAvailable : Trace → Bool
  /-- `get_loader_features`: on success, whether they hold `RandomSeed`. -/
  getLoaderFeatures : Trace → Except Status Bool
  /-- `measure_image` of the booted image: how many sections it measured. -/
  measureImage : Trace → PE → Except Status Nat
  /-- `export_efi_variables`. -/
  exportEfiVariables : Trace → Except Status Unit
  /-- `pack_cpio` of one kind of companion initrd: an archive, or none. -/
  packCpio : Trace → CompanionKind → Except Status (Option Bytes)
  /-- `export_pcr_efi_variables` for the companion initrds packed. -/
  exportPcrEfiVariables : Trace → List (CompanionKind × Bytes) → Except Status Unit
  /-- `Image::load` of `pe_loader`, from the kernel's buffer. -/
  imageLoad : Trace → Bytes → Except Status Unit
  /-- `InitrdLoader::new` with the initrd's buffer. -/
  initrdLoaderNew : Trace → Bytes → Except Status Unit
  /-- `kernel.start` with the command line: the status the kernel returns with. -/
  kernelStart : Trace → CString16 → Status
  /-- `InitrdLoader::uninstall`. -/
  initrdLoaderUninstall : Trace → Except Status Unit
  /-- The firmware's `LoadImage` from the kernel's buffer. -/
  loadImage : Trace → Bytes → Except Status Unit
  /-- `open_protocol_exclusive::<LoadedImage>` on the loaded kernel. -/
  openLoadedImage : Trace → Except Status Unit
  /-- The firmware's `StartImage`: the status the kernel returns with. -/
  startImage : Trace → Status

/-- A run of the stub: it panics or goes on, and it records its events. -/
abbrev StubM := ExceptT Panic (StateM Trace)

namespace Stub

/-- A call: the world's answer to the run so far, recorded with it. -/
def call {α : Type} (answer : Trace → α) (event : α → Event) : StubM α := do
  let trace ← get
  set (trace ++ [event (answer trace)])
  pure (answer trace)

/-- An event that needs no answer: a log line, or the entry into a boot function. -/
def emit (event : Event) : StubM Unit := modify (· ++ [event])

/-- `if condition { log!(message) }`. -/
def logIf (condition : Bool) (message : String) : StubM Unit :=
  if condition then emit (.log message) else pure ()

/-- `Result::unwrap`. -/
def unwrap {α ε : Type} : Except ε α → StubM α
  | .ok a => pure a
  | .error _ => throw .unwrap

/-- `Result::expect`. -/
def expect {α ε : Type} (result : Except ε α) (message : String) : StubM α :=
  match result with
  | .ok a => pure a
  | .error _ => throw (.expect message)

/-- `u32::try_from(n).unwrap()`. -/
def unwrapU32 (n : Nat) : StubM UInt32 :=
  if n < 2 ^ 32 then pure n.toUInt32 else throw .unwrap

/-- `Option::expect` on `into_regular_file`: a regular file, or a panic. -/
def expectRegularFile (kind : FileKind) (message : String) : StubM Unit :=
  match kind with
  | .regular => pure ()
  | .directory => throw (.expect message)

variable (fw : Firmware)

/-- One file of lines 211–234 of `main`: opened on the ESP's root by the name it is given,
checked to be a regular file, and read whole with `read_all`. The kernel and the initrd differ
only in the name and the three messages. -/
def readBootFile (name : CString16) (openMessage kindMessage readMessage : String) :
    StubM Bytes := do
  let file ← expect (← call (fw.openFile · name) (.openFile name)) openMessage
  expectRegularFile file kindMessage
  expect (← call (fw.readAll · name) (.readAll name)) readMessage

/-- Lines 184–236 of `main`: the configuration extracted from the booted image, then the kernel
and the initrd, each opened by the name the configuration gives and read whole. -/
def loadBootFiles : StubM (EmbeddedConfiguration × Bytes × Bytes) := do
  unwrap (← call fw.servicesInit .servicesInit)
  let image ← unwrap (← call fw.bootedImageFile .bootedImageFile)
  let config ← expect (EmbeddedConfiguration.new image)
    "Failed to extract configuration from binary. Did you run lzbt?"
  expect (← call fw.getImageFileSystem .getImageFileSystem) "Failed to get file system handle"
  expect (← call fw.openVolume .openVolume) "Failed to find ESP root directory"
  let kernelData ← readBootFile fw config.kernelFilename "Failed to open kernel file for reading"
    "Kernel is not a regular file" "Failed to read kernel file into memory"
  let initrdData ← readBootFile fw config.initrdFilename "Failed to open initrd for reading"
    "Initrd is not a regular file" "Failed to read kernel file into memory"
  pure (config, kernelData, initrdData)

/-- One `pack_cpio` of lines 272–306: the archive, when there is one. -/
def packCompanion (kind : CompanionKind) : StubM (List (CompanionKind × Bytes)) := do
  match ← call (fw.packCpio · kind) (.packCpio kind) with
  | .ok (some archive) => pure [(kind, archive)]
  | _ => pure []

/-- Lines 270–307 of `main`: the companion initrds, each best-effort, in a fixed order. -/
def collectCompanionInitrds : StubM (List (CompanionKind × Bytes)) := do
  match ← call fw.getImageFileSystem .getImageFileSystem with
  | .error _ => pure []
  | .ok () =>
    let credentials ← packCompanion fw .credentials
    let globalCredentials ← packCompanion fw .globalCredentials
    let systemExtensions ← packCompanion fw .systemExtension
    pure (credentials ++ globalCredentials ++ systemExtensions)

/-- Lines 249–310 of `main`: the TPM probe, the loader features, the measurement of the booted
image, the stub's EFI variables and the companion initrds with their PCR variables. -/
def prepareBoot : StubM Unit := do
  logIf (← call fw.tpmAvailable .tpmAvailable) "TPM available, will proceed to measurements."
  logIf ((← call fw.getLoaderFeatures .getLoaderFeatures) == .ok true)
    "Random seed is available, but lanzaboote does not support it yet."
  let image ← unwrap (← call fw.bootedImageFile .bootedImageFile)
  let _ ← expect (← call (fw.measureImage · image) (.measureImage image))
    "Failed to measure the image"
  expect (← call fw.exportEfiVariables .exportEfiVariables) "Failed to export stub EFI variables"
  let initrds ← collectCompanionInitrds fw
  let _ ← call (fw.exportPcrEfiVariables · initrds) (.exportPcrEfiVariables initrds)

/-- The end both boot functions share: the initrd loader installed (`?` when it fails), the
kernel started, the loader uninstalled (`?`), and the kernel's status as a `Result`. -/
def withInitrdLoader (initrdData : Bytes) (start : StubM Status) : StubM (Except Status Unit) := do
  match ← call (fw.initrdLoaderNew · initrdData) (.initrdLoaderNew initrdData) with
  | .error status => pure (.error status)
  | .ok () =>
    let status ← start
    match ← call fw.initrdLoaderUninstall .initrdLoaderUninstall with
    | .error status => pure (.error status)
    | .ok () => pure status.intoResult

/-- **`boot_linux_unchecked`**: the kernel loaded by the stub's own PE loader, past the firmware's
signature check, then started with the initrd loader installed around it. -/
def bootLinuxUnchecked (kernelData : Bytes) (kernelCmdline : CString16) (initrdData : Bytes) :
    StubM (Except Status Unit) := do
  emit (.bootLinuxUnchecked kernelData kernelCmdline initrdData)
  expect (← call (fw.imageLoad · kernelData) (.imageLoad kernelData)) "Failed to load the kernel"
  withInitrdLoader fw initrdData
    (call (fw.kernelStart · kernelCmdline) (.kernelStart kernelCmdline))

/-- **`boot_linux_uefi`**: the kernel loaded by the firmware's `LoadImage` from the buffer, its
load options set to the command line, then started by `StartImage` with the initrd loader
installed around it. -/
def bootLinuxUefi (kernelData : Bytes) (kernelCmdline : CString16) (initrdData : Bytes) :
    StubM (Except Status Unit) := do
  emit (.bootLinuxUefi kernelData kernelCmdline initrdData)
  match ← call (fw.loadImage · kernelData) (.loadImage kernelData) with
  | .error status => pure (.error status)
  | .ok () =>
  match ← call fw.openLoadedImage .openLoadedImage with
  | .error status => pure (.error status)
  | .ok () =>
  let size ← unwrapU32 kernelCmdline.numBytes
  emit (.setLoadOptions kernelCmdline size)
  withInitrdLoader fw initrdData (call fw.startImage .startImage)

variable (digest : Bytes → Hash)

/-- Lines 238–353 of `main`: the two digests checked, the boot prepared, then the kernel booted,
unchecked when both digests match and through the firmware otherwise. -/
def verifyAndBoot (config : EmbeddedConfiguration) (kernelData initrdData : Bytes) :
    StubM Status := do
  let isKernelHashCorrect := decide (digest kernelData = config.kernelHash)
  let isInitrdHashCorrect := decide (digest initrdData = config.initrdHash)
  logIf (!isKernelHashCorrect) "Hash mismatch for kernel!"
  logIf (!isInitrdHashCorrect) "Hash mismatch for initrd!"
  prepareBoot fw
  if isKernelHashCorrect && isInitrdHashCorrect then
    pure (← bootLinuxUnchecked fw kernelData config.cmdline initrdData).status
  else
    emit (.log
      "Trying to continue as non-Secure Boot. This will fail when Secure Boot is enabled.")
    pure (← bootLinuxUefi fw kernelData config.cmdline initrdData).status

/-- **`main`**: the configuration and the boot files, then the verified boot. -/
def main : StubM Status := do
  let (config, kernelData, initrdData) ← loadBootFiles fw
  verifyAndBoot fw digest config kernelData initrdData

/-- A whole run of `main` from the start: a status or a panic, and its events. -/
def runMain : Except Panic Status × Trace := (main fw digest).run.run []

end Stub
