import Lanzaboote.ReadAll
import Lanzaboote.Stub

/-!
# The first loader: `linux.efi`, read whole and started

Before the stub, the `lanzaboote` crate's `main` was the whole boot loader: it opens
`linux.efi` on its own volume, reads it into memory with `read_all`, hands the buffer to the
firmware's `LoadImage` and starts the image, `unwrap`ping every step. This module runs that
`main` with the loop of `read_all` inside it (`Lanzaboote.ReadAll`), so that the buffer it boots
is tied to the file's reads rather than to an answer of the firmware.

The other calls are answered by a `Loader.Firmware`, one answer each: `main` makes each call
once. A run records the two calls that hand the kernel on, with their answers (`Loader.Event`),
and stops early at a panic or when the loop runs out of fuel (`Loader.Stop`).

For every firmware whose `read` honours its contract on a content (`ReadBehaviour.Honours`), with
fuel for one call more than the content has bytes, `main` finishes; every buffer it hands to
`LoadImage` is the content; it ends in a failed `unwrap` or in `SUCCESS`, never in another panic;
and `SUCCESS` comes only after `LoadImage` of the content and `StartImage` both succeeded
(`Loader.main_loads_content`).
-/

namespace Loader

/-- **The world the loader runs in**: the answer to each of its calls. -/
structure Firmware where
  /-- `uefi_services::init`. -/
  servicesInit : Except Status Unit
  /-- `Output::clear` on the console. -/
  clear : Except Status Unit
  /-- `Output::output_string` of the logo. -/
  outputString : Except Status Unit
  /-- `get_image_file_system` on the loader's handle. -/
  getImageFileSystem : Except Status Unit
  /-- `open_volume`: the root directory of the loader's volume. -/
  openVolume : Except Status Unit
  /-- `Directory::open` for reading: what is behind the name. -/
  openFile : CString16 → Except Status FileKind
  /-- `RegularFile::read` on the file opened, at each position. -/
  read : ReadBehaviour
  /-- `LoadImage` from a buffer, with no device path. -/
  loadImage : Bytes → Except Status Unit
  /-- `StartImage` on the loaded image. -/
  startImage : Except Status Unit

/-- **An event of a run of the loader**: a call that hands the kernel on, with its answer. -/
inductive Event where
  | loadImage (buffer : Bytes) (result : Except Status Unit)
  | startImage (result : Except Status Unit)
  deriving DecidableEq

/-- How a run of the loader stops early: at a panic, or with the loop of `read_all` out of fuel,
the model's bound on a loop the code does not bound. -/
inductive Stop where
  | panic (p : Panic)
  | outOfFuel
  deriving DecidableEq

/-- A run of the loader: it stops early or goes on, and it records its events. -/
abbrev LoaderM := ExceptT Stop (StateM (List Event))

/-- `Result::unwrap`. -/
def unwrap {α ε : Type} : Except ε α → LoaderM α
  | .ok a => pure a
  | .error _ => throw (.panic .unwrap)

/-- A call that hands the kernel on: its answer, recorded with it. -/
def record {α : Type} (answer : Except Status α) (event : Except Status α → Event) :
    LoaderM (Except Status α) := do
  modify (· ++ [event answer])
  pure answer

/-- `FileHandle::into_regular_file`: the file, when it is a regular one. -/
def intoRegularFile : FileKind → Option Unit
  | .regular => some ()
  | .directory => none

/-- `read_all(&mut file)`: the loop of `read_all` on the file's reads, with `fuel` turns. A panic
of the loop is the loader's; a loop out of fuel stops the run. -/
def readAllOf (read : ReadBehaviour) (fuel : Nat) : LoaderM (Except Status Bytes) :=
  match readAll read fuel with
  | some run => match run.result with
    | .ok result => pure result
    | .error p => throw (.panic p)
  | none => throw .outOfFuel

/-- **`print_logo`**: the console cleared and the logo written, both `unwrap`ped. -/
def printLogo (fw : Firmware) : LoaderM Unit := do
  unwrap fw.clear
  unwrap fw.outputString

/-- `cstr16!("linux.efi")`. -/
def linuxEfi : CString16 := (CString16.tryFrom "linux.efi".toList).get (by decide)

/-- **`main`** of the loader, with `fuel` turns for the loop of `read_all`. -/
def main (fw : Firmware) (fuel : Nat) : LoaderM Status := do
  unwrap fw.servicesInit
  printLogo fw
  unwrap fw.getImageFileSystem
  unwrap fw.openVolume
  let kind ← unwrap (fw.openFile linuxEfi)
  unwrap ((intoRegularFile kind).okOr ())
  let kernel ← unwrap (← readAllOf fw.read fuel)
  unwrap (← record (fw.loadImage kernel) (.loadImage kernel))
  unwrap (← record fw.startImage .startImage)
  pure .success

/-! ## Runs -/

section Runs

variable {α β : Type}

/-- `unwrap` of an `Ok` goes on with its value. -/
@[simp] theorem run_unwrap_ok_bind {ε : Type} (a : α) (f : α → LoaderM β) (s : List Event) :
    ((unwrap (.ok a : Except ε α)) >>= f).run.run s = (f a).run.run s := rfl

/-- `unwrap` of an error panics. -/
@[simp] theorem run_unwrap_error_bind {ε : Type} (e : ε) (f : α → LoaderM β) (s : List Event) :
    ((unwrap (.error e : Except ε α)) >>= f).run.run s = (.error (.panic .unwrap), s) := rfl

/-- `pure` returns its value and records nothing. -/
@[simp] theorem run_pure (a : α) (s : List Event) :
    (pure a : LoaderM α).run.run s = (.ok a, s) := rfl

/-- A recorded call goes on with its answer, the call recorded. -/
@[simp] theorem run_record_bind (answer : Except Status α) (event : Except Status α → Event)
    (f : Except Status α → LoaderM β) (s : List Event) :
    (record answer event >>= f).run.run s = (f answer).run.run (s ++ [event answer]) := rfl

/-- Reading a whole file the firmware answers with returns what `read_all` returned, and records
nothing. -/
theorem run_readAllOf_bind {read : ReadBehaviour} {fuel : Nat} {run : ReadAllRun}
    {result : Except Status Bytes} (hrun : readAll read fuel = some run)
    (hres : run.result = .ok result) (f : Except Status Bytes → LoaderM β) (s : List Event) :
    (readAllOf read fuel >>= f).run.run s = (f result).run.run s := by
  simp only [readAllOf, hrun, hres]
  rfl

end Runs

/-- **What a run of the loader may end in**, on a volume whose `linux.efi` holds `content`: a
failed `unwrap`, or `SUCCESS` after `LoadImage` of the content and `StartImage` both succeeded;
every buffer handed to `LoadImage` on the way is the content. -/
def BootsContent (content : Bytes) : Except Stop Status × List Event → Prop
  | (result, events) =>
    (result = .ok .success ∨ result = .error (.panic .unwrap)) ∧
    (∀ buffer r, Event.loadImage buffer r ∈ events → buffer = content) ∧
    (result = .ok .success → events = [.loadImage content (.ok ()), .startImage (.ok ())])

/-- **A run of the loader from its start boots the content.** -/
def Boots (content : Bytes) (x : LoaderM Status) : Prop := BootsContent content (x.run.run [])

section Boots

variable {content : Bytes}

/-- A failed `unwrap` before any event boots nothing; a successful one goes on. -/
theorem Boots.unwrap_bind {ε α : Type} {x : Except ε α} {f : α → LoaderM Status}
    (hf : ∀ a, x = .ok a → Boots content (f a)) : Boots content (unwrap x >>= f) := by
  cases x with
  | error e => exact ⟨.inr rfl, fun _ _ h => (List.not_mem_nil _ h).elim, nofun⟩
  | ok a => exact hf a rfl

/-- A whole-file read records no event: the read and then `f` boot what `f` boots. -/
theorem Boots.readAllOf_bind {read : ReadBehaviour} {fuel : Nat} {run : ReadAllRun}
    {result : Except Status Bytes} (hrun : readAll read fuel = some run)
    (hres : run.result = .ok result) {f : Except Status Bytes → LoaderM Status}
    (hf : Boots content (f result)) : Boots content (readAllOf read fuel >>= f) := by
  unfold Boots
  rw [run_readAllOf_bind hrun hres]
  exact hf

/-- Handing the content to `LoadImage` and starting it boots the content, whatever the two
answers. -/
theorem boots_loadImage_startImage (load start : Except Status Unit) :
    Boots content (do
      unwrap (← record load (.loadImage content))
      unwrap (← record start .startImage)
      pure .success) := by
  unfold Boots
  cases load <;> cases start <;>
    simp only [run_record_bind, run_unwrap_ok_bind, run_unwrap_error_bind, run_pure] <;>
    simp [BootsContent]

end Boots

/-- **The loader boots `linux.efi`.** For every firmware whose `read` honours its contract on a
content, and fuel for one call more than the content has bytes: `main` does not run out of fuel,
hands `LoadImage` no buffer but the content, ends in `SUCCESS` or in a failed `unwrap` (never in
a panic of `read_all`'s slice), and ends in `SUCCESS` only after `LoadImage` of the content and
`StartImage` both succeeded. -/
theorem main_loads_content (fw : Firmware) (content : Bytes) (fuel : Nat)
    (hread : fw.read.Honours content) (hfuel : content.length < fuel) :
    BootsContent content ((main fw fuel).run.run []) := by
  obtain ⟨run, hrun, hends⟩ :=
    readAllLoop_honours hread (content.length + 1) 0 (Nat.zero_le _) (by omega)
  rw [List.take_zero] at hrun
  obtain ⟨result, hres⟩ : ∃ result, run.result = .ok result :=
    hends.1.elim (fun h => ⟨_, h⟩) fun ⟨_, h⟩ => ⟨_, h⟩
  show Boots content (main fw fuel)
  unfold main printLogo
  simp only [bind_assoc]
  refine Boots.unwrap_bind fun _ _ => Boots.unwrap_bind fun _ _ => Boots.unwrap_bind fun _ _ =>
    Boots.unwrap_bind fun _ _ => Boots.unwrap_bind fun _ _ => Boots.unwrap_bind fun _ _ =>
    Boots.unwrap_bind fun _ _ => ?_
  refine Boots.readAllOf_bind (readAllLoop_mono hfuel hrun) hres
    (Boots.unwrap_bind fun kernel hkernel => ?_)
  obtain rfl := hends.eq_of_ok (hres.trans (congrArg _ hkernel))
  exact boots_loadImage_startImage _ _

/-- A firmware whose every call succeeds, on a volume whose `linux.efi` holds three bytes that
`read` returns two at a time. -/
def exampleLoader : Firmware :=
  ⟨.ok (), .ok (), .ok (), .ok (), .ok (), fun _ => .ok .regular,
    ReadBehaviour.ofContent [1, 2, 3] 2, fun _ => .ok (), .ok ()⟩

theorem exampleLoader_loads_content :
    BootsContent [1, 2, 3] ((main exampleLoader 4).run.run []) ∧
      (main exampleLoader 4).run.run [] =
        (.ok .success, [.loadImage [1, 2, 3] (.ok ()), .startImage (.ok ())]) :=
  ⟨main_loads_content exampleLoader [1, 2, 3] 4
    (ReadBehaviour.ofContent_honours _ (by decide)) (by decide), rfl⟩

end Loader
