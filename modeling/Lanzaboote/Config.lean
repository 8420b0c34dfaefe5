import Lanzaboote.Pe

/-!
# The configuration embedded in the stub

After `lzbt` has built a stub it holds its boot configuration in PE sections of its own image:
the kernel's and the initrd's file names on the ESP (`.kernelp`, `.initrdp`), their SHA-256
digests (`.kernelh`, `.initrdh`) and the kernel command line (`.cmdline`). At boot the stub
parses its loaded image and reads the five back (`EmbeddedConfiguration::new`).

The extraction is all or nothing: every failure, whichever section and whichever reason (missing,
not UTF-8, not UCS-2, not 32 bytes), is `INVALID_PARAMETER` and no configuration at all
(`EmbeddedConfiguration.new_eq_ok_iff`, `EmbeddedConfiguration.new_failsOnlyWith`).
-/

/-- **The configuration embedded at build time** (`EmbeddedConfiguration`). -/
structure EmbeddedConfiguration where
  /-- The kernel's file name, relative to the root of the stub's volume. -/
  kernelFilename : CString16
  /-- The kernel's digest. -/
  kernelHash : Hash
  /-- The initrd's file name, read as `kernelFilename`. -/
  initrdFilename : CString16
  /-- The initrd's digest. -/
  initrdHash : Hash
  /-- The kernel command line. -/
  cmdline : CString16
  deriving DecidableEq

/-- **`extract_string`**: a section's UTF-8 text, as a `CString16`. -/
def extractString (peData : PE) (sectionName : String) : Except Status CString16 := do
  let string ← (peSectionAsString peData sectionName).okOr Status.invalidParameter
  (CString16.tryFrom string).okOr Status.invalidParameter

/-- **`extract_hash`**: a section's bytes, as a 32-byte digest. -/
def extractHash (peData : PE) (sectionName : String) : Except Status Hash := do
  let slice ← (peSection peData sectionName).okOr Status.invalidParameter
  (Hash.tryFrom slice).okOr Status.invalidParameter

/-- `extract_string` fails with `INVALID_PARAMETER` only. -/
theorem extractString_failsOnlyWith (d : PE) (n : String) :
    (extractString d n).FailsOnlyWith Status.invalidParameter :=
  Except.failsOnlyWith_bind (Option.failsOnlyWith_okOr _ _) fun _ => Option.failsOnlyWith_okOr _ _

/-- `extract_hash` fails with `INVALID_PARAMETER` only. -/
theorem extractHash_failsOnlyWith (d : PE) (n : String) :
    (extractHash d n).FailsOnlyWith Status.invalidParameter :=
  Except.failsOnlyWith_bind (Option.failsOnlyWith_okOr _ _) fun _ => Option.failsOnlyWith_okOr _ _

/-- A section that decodes as UTF-8 is extracted exactly when `CString16::try_from` keeps it. -/
theorem extractString_of_peSectionAsString {d : PE} {n : String} {s : List Char}
    (h : peSectionAsString d n = some s) :
    extractString d n = (CString16.tryFrom s).okOr Status.invalidParameter := by
  simp only [extractString, h, Option.okOr_some]
  rfl

/-- A missing section is no digest. -/
theorem extractHash_of_peSection_none {d : PE} {n : String} (h : peSection d n = none) :
    extractHash d n = .error .invalidParameter := by
  simp [extractHash, h, bind, Except.bind]

namespace EmbeddedConfiguration

/-- **`EmbeddedConfiguration::new`**: the five values, extracted in the order of the source. -/
def new (fileData : PE) : Except Status EmbeddedConfiguration := do
  pure
    { kernelFilename := ← extractString fileData ".kernelp"
      kernelHash := ← extractHash fileData ".kernelh"
      initrdFilename := ← extractString fileData ".initrdp"
      initrdHash := ← extractHash fileData ".initrdh"
      cmdline := ← extractString fileData ".cmdline" }

/-- **Extraction is all or nothing.** The configuration is extracted exactly when each of the
five sections is, and then it holds what they hold. -/
theorem new_eq_ok_iff (d : PE) (cfg : EmbeddedConfiguration) :
    new d = .ok cfg ↔
      extractString d ".kernelp" = .ok cfg.kernelFilename ∧
      extractHash d ".kernelh" = .ok cfg.kernelHash ∧
      extractString d ".initrdp" = .ok cfg.initrdFilename ∧
      extractHash d ".initrdh" = .ok cfg.initrdHash ∧
      extractString d ".cmdline" = .ok cfg.cmdline := by
  simp only [new, Except.bind_eq_ok]
  constructor
  · rintro ⟨_, h₁, _, h₂, _, h₃, _, h₄, _, h₅, h⟩
    cases h
    exact ⟨h₁, h₂, h₃, h₄, h₅⟩
  · rintro ⟨h₁, h₂, h₃, h₄, h₅⟩
    exact ⟨_, h₁, _, h₂, _, h₃, _, h₄, _, h₅, rfl⟩

/-- **Every failed extraction is `INVALID_PARAMETER`**, whichever section failed and why. -/
theorem new_failsOnlyWith (d : PE) : (new d).FailsOnlyWith Status.invalidParameter := by
  unfold new
  refine Except.failsOnlyWith_bind (extractString_failsOnlyWith _ _) fun _ => ?_
  refine Except.failsOnlyWith_bind (extractHash_failsOnlyWith _ _) fun _ => ?_
  refine Except.failsOnlyWith_bind (extractString_failsOnlyWith _ _) fun _ => ?_
  refine Except.failsOnlyWith_bind (extractHash_failsOnlyWith _ _) fun _ => ?_
  exact Except.failsOnlyWith_bind (extractString_failsOnlyWith _ _)
    fun _ => Except.failsOnlyWith_pure _ _

/-- A stub image without a `.kernelh` section yields no configuration. -/
theorem new_of_no_kernelh {d : PE} (h : peSection d ".kernelh" = none) :
    new d = .error .invalidParameter := by
  cases hk : new d with
  | error e => rw [new_failsOnlyWith d e hk]
  | ok cfg =>
    have := ((new_eq_ok_iff d cfg).mp hk).2.1
    rw [extractHash_of_peSection_none h] at this
    cases this

end EmbeddedConfiguration
