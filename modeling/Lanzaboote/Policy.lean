import Mathlib.Data.List.Basic

/-!
# The signing server's policy

Before the signing server signs a stub it asks a `Policy` whether the parameters are trusted.
`TrivialPolicy` trusts a store path when it exists on the local disk (`trusted_store_path`), and
a set of stub parameters when its three store paths are trusted and, if an allow-list of
command-line items is configured, every item of the kernel command line is on it
(`trusted_stub_parameters`). Both checks short-circuit: the first untrusted path or item ends
the check with `false`.

The file system is a predicate `pathExists` (`Path::exists`), and the allow-list a
`HashSet<String>`, modelled as the list of its members. Each check returns its answer with the
lines `trace!` logs on the way, in order, so that what is checked and what is skipped can be
read off a run.

- The answer is `true` exactly when the three paths exist and, under an allow-list, every item
  of the command line, at any position, is on it (`TrivialPolicy.trustedStubParameters_iff`).
- A command line the allow-list rejects is logged with its first item off the list
  (`TrivialPolicy.checkCmdlineItems_eq_false`), and nothing after it is checked.
-/

/-- **`StubParameters`**, the fields the policy reads: the three store paths and the kernel
command line, item by item. -/
structure StubParameters where
  /-- The lanzaboote stub's store path. -/
  lanzabooteStorePath : List Char
  /-- The kernel's store path. -/
  kernelStorePath : List Char
  /-- The initrd's store path. -/
  initrdStorePath : List Char
  /-- The kernel command line, one item a string. -/
  kernelCmdline : List String
  deriving DecidableEq, Repr

/-- **`TrivialPolicy`**: the allowed command-line items, when there is an allow-list. -/
structure TrivialPolicy where
  /-- `allowed_kernel_cmdline_items`: the members of the allow-list, or none. -/
  allowedKernelCmdlineItems : Option (List String)
  deriving DecidableEq, Repr

/-- **A policy check's outcome**: its answer, and the `trace!` lines it logged, in order. -/
structure Checked where
  /-- What the check returns. -/
  answer : Bool
  /-- What it logged on the way. -/
  log : List String
  deriving DecidableEq, Repr

namespace TrivialPolicy

/-- **`trusted_store_path`**: a store path is trusted when it exists. -/
def trustedStorePath (_self : TrivialPolicy) (pathExists : List Char → Bool)
    (storePath : List Char) : Checked :=
  ⟨pathExists storePath,
    ["trusted store path " ++ String.mk storePath ++ " → " ++ toString (pathExists storePath)]⟩

/-- The `for item in &parameters.kernel_cmdline` loop of `trusted_stub_parameters`: `false` at
the first item off the allow-list, with its log line, and `true` after the last item. -/
def checkCmdlineItems (allowedCmdlineItems : List String) : List String → Checked
  | [] => ⟨true, []⟩
  | item :: rest =>
    if !allowedCmdlineItems.contains item then
      ⟨false, ["untrusted command line item: " ++ item]⟩
    else checkCmdlineItems allowedCmdlineItems rest

/-- **`trusted_stub_parameters`**: the three store paths in turn, each checked only when the ones
before it were trusted, then the command line against the allow-list, if there is one. -/
def trustedStubParameters (self : TrivialPolicy) (pathExists : List Char → Bool)
    (parameters : StubParameters) : Checked :=
  let lanzaboote := self.trustedStorePath pathExists parameters.lanzabooteStorePath
  if !lanzaboote.answer then ⟨false, lanzaboote.log⟩ else
  let kernel := self.trustedStorePath pathExists parameters.kernelStorePath
  if !kernel.answer then ⟨false, lanzaboote.log ++ kernel.log⟩ else
  let initrd := self.trustedStorePath pathExists parameters.initrdStorePath
  if !initrd.answer then ⟨false, lanzaboote.log ++ kernel.log ++ initrd.log⟩ else
  let paths := lanzaboote.log ++ kernel.log ++ initrd.log
  match self.allowedKernelCmdlineItems with
  | some allowedCmdlineItems =>
    let items := checkCmdlineItems allowedCmdlineItems parameters.kernelCmdline
    ⟨items.answer, paths ++ items.log⟩
  | none => ⟨true, paths⟩

@[simp] theorem trustedStorePath_answer (self : TrivialPolicy) (pathExists : List Char → Bool)
    (storePath : List Char) : (self.trustedStorePath pathExists storePath).answer =
      pathExists storePath := rfl

/-! ## The command-line loop -/

/-- **The loop accepts exactly the command lines inside the allow-list**, whatever the position of
an item off it. -/
theorem checkCmdlineItems_answer (allowed items : List String) :
    (checkCmdlineItems allowed items).answer = true ↔ ∀ item ∈ items, item ∈ allowed := by
  induction items with
  | nil => simp [checkCmdlineItems]
  | cons item rest ih =>
    by_cases h : item ∈ allowed
    · simp [checkCmdlineItems, h, ih]
    · simp [checkCmdlineItems, h]

/-- **A rejected command line is logged with its first item off the list.** The loop answers
`false` exactly when the command line splits as items on the list, then one off it, then
anything; and then it logs that item alone, having checked nothing after it. -/
theorem checkCmdlineItems_eq_false (allowed items : List String) :
    (checkCmdlineItems allowed items).answer = false ↔
      ∃ pre item post, items = pre ++ item :: post ∧ (∀ x ∈ pre, x ∈ allowed) ∧
        item ∉ allowed ∧
        checkCmdlineItems allowed items = ⟨false, ["untrusted command line item: " ++ item]⟩ := by
  induction items with
  | nil => simp [checkCmdlineItems]
  | cons x rest ih =>
    by_cases h : x ∈ allowed
    · have hcons : checkCmdlineItems allowed (x :: rest) = checkCmdlineItems allowed rest := by
        simp [checkCmdlineItems, h]
      rw [hcons, ih]
      constructor
      · rintro ⟨pre, item, post, rfl, hpre, hitem, hc⟩
        exact ⟨x :: pre, item, post, rfl, by simpa [h] using hpre, hitem, hc⟩
      · rintro ⟨pre, item, post, hsplit, hpre, hitem, hc⟩
        cases pre with
        | nil => cases hsplit; exact absurd h hitem
        | cons y pre =>
          obtain ⟨rfl, rfl⟩ := List.cons.inj hsplit
          exact ⟨pre, item, post, rfl, fun z hz => hpre z (List.mem_cons_of_mem _ hz), hitem, hc⟩
    · have hc : checkCmdlineItems allowed (x :: rest) =
          ⟨false, ["untrusted command line item: " ++ x]⟩ := by
        simp [checkCmdlineItems, h]
      simp only [hc, true_iff]
      exact ⟨[], x, rest, rfl, by simp, h, rfl⟩

/-! ## The whole check -/

/-- **`trusted_stub_parameters` is the policy it states.** For every allow-list, every set of
parameters and every state of the file system, the answer is `true` exactly when the three
store paths exist and either there is no allow-list or every item of the kernel command line is
on it. -/
theorem trustedStubParameters_iff (self : TrivialPolicy) (pathExists : List Char → Bool)
    (p : StubParameters) :
    (self.trustedStubParameters pathExists p).answer = true ↔
      pathExists p.lanzabooteStorePath = true ∧ pathExists p.kernelStorePath = true ∧
        pathExists p.initrdStorePath = true ∧
        (self.allowedKernelCmdlineItems = none ∨
          ∃ allowed, self.allowedKernelCmdlineItems = some allowed ∧
            ∀ item ∈ p.kernelCmdline, item ∈ allowed) := by
  unfold trustedStubParameters
  cases hl : pathExists p.lanzabooteStorePath <;>
    cases hk : pathExists p.kernelStorePath <;>
    cases hi : pathExists p.initrdStorePath <;>
    simp only [trustedStorePath_answer, hl, hk, hi, Bool.not_false, Bool.not_true,
      if_true, if_false, Bool.false_eq_true, false_and, and_false, true_and]
  cases ha : self.allowedKernelCmdlineItems with
  | none => simp
  | some allowed => simp [checkCmdlineItems_answer]

example : (TrivialPolicy.trustedStubParameters ⟨some ["quiet"]⟩ (fun _ => true)
    ⟨[], [], [], ["quiet", "init=/bin/sh"]⟩).log.getLast? =
      some "untrusted command line item: init=/bin/sh" := by decide

end TrivialPolicy
