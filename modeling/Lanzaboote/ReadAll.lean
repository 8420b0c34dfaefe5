import Lanzaboote.Basic

/-!
# Reading a whole file in 512-byte chunks

The boot loader reads the kernel into memory with `read_all`: it calls `RegularFile::read` on a
fresh zeroed 512-byte chunk, appends the first `read_bytes` bytes of the chunk to its buffer, and
stops at the first read that returns no bytes; `?` returns the status of a failed read.

The firmware is an opponent here, bound only by the contract of `read`: at the file's position
it either fails, or copies the next `k` unread bytes into the chunk and returns `k`, where `k` is
at least one and at most what fits and what is left while bytes are left, and zero at the end
(`ReadBehaviour.Honours`). The file's position advances by what each read returns, so it never
comes back to a position it had: the firmware's answers are a function of the position
(`ReadBehaviour`). Nothing else is assumed of them.

The loop has no bound of its own; it is modelled with fuel, and `none` means the fuel ran out
while it was still reading. The positions the loop visits are those `read` itself leads it to:
from the start, each read that returns bytes moves the position past them
(`ReadBehaviour.Reaches`). For every content and every behaviour that honours the contract,
`read_all` finishes within one call more than the file has bytes, never panics on the slice
`chunk[0..read_bytes]`, returns the content when no read inside the file fails, and returns an
error exactly when a read at a position it reaches fails, with that read's status
(`readAll_honours`). As the loop stops at the first read that fails, that read is the first
failing one of the run. The proof is one step lemma for a turn of the loop
(`readAllStep_honours`) and an induction on fuel for the run (`readAllLoop_honours`).
-/

/-- **The chunk `read` fills**: 512 bytes, whatever the firmware wrote into them. -/
structure Chunk where
  /-- The chunk's bytes. -/
  bytes : Bytes
  length_eq : bytes.length = 512
  deriving DecidableEq

/-- **What one call of `RegularFile::read` answers**: a failure, or the number of bytes it
reports, with the chunk as it left it. -/
inductive ReadAnswer where
  | err (status : Status)
  | ok (chunk : Chunk) (readBytes : Nat)
  deriving DecidableEq

/-- **The firmware's `read` on one file**: its answer at each position of the file. -/
def ReadBehaviour := Nat → ReadAnswer

/-- **The contract of `read` on a file holding `content`**, at every position up to its end:
a failure, or `k` bytes copied from the position, `1 ≤ k ≤ min 512 left` while bytes are left
and `k = 0` at the end. -/
def ReadBehaviour.Honours (read : ReadBehaviour) (content : Bytes) : Prop :=
  ∀ pos ≤ content.length, ∀ chunk k, read pos = .ok chunk k →
    (pos < content.length → 1 ≤ k ∧ k ≤ 512 ∧ k ≤ content.length - pos) ∧
    (pos = content.length → k = 0) ∧
    chunk.bytes.take k = (content.drop pos).take k

/-- A firmware that reads `n` bytes at a time, or what fits and what is left when less, and
fills the rest of the chunk with zeros. -/
def ReadBehaviour.ofContent (content : Bytes) (n : Nat) : ReadBehaviour := fun pos =>
  let k := min n (min 512 (content.length - pos))
  .ok ⟨(content.drop pos).take k ++ List.replicate (512 - ((content.drop pos).take k).length) 0,
    by simp only [List.length_append, List.length_replicate, List.length_take]; omega⟩ k

/-- Reading at least one byte at a time honours the contract. -/
theorem ReadBehaviour.ofContent_honours (content : Bytes) {n : Nat} (hn : 0 < n) :
    (ofContent content n).Honours content := by
  intro pos hpos chunk k hr
  simp only [ofContent, ReadAnswer.ok.injEq] at hr
  obtain ⟨rfl, rfl⟩ := hr
  refine ⟨fun hlt => by omega, fun heq => by omega, ?_⟩
  rw [List.take_append_of_le_length (by simp only [List.length_take, List.length_drop]; omega),
    List.take_take, min_self]

/-- A run of `read_all` that finished: a panic, or the `Result` it returns. -/
structure ReadAllRun where
  /-- How the run ended. -/
  result : Except Panic (Except Status Bytes)

/-- What one turn of the loop leads to: the end of the run, or the next turn from a position
with a buffer. -/
inductive LoopStep where
  | done (result : Except Panic (Except Status Bytes))
  | next (position : Nat) (buf : Bytes)

/-- **One turn of the `read_all` loop**: the answer of `read` at the position, then `?`, the
check for zero, and the slice `chunk[0..read_bytes]` appended to the buffer. -/
def readAllStep (answer : ReadAnswer) (position : Nat) (buf : Bytes) : LoopStep :=
  match answer with
  | .err status => .done (.ok (.error status))
  | .ok chunk readBytes =>
    if readBytes = 0 then .done (.ok (.ok buf))
    else if readBytes ≤ 512 then .next (position + readBytes) (buf ++ chunk.bytes.take readBytes)
    else .done (.error (.outOfBounds ("range end index " ++ toString readBytes ++
      " out of range for slice of length 512")))

/-- The `read_all` loop from a position with a buffer, for at most `fuel` turns. -/
def readAllLoop (read : ReadBehaviour) :
    (fuel position : Nat) → (buf : Bytes) → Option ReadAllRun
  | 0, _, _ => none
  | fuel + 1, position, buf =>
    match readAllStep (read position) position buf with
    | .done result => some ⟨result⟩
    | .next position' buf' => readAllLoop read fuel position' buf'

/-- **`read_all`**: the loop from the start of the file with an empty buffer. -/
def readAll (read : ReadBehaviour) (fuel : Nat) : Option ReadAllRun := readAllLoop read fuel 0 []

namespace ReadBehaviour

/-- **The loop gets from `pos` to `pos'`**: from `pos`, each read returns some bytes and moves
the file's position past them, until it is at `pos'`. -/
inductive Reaches (read : ReadBehaviour) : Nat → Nat → Prop
  | refl (pos : Nat) : Reaches read pos pos
  | step {pos pos' : Nat} {chunk : Chunk} {k : Nat} :
      read pos = .ok chunk k → 0 < k → Reaches read (pos + k) pos' → Reaches read pos pos'

/-- **How `read_all` should end from `pos`**: with no panic, with the content or an error, and
with an error exactly when a read inside the file that the loop reaches from `pos` fails, with
that read's status. -/
def EndsFrom (read : ReadBehaviour) (content : Bytes) (pos : Nat)
    (result : Except Panic (Except Status Bytes)) : Prop :=
  (result = .ok (.ok content) ∨ ∃ s, result = .ok (.error s)) ∧
    ∀ s, result = .ok (.error s) ↔ ∃ q ≤ content.length, read.Reaches pos q ∧ read q = .err s

variable {read : ReadBehaviour} {pos q : Nat}

/-- A read that does not move the position ends every path from it. -/
theorem Reaches.eq_of_stays (h : read.Reaches pos q)
    (hstay : ∀ chunk k, read pos = .ok chunk k → k = 0) : q = pos := by
  cases h with
  | refl => rfl
  | step hr hk _ => exact absurd (hstay _ _ hr) (Nat.pos_iff_ne_zero.mp hk)

/-- Past a read that returns `k` bytes, the loop reaches what it reaches from `pos + k`. -/
theorem reaches_iff_of_ok {chunk : Chunk} {k : Nat} (hr : read pos = .ok chunk k) (hk : 0 < k) :
    read.Reaches pos q ↔ q = pos ∨ read.Reaches (pos + k) q := by
  constructor
  · rintro (_ | ⟨hr', -, hrest⟩)
    · exact .inl rfl
    · rw [hr, ReadAnswer.ok.injEq] at hr'
      exact .inr (hr'.2 ▸ hrest)
  · rintro (rfl | hrest)
    exacts [.refl _, .step hr hk hrest]

/-- A run that ends as it should returns nothing but the content. -/
theorem EndsFrom.eq_of_ok {content data : Bytes} {result : Except Panic (Except Status Bytes)}
    (h : read.EndsFrom content pos result) (hr : result = .ok (.ok data)) : data = content := by
  rcases h.1 with h' | ⟨_, h'⟩ <;> rw [hr] at h'
  · exact (Except.ok.inj (Except.ok.inj h'))
  · cases h'

end ReadBehaviour

/-! ## One turn -/

/-- **One turn keeps the loop on the content.** From a position inside the file, with the bytes
before it in the buffer, a read that honours the contract either fails, or ends the loop with
the whole content at the end of the file, or moves to a later position with the bytes before
it in the buffer. No turn panics. -/
theorem readAllStep_honours {read : ReadBehaviour} {content : Bytes} (h : read.Honours content)
    {pos : Nat} (hpos : pos ≤ content.length) :
    (∃ status, read pos = .err status ∧
      readAllStep (read pos) pos (content.take pos) = .done (.ok (.error status))) ∨
    (∃ chunk, read pos = .ok chunk 0 ∧ pos = content.length ∧
      readAllStep (read pos) pos (content.take pos) = .done (.ok (.ok content))) ∨
    (∃ chunk k, read pos = .ok chunk k ∧ pos < pos + k ∧ pos + k ≤ content.length ∧
      readAllStep (read pos) pos (content.take pos) = .next (pos + k) (content.take (pos + k))) := by
  cases hr : read pos with
  | err status => exact .inl ⟨status, rfl, rfl⟩
  | ok chunk k =>
    obtain ⟨hleft, hend, hbytes⟩ := h pos hpos chunk k hr
    rcases Nat.lt_or_eq_of_le hpos with hlt | heq
    · obtain ⟨h1, h512, hk⟩ := hleft hlt
      refine .inr (.inr ⟨chunk, k, rfl, by omega, by omega, ?_⟩)
      rw [readAllStep, if_neg (by omega), if_pos h512, hbytes, List.take_add]
    · have hk := hend heq
      subst hk
      refine .inr (.inl ⟨chunk, rfl, heq, ?_⟩)
      rw [readAllStep, if_pos rfl, heq, List.take_length]

/-! ## The whole run -/

/-- **The run lemma.** From every position inside the file with the bytes before it in the
buffer, enough fuel (one turn more than the bytes left) finishes the loop as it should end from
there. -/
theorem readAllLoop_honours {read : ReadBehaviour} {content : Bytes} (h : read.Honours content) :
    ∀ fuel pos, pos ≤ content.length → content.length - pos < fuel →
      ∃ run, readAllLoop read fuel pos (content.take pos) = some run ∧
        read.EndsFrom content pos run.result := by
  intro fuel
  induction fuel with
  | zero => intro _ _ h0; omega
  | succ fuel ih =>
    intro pos hpos hfuel
    rcases readAllStep_honours h hpos with
      ⟨status, hr, hstep⟩ | ⟨chunk, hr, -, hstep⟩ | ⟨chunk, k, hr, hlt, hle, hstep⟩
    · -- the read fails: the loop returns its status, and reaches no other read
      refine ⟨_, by rw [readAllLoop, hstep], .inr ⟨status, rfl⟩, fun s => ?_⟩
      have hstay : ∀ c k, read pos = .ok c k → k = 0 := fun _ _ h' => by rw [hr] at h'; cases h'
      constructor
      · rintro ⟨⟩
        exact ⟨pos, hpos, .refl _, hr⟩
      · rintro ⟨q, -, hreach, hq⟩
        rw [hreach.eq_of_stays hstay, hr, ReadAnswer.err.injEq] at hq
        rw [hq]
    · -- the end of the file: the loop returns the content, and reaches no failing read
      refine ⟨_, by rw [readAllLoop, hstep], .inl rfl, fun s => ⟨nofun, ?_⟩⟩
      rintro ⟨q, -, hreach, hq⟩
      have hstay : ∀ c k, read pos = .ok c k → k = 0 := fun _ _ h' => by
        rw [hr, ReadAnswer.ok.injEq] at h'
        exact h'.2.symm
      rw [hreach.eq_of_stays hstay, hr] at hq
      cases hq
    · -- bytes read: the loop goes on from past them
      obtain ⟨run, hrun, hends, hiff⟩ := ih (pos + k) hle (by omega)
      refine ⟨run, by rw [readAllLoop, hstep]; exact hrun, hends, fun s => (hiff s).trans ?_⟩
      constructor
      · rintro ⟨q, hq, hreach, hqerr⟩
        exact ⟨q, hq, (ReadBehaviour.reaches_iff_of_ok hr (by omega)).mpr (.inr hreach), hqerr⟩
      · rintro ⟨q, hq, hreach, hqerr⟩
        rcases (ReadBehaviour.reaches_iff_of_ok hr (by omega)).mp hreach with rfl | hreach
        · rw [hr] at hqerr
          cases hqerr
        · exact ⟨q, hq, hreach, hqerr⟩

/-- More fuel does not change a run that finished. -/
theorem readAllLoop_mono {read : ReadBehaviour} :
    ∀ {fuel fuel' pos buf run}, fuel ≤ fuel' → readAllLoop read fuel pos buf = some run →
      readAllLoop read fuel' pos buf = some run := by
  intro fuel
  induction fuel with
  | zero => intro _ _ _ _ _ h; cases h
  | succ fuel ih =>
    intro fuel' pos buf run hle h
    obtain ⟨fuel', rfl⟩ : ∃ f, fuel' = f + 1 := ⟨fuel' - 1, by omega⟩
    rw [readAllLoop] at h ⊢
    split at h
    · exact h
    · exact ih (by omega) h

/-- **Every finished run ends as it should.** Whatever the fuel, a run of `read_all` that
finished on a file whose reads honour the contract ends as the loop should from the start. -/
theorem readAll_result_of_honours {read : ReadBehaviour} {content : Bytes}
    (h : read.Honours content) {fuel : Nat} {run : ReadAllRun}
    (hrun : readAll read fuel = some run) : read.EndsFrom content 0 run.result := by
  obtain ⟨run', hrun', hres⟩ :=
    readAllLoop_honours h (content.length + 1) 0 (Nat.zero_le _) (by omega)
  have h₁ := readAllLoop_mono (le_max_left fuel (content.length + 1)) hrun
  have h₂ := readAllLoop_mono (le_max_right fuel (content.length + 1)) hrun'
  rw [List.take_zero, h₁, Option.some.injEq] at h₂
  exact h₂ ▸ hres

/-- **`read_all` reads the file.** For every content, of any length, and every behaviour of
`read` that honours its contract: with fuel for one call more than the file has bytes, and with
any more fuel, `read_all` finishes and never panics on `chunk[0..read_bytes]`. It returns the
content or an error; the content when no read inside the file fails; and an error exactly when
a read at a position it reaches from the start fails, with that read's status. -/
theorem readAll_honours (content : Bytes) (read : ReadBehaviour) (h : read.Honours content) :
    ∃ run, (∀ fuel, content.length < fuel → readAll read fuel = some run) ∧
      (run.result = .ok (.ok content) ∨ ∃ s, run.result = .ok (.error s)) ∧
      ((∀ pos ≤ content.length, ∀ s, read pos ≠ .err s) → run.result = .ok (.ok content)) ∧
      ∀ s, run.result = .ok (.error s) ↔
        ∃ pos ≤ content.length, read.Reaches 0 pos ∧ read pos = .err s := by
  obtain ⟨run, hrun, hends, hiff⟩ :=
    readAllLoop_honours h (content.length + 1) 0 (Nat.zero_le _) (by omega)
  refine ⟨run, fun _ hfuel => readAllLoop_mono hfuel hrun, hends, fun hok => ?_, hiff⟩
  rcases hends with hc | ⟨s, hs⟩
  · exact hc
  · obtain ⟨pos, hpos, -, herr⟩ := (hiff s).mp hs
    exact absurd herr (hok pos hpos s)

theorem readAll_three_bytes :
    ∃ run, (∀ fuel, [1, 2, 3].length < fuel →
        readAll (ReadBehaviour.ofContent [1, 2, 3] 2) fuel = some run) ∧
      (run.result = .ok (.ok [1, 2, 3]) ∨ ∃ s, run.result = .ok (.error s)) ∧
      ((∀ pos ≤ [1, 2, 3].length, ∀ s, ReadBehaviour.ofContent [1, 2, 3] 2 pos ≠ .err s) →
        run.result = .ok (.ok [1, 2, 3])) ∧
      ∀ s, run.result = .ok (.error s) ↔ ∃ pos ≤ [1, 2, 3].length,
        (ReadBehaviour.ofContent [1, 2, 3] 2).Reaches 0 pos ∧
          ReadBehaviour.ofContent [1, 2, 3] 2 pos = .err s :=
  readAll_honours _ _ (ReadBehaviour.ofContent_honours [1, 2, 3] (by decide : 0 < 2))
