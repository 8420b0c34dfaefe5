import Lanzaboote.Basic
import Mathlib.Data.List.DropRight

/-!
# Unix paths, as `std::path` reads them

`lzbt` places the kernel and the initrd on the ESP and must tell the stub where: it strips the
ESP's mount point from each absolute path (`Path::strip_prefix`) and keeps what is left. What is
left is decided by how Rust's standard library reads a path, so this module models that reading
on Unix, from `library/std/src/path.rs`.

A path is read by the iterator `Components`. At its start it yields the root (`/`) or a leading
`.`; in its body it splits the text at `/` and yields every piece but the empty ones and `.`,
which it drops. `strip_prefix` walks the components of the path and of the base together
(`iter_after`), and returns the text the iterator has left, trimmed of leading and trailing
separators and `.` pieces (`Components::as_path`). The trimming is only at the ends: a `//` or a
`/./` inside the rest is kept in its text, though its components drop it.

The iterator is modelled from the front only, which is all `strip_prefix` uses: its back state
stays `Body`, so `as_path` always trims the end. The byte-by-byte loops of the source
(`parse_next_component`, `trim_left`, `trim_right`) are written as recursions over the text, one
separator at a time.
-/

/-- **A component of a Unix path** (`std::path::Component`; `Prefix` exists on Windows only). -/
inductive Component where
  | rootDir
  | curDir
  | parentDir
  | normal (name : List Char)
  deriving DecidableEq, Repr

/-- `Component::as_os_str`: the component's text. -/
def Component.asOsStr : Component → List Char
  | .rootDir => ['/']
  | .curDir => ['.']
  | .parentDir => ['.', '.']
  | .normal name => name

/-- Where the iterator reads from the front (`std::path::State`). The state before the start,
where a Windows path has its drive prefix, is passed at once on Unix and left out. -/
inductive State where
  | startDir
  | body
  | done
  deriving DecidableEq, Repr

/-- **The iterator `Path::components`**, as it reads from the front: the text it has left,
whether the path has a root, and its state. -/
structure Components where
  /-- The text not read yet. -/
  path : List Char
  /-- `has_physical_root`: the path starts with `/`. -/
  hasPhysicalRoot : Bool
  /-- Where the front of the iterator is. -/
  front : State
  deriving DecidableEq, Repr

/-- **`Path::components`**: the iterator at the start of the path. -/
def components (path : List Char) : Components :=
  ⟨path, path.head? = some '/', .startDir⟩

/-- `parse_single_component`: a piece between separators; the empty piece and `.` are dropped. -/
def parseSingleComponent : List Char → Option Component
  | [] => none
  | ['.'] => none
  | ['.', '.'] => some .parentDir
  | comp => some (.normal comp)

/-- The `Body` arm of `Components::next`: read the text up to the next separator
(`parse_next_component`, with the piece read so far reversed in `comp`), and go on past the
pieces that parse to nothing, until one parses or the text ends. -/
def nextBody : List Char → List Char → Option (Component × List Char)
  | comp, [] => (parseSingleComponent comp.reverse).map (·, [])
  | comp, '/' :: rest =>
    match parseSingleComponent comp.reverse with
    | some c => some (c, rest)
    | none => nextBody [] rest
  | comp, ch :: rest => nextBody (ch :: comp) rest

namespace Components

/-- `include_cur_dir`: a path without a root that starts with the piece `.`. -/
def includeCurDir (c : Components) : Bool :=
  !c.hasPhysicalRoot &&
    match c.path with
    | ['.'] => true
    | '.' :: b :: _ => b = '/'
    | _ => false

/-- The iterator reading its body from the text `rest`. -/
def inBody (c : Components) (rest : List Char) : Components :=
  { c with path := rest, front := .body }

/-- **`Components::next`** from the front: the root or a leading `.` first, then the body. -/
def next (c : Components) : Option (Component × Components) :=
  match c.front with
  | .startDir =>
    if c.hasPhysicalRoot then some (.rootDir, c.inBody (c.path.drop 1))
    else if c.includeCurDir then some (.curDir, c.inBody (c.path.drop 1))
    else (nextBody [] c.path).map fun r => (r.1, c.inBody r.2)
  | .body => (nextBody [] c.path).map fun r => (r.1, c.inBody r.2)
  | .done => none

/-- `len_before_body`: the root or leading `.` that the front has not read yet. -/
def lenBeforeBody (c : Components) : Nat :=
  match c.front with
  | .startDir =>
    (if c.hasPhysicalRoot then 1 else 0) + (if c.includeCurDir then 1 else 0)
  | _ => 0

end Components

/-- `trim_left`: drop the empty and `.` pieces at the front of a body. -/
def trimLeft : List Char → List Char
  | '/' :: rest => trimLeft rest
  | ['.'] => []
  | '.' :: '/' :: rest => trimLeft rest
  | path => path

/-- `trim_right`: drop the empty and `.` pieces at the end of a body. -/
def trimRight (path : List Char) : List Char := (trimLeft path.reverse).reverse

/-- **`Components::as_path`**: the text left, without empty or `.` pieces at either end of its
body (at the front only once the front is in the body). -/
def Components.asPath (c : Components) : List Char :=
  let path := if c.front = .body then trimLeft c.path else c.path
  path.take c.lenBeforeBody ++ trimRight (path.drop c.lenBeforeBody)

/-- `iter_after`: the iterator `iter` past the components `pre`, when it starts with them. -/
def iterAfter (iter : Components) : List Component → Option Components
  | [] => some iter
  | y :: ys =>
    match iter.next with
    | some (x, iter') => if x = y then iterAfter iter' ys else none
    | none => none

/-- The components still to come in a body, the piece read so far reversed in `comp`. -/
def bodyComponents : List Char → List Char → List Component
  | comp, [] => (parseSingleComponent comp.reverse).toList
  | comp, '/' :: rest => (parseSingleComponent comp.reverse).toList ++ bodyComponents [] rest
  | comp, ch :: rest => bodyComponents (ch :: comp) rest

/-- **The components an iterator still yields**, in order (what `collect` gathers). -/
def Components.collect (c : Components) : List Component :=
  match c.front with
  | .startDir =>
    if c.hasPhysicalRoot then .rootDir :: bodyComponents [] (c.path.drop 1)
    else if c.includeCurDir then .curDir :: bodyComponents [] (c.path.drop 1)
    else bodyComponents [] c.path
  | .body => bodyComponents [] c.path
  | .done => []

/-- **`Path::strip_prefix`**: the text of `self` left after the components of `base`, when
`self` starts with them. -/
def stripPrefix (self base : List Char) : Option (List Char) :=
  (iterAfter (components self) (components base).collect).map Components.asPath

/-! ## Pieces

What `strip_prefix` and `as_path` do is read off the pieces of the text between its separators
(`List.splitOn '/'`): the components are the pieces that parse, and the trimming drops, at either
end, the pieces that do not. The list facts this takes are stated first. -/

namespace List

variable {α : Type}

/-- Joining two or more pieces puts the separator after the first. -/
theorem intercalate_cons_cons (x : α) (a b : List α) (l : List (List α)) :
    [x].intercalate (a :: b :: l) = a ++ x :: [x].intercalate (b :: l) := by
  simp [intercalate, intersperse]

/-- One piece joined is that piece. -/
theorem intercalate_singleton (x : α) (a : List α) : [x].intercalate [a] = a := by
  simp [intercalate, intersperse]

/-- Joining pieces and one more puts the separator before the last. -/
theorem intercalate_append_singleton (x : α) {ls : List (List α)} (hls : ls ≠ []) (c : List α) :
    [x].intercalate (ls ++ [c]) = [x].intercalate ls ++ x :: c := by
  induction ls with
  | nil => exact absurd rfl hls
  | cons a l ih =>
    cases l with
    | nil => simp [intercalate_cons_cons, intercalate_singleton]
    | cons b l => rw [cons_append, cons_append, intercalate_cons_cons, ← cons_append,
        ih (cons_ne_nil _ _), intercalate_cons_cons, append_assoc, cons_append]

/-- The pieces of a joined list, reversed, are the reversed pieces in reverse order. -/
theorem reverse_intercalate (x : α) (ls : List (List α)) :
    ([x].intercalate ls).reverse = [x].intercalate (ls.reverse.map reverse) := by
  induction ls with
  | nil => rfl
  | cons a l ih =>
    cases l with
    | nil => simp [intercalate_singleton]
    | cons b l =>
      have hne : ((b :: l).reverse.map reverse) ≠ [] := by simp
      rw [intercalate_cons_cons, reverse_append, reverse_cons, ih, reverse_cons (a := a),
        map_append, map_singleton, intercalate_append_singleton x hne, append_assoc,
        singleton_append]

/-- Mapping a joined list joins the mapped pieces with the mapped separator. -/
theorem map_intercalate {β : Type} (f : α → β) (x : α) (ls : List (List α)) :
    ([x].intercalate ls).map f = [f x].intercalate (ls.map (map f)) := by
  induction ls with
  | nil => rfl
  | cons a l ih =>
    cases l with
    | nil => simp [intercalate_singleton]
    | cons b l => simp only [intercalate_cons_cons, map_append, map_cons, ih]

/-- No piece of a split holds an element the split cuts at. -/
theorem not_mem_of_mem_splitOnP {p : α → Bool} {xs l : List α} (h : l ∈ xs.splitOnP p) :
    ∀ y ∈ l, p y = false := by
  induction xs generalizing l with
  | nil => simp_all
  | cons y ys ih =>
    rw [splitOnP_cons] at h
    split at h
    · rcases mem_cons.mp h with rfl | h
      · simp
      · exact ih h
    · rename_i hy
      cases hs : splitOnP p ys with
      | nil => exact absurd hs (splitOnP_ne_nil p ys)
      | cons l₀ ls =>
        rw [hs, modifyHead_cons, mem_cons] at h
        rcases h with rfl | h
        · rintro z (_ | ⟨_, hz⟩)
          · simpa using hy
          · exact ih (hs ▸ mem_cons_self l₀ ls) z hz
        · exact ih (hs ▸ mem_cons_of_mem l₀ h)

/-- No piece of a split holds the separator. -/
theorem not_mem_of_mem_splitOn [DecidableEq α] {x : α} {xs l : List α} (h : l ∈ xs.splitOn x) :
    x ∉ l := fun hx => by simpa using not_mem_of_mem_splitOnP h x hx

/-- Splitting a reversed list gives the reversed pieces in reverse order. -/
theorem splitOn_reverse [DecidableEq α] (x : α) (xs : List α) :
    xs.reverse.splitOn x = (xs.splitOn x).reverse.map reverse := by
  conv_lhs => rw [← intercalate_splitOn xs x, reverse_intercalate]
  refine splitOn_intercalate _ x ?_ (by simpa using splitOnP_ne_nil _ _)
  simp only [mem_map, mem_reverse]
  rintro _ ⟨l, hl, rfl⟩
  simpa using not_mem_of_mem_splitOn hl

end List

/-- A piece of text that yields no component: the empty piece, or `.`. -/
def isDropped (piece : List Char) : Bool := piece = [] ∨ piece = ['.']

/-- A piece gives no component exactly when `Path::components` drops it. -/
theorem parseSingleComponent_eq_none {piece : List Char} :
    parseSingleComponent piece = none ↔ isDropped piece := by
  unfold parseSingleComponent isDropped
  split <;> simp_all

/-- A piece is dropped exactly when its reverse is. -/
@[simp] theorem isDropped_reverse (piece : List Char) : isDropped piece.reverse = isDropped piece := by
  simp [isDropped, List.reverse_eq_cons_iff]

/-- A piece that parses is the text of its component. -/
theorem asOsStr_of_parseSingleComponent {piece : List Char} {c : Component}
    (h : parseSingleComponent piece = some c) : c.asOsStr = piece := by
  unfold parseSingleComponent at h
  split at h <;> cases h <;> rfl

/-- A leading separator splits off an empty piece. -/
@[simp] theorem splitOn_sep_cons (rest : List Char) :
    ('/' :: rest).splitOn '/' = [] :: rest.splitOn '/' := by
  simp [List.splitOn]

/-- A leading character other than the separator starts the first piece. -/
theorem splitOn_cons_of_ne {c : Char} (h : c ≠ '/') (rest : List Char) :
    (c :: rest).splitOn '/' = (rest.splitOn '/').modifyHead (c :: ·) := by
  simp [List.splitOn, h]

/-- A text that starts neither with a separator nor with the piece `.` has a first piece that
yields a component. -/
theorem splitOn_head_kept {c : Char} {rest : List Char} (hc : c ≠ '/')
    (h₁ : c :: rest ≠ ['.']) (h₂ : ∀ r, c :: rest ≠ '.' :: '/' :: r) :
    ∃ f tl, (c :: rest).splitOn '/' = f :: tl ∧ isDropped f = false := by
  rw [splitOn_cons_of_ne hc]
  cases rest with
  | nil => exact ⟨[c], [], rfl, by simpa [isDropped] using h₁⟩
  | cons d rest =>
    by_cases hd : d = '/'
    · subst hd
      exact ⟨[c], rest.splitOn '/', by simp, by simpa [isDropped] using h₂ rest⟩
    · obtain ⟨g, gs, hg⟩ := List.exists_cons_of_ne_nil (List.splitOnP_ne_nil (· == '/') rest)
      refine ⟨c :: d :: g, gs, ?_, by simp [isDropped]⟩
      rw [splitOn_cons_of_ne hd]
      simp [List.splitOn, hg]

/-- **`trim_left` drops the leading pieces that yield nothing.** -/
theorem trimLeft_eq (path : List Char) :
    trimLeft path = ['/'].intercalate ((path.splitOn '/').dropWhile isDropped) := by
  induction path using trimLeft.induct with
  | case1 rest ih => simp [trimLeft, ih, isDropped]
  | case2 => rfl
  | case3 rest ih =>
    rw [trimLeft, ih, splitOn_cons_of_ne (by decide), splitOn_sep_cons]
    simp [isDropped]
  | case4 path h₁ h₂ h₃ =>
    have hp : trimLeft path = path := by
      unfold trimLeft; split <;> simp_all
    rw [hp]
    cases path with
    | nil => rfl
    | cons c rest =>
      obtain ⟨f, tl, hs, hf⟩ := splitOn_head_kept (fun h => h₁ rest (h ▸ rfl)) h₂
        (fun r h => h₃ r h)
      rw [hs, List.dropWhile_cons, if_neg (by simp [hf]), ← hs, List.intercalate_splitOn]

/-- **`trim_right` drops the trailing pieces that yield nothing.** -/
theorem trimRight_eq (path : List Char) :
    trimRight path = ['/'].intercalate ((path.splitOn '/').rdropWhile isDropped) := by
  have hrev : (isDropped ∘ List.reverse) = isDropped := funext isDropped_reverse
  rw [trimRight, trimLeft_eq, List.splitOn_reverse, List.dropWhile_map, hrev,
    List.reverse_intercalate, List.rdropWhile]
  simp [List.map_reverse, Function.comp_def]

/-- The pieces between the ends of a body that `as_path` keeps. -/
def innerPieces (path : List Char) : List (List Char) :=
  ((path.splitOn '/').dropWhile isDropped).rdropWhile isDropped

/-- No inner piece of a path holds a `/`. -/
theorem not_mem_of_mem_innerPieces {path piece : List Char} (h : piece ∈ innerPieces path) :
    '/' ∉ piece :=
  List.not_mem_of_mem_splitOn
    ((List.dropWhile_suffix _).subset ((List.rdropWhile_prefix _ _).subset h))

/-- The first piece `as_path` keeps yields a component. -/
theorem innerPieces_head {path f : List Char} {tl : List (List Char)}
    (h : innerPieces path = f :: tl) : isDropped f = false := by
  obtain ⟨t, ht⟩ := List.rdropWhile_prefix isDropped ((path.splitOn '/').dropWhile isDropped)
  rw [innerPieces] at h
  rw [h, List.cons_append] at ht
  have := List.head_dropWhile_not isDropped (path.splitOn '/') (by rw [← ht]; simp)
  simpa [← ht] using this

/-- **What `as_path` leaves of a body**: its pieces without those that yield nothing at either
end, joined again. -/
theorem trimRight_trimLeft (path : List Char) :
    trimRight (trimLeft path) = ['/'].intercalate (innerPieces path) := by
  rw [trimRight_eq, trimLeft_eq, innerPieces]
  by_cases hq : (path.splitOn '/').dropWhile isDropped = []
  · rw [hq]; rfl
  · rw [List.splitOn_intercalate _ _ (fun q hq =>
      List.not_mem_of_mem_splitOn ((List.dropWhile_suffix _).subset hq)) hq]

/-- A component without `/` has none when reversed. -/
theorem not_sep_of_mem_reverse {comp : List Char} (hcomp : '/' ∉ comp) :
    ∀ x ∈ comp.reverse, ¬(x == '/') = true := by
  intro x hx hsep
  rw [beq_iff_eq] at hsep
  exact hcomp (hsep ▸ List.mem_reverse.mp hx)

/-- **A body's components are its pieces that parse**, the piece read so far in `comp`. -/
theorem bodyComponents_eq (comp path : List Char) (hcomp : '/' ∉ comp) :
    bodyComponents comp path =
      ((comp.reverse ++ path).splitOn '/').filterMap parseSingleComponent := by
  induction comp, path using bodyComponents.induct with
  | case1 comp =>
    rw [bodyComponents, List.append_nil, List.splitOn,
      List.splitOnP_eq_single _ _ (not_sep_of_mem_reverse hcomp), List.filterMap_cons,
      List.filterMap_nil]
    cases parseSingleComponent comp.reverse <;> rfl
  | case2 comp rest ih =>
    rw [bodyComponents.eq_2, ih (List.not_mem_nil _), List.reverse_nil, List.nil_append,
      List.splitOn, List.splitOn,
      List.splitOnP_first _ _ (not_sep_of_mem_reverse hcomp) '/' (by simp), List.filterMap_cons]
    cases parseSingleComponent comp.reverse <;> rfl
  | case3 comp ch rest hch ih =>
    rw [bodyComponents.eq_3 _ _ _ hch, ih (by simp [hcomp, Ne.symm hch])]
    simp

namespace Components

/-- Once a component is taken, the iterator is past the front. -/
theorem next_front {c c' : Components} {x : Component} (h : c.next = some (x, c')) :
    c'.front = .body := by
  unfold next at h
  split at h
  · split at h
    · cases h; rfl
    · split at h
      · cases h; rfl
      · obtain ⟨_, -, h⟩ := Option.map_eq_some'.mp h
        cases h; rfl
  · obtain ⟨_, -, h⟩ := Option.map_eq_some'.mp h
    cases h; rfl
  · cases h

/-- Past at least one component, `iter_after` leaves the iterator in the body. -/
theorem iterAfter_front {it it' : Components} {ys : List Component} (hys : ys ≠ [])
    (h : iterAfter it ys = some it') : it'.front = .body := by
  induction ys generalizing it with
  | nil => exact absurd rfl hys
  | cons y ys ih =>
    unfold iterAfter at h
    split at h
    · rename_i x it₁ hn
      split at h
      · cases ys with
        | nil => cases h; exact next_front hn
        | cons => exact ih (List.cons_ne_nil _ _) h
      · cases h
    · cases h

end Components

/-- Only the empty path has no components. -/
theorem collect_components_ne_nil {path : List Char} (h : path ≠ []) :
    (components path).collect ≠ [] := by
  obtain ⟨c, rest, rfl⟩ := List.exists_cons_of_ne_nil h
  unfold Components.collect components
  simp only
  split
  · simp
  · split
    · simp
    · rename_i hr hcur
      have hc : c ≠ '/' := fun hc => hr (by simp [hc])
      obtain ⟨f, tl, hs, hf⟩ := @splitOn_head_kept c rest hc
        (fun he => hcur (by
          simp only [List.cons.injEq] at he
          obtain ⟨rfl, rfl⟩ := he
          rfl))
        (fun r he => hcur (by
          simp only [List.cons.injEq] at he
          obtain ⟨rfl, rfl⟩ := he
          rfl))
      rw [bodyComponents_eq [] _ (List.not_mem_nil _), List.reverse_nil, List.nil_append, hs,
        List.filterMap_cons]
      cases hp : parseSingleComponent f
      · exact absurd (parseSingleComponent_eq_none.mp hp) (by simp [hf])
      · simp
