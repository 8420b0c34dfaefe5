import Lanzaboote.Path

/-!
# The ESP paths `lzbt` writes into the stub

The stub opens the kernel and the initrd by paths relative to the root of the ESP, written the
firmware's way: a leading `\` and `\` between the names. `lzbt` makes them from the absolute
paths on the build host (`esp_relative_path_string`): it strips the ESP's mount point with
`Path::strip_prefix`, replaces every `/` of what is left with `\`, and puts a `\` in front.

What is left after `strip_prefix` is text, not a list of names: `as_path` trims it at both ends
but keeps a `//` or a `/./` inside it. Such a piece survives into the embedded path as an empty
or a `.` piece between two `\`, though `Path::components` drops it. So the embedded path has
the remainder's components as its names, and is exactly those names joined by `\` only when the
remainder has no such piece inside (`Lanzatool.espRelativePathString_pieces`).
-/

namespace Lanzatool

/-- **`esp_relative_path_string`**: the path's text after the ESP, `/` turned into `\`, behind a
`\`. The conversion to a `String` cannot fail here: the model's paths are Unicode text. -/
def espRelativePathString (esp path : List Char) : Except Panic (List Char) :=
  match stripPrefix path esp with
  | some relativePath => .ok ('\\' :: relativePath.map fun c => if c = '/' then '\\' else c)
  | none => .error (.expect "Failed to make path relative to esp")

/-- An embedded path is never empty: it starts with `\`. -/
theorem espRelativePathString_ne_nil {esp path r : List Char}
    (h : espRelativePathString esp path = .ok r) : r ≠ [] := by
  unfold espRelativePathString at h
  split at h
  · cases h
    exact List.cons_ne_nil _ _
  · cases h

end Lanzatool

/-- Past at least one component, what `as_path` returns is the inner pieces of the body. -/
theorem Components.asPath_of_front {c : Components} (h : c.front = .body) :
    c.asPath = ['/'].intercalate (innerPieces c.path) := by
  simp [asPath, lenBeforeBody, h, trimRight_trimLeft]

/-- A path with no root and no leading `.` is all body. -/
theorem collect_components_of_body {x : List Char} (hroot : (components x).hasPhysicalRoot = false)
    (hcur : (components x).includeCurDir = false) :
    (components x).collect = bodyComponents [] x := by
  unfold Components.collect
  rw [if_neg (by simp [hroot]), if_neg (by simp [hcur])]
  rfl

/-- A text whose first piece yields a component is all body: its components are its pieces
that parse. -/
theorem collect_components_intercalate {f : List Char} {tl : List (List Char)}
    (hf : isDropped f = false) (hsep : ∀ q ∈ f :: tl, '/' ∉ q) :
    (components (['/'].intercalate (f :: tl))).collect =
      (f :: tl).filterMap parseSingleComponent := by
  obtain ⟨c, f', rfl⟩ : ∃ c f', f = c :: f' := by
    cases f with
    | nil => simp [isDropped] at hf
    | cons c f' => exact ⟨c, f', rfl⟩
  have hc : c ≠ '/' := fun h => hsep _ (List.mem_cons_self _ _) (h ▸ List.mem_cons_self _ _)
  obtain ⟨s, hs, hs'⟩ : ∃ s, ['/'].intercalate ((c :: f') :: tl) = c :: (f' ++ s) ∧
      (s = [] ∨ s.head? = some '/') := by
    cases tl with
    | nil => exact ⟨[], by simp [List.intercalate_singleton], .inl rfl⟩
    | cons g tl => exact ⟨'/' :: ['/'].intercalate (g :: tl),
        by rw [List.intercalate_cons_cons]; simp, .inr rfl⟩
  have hroot : (components (c :: (f' ++ s))).hasPhysicalRoot = false := by simp [components, hc]
  have hcur : (components (c :: (f' ++ s))).includeCurDir = false := by
    simp only [Components.includeCurDir, hroot, Bool.not_false, Bool.true_and, components]
    cases f' with
    | nil =>
      have : c ≠ '.' := by simpa [isDropped] using hf
      split <;> simp_all
    | cons b f' =>
      have hb : b ≠ '/' := fun h => hsep _ (List.mem_cons_self _ _)
        (h ▸ List.mem_cons_of_mem _ (List.mem_cons_self _ _))
      split <;> simp_all
  rw [hs, collect_components_of_body hroot hcur, bodyComponents_eq [] _ (List.not_mem_nil _),
    List.reverse_nil, List.nil_append, ← hs,
    List.splitOn_intercalate _ _ hsep (List.cons_ne_nil _ _)]

/-- Pieces that all yield components are the texts of the components they yield. -/
theorem map_asOsStr_filterMap {R : List (List Char)} (h : ∀ q ∈ R, isDropped q = false) :
    (R.filterMap parseSingleComponent).map Component.asOsStr = R := by
  induction R with
  | nil => rfl
  | cons q R ih =>
    obtain ⟨c, hc⟩ : ∃ c, parseSingleComponent q = some c := by
      cases hp : parseSingleComponent q with
      | none =>
        have := parseSingleComponent_eq_none.mp hp
        rw [h q (List.mem_cons_self _ _)] at this
        cases this
      | some c => exact ⟨c, rfl⟩
    rw [List.filterMap_cons_some hc, List.map_cons, asOsStr_of_parseSingleComponent hc,
      ih fun q' hq' => h q' (List.mem_cons_of_mem _ hq')]

/-- Turning `/` into `\` leaves a piece without `/` as it was. -/
theorem map_backslash_of_not_mem {q : List Char} (hq : '/' ∉ q) :
    q.map (fun c => if c = '/' then '\\' else c) = q :=
  (List.map_congr_left fun x hx => if_neg fun h : x = '/' => hq (h ▸ hx)).trans (List.map_id' _)

/-- A piece holds no `\` when the component it yields, if any, holds none: a dropped piece is
empty or `.`. -/
theorem backslash_not_mem_piece {q : List Char}
    (h : ∀ c, parseSingleComponent q = some c → '\\' ∉ c.asOsStr) : '\\' ∉ q := by
  cases hp : parseSingleComponent q with
  | none =>
    rcases (by simpa [isDropped] using parseSingleComponent_eq_none.mp hp) with rfl | rfl <;> simp
  | some c => exact asOsStr_of_parseSingleComponent hp ▸ h c hp

/-- **Joined by `\`, pieces are their components only when none is dropped**: the `\` of the
join separates the same texts on both sides. -/
theorem not_dropped_of_intercalate_eq {R : List (List Char)}
    (hsep : ∀ c ∈ R.filterMap parseSingleComponent, '\\' ∉ c.asOsStr)
    (hn : R.filterMap parseSingleComponent ≠ [])
    (h : ['\\'].intercalate R =
      ['\\'].intercalate ((R.filterMap parseSingleComponent).map Component.asOsStr)) :
    ∀ q ∈ R, isDropped q = false := by
  have hbs : ∀ q ∈ R, '\\' ∉ q := fun q hq => backslash_not_mem_piece fun c hc =>
    hsep c (List.mem_filterMap.mpr ⟨q, hq, hc⟩)
  have hcs : ∀ q ∈ (R.filterMap parseSingleComponent).map Component.asOsStr, '\\' ∉ q := by
    simp only [List.mem_map]
    rintro _ ⟨c, hc, rfl⟩
    exact hsep c hc
  have heq := congrArg (List.splitOn '\\') h
  rw [List.splitOn_intercalate _ _ hbs fun hR => hn (by rw [hR]; rfl),
    List.splitOn_intercalate _ _ hcs (by simpa using hn)] at heq
  intro q hq
  obtain ⟨c, hc, rfl⟩ := List.mem_map.mp (heq ▸ hq)
  obtain ⟨q', -, hq'⟩ := List.mem_filterMap.mp hc
  rw [asOsStr_of_parseSingleComponent hq']
  cases h' : isDropped q'
  · rfl
  · rw [parseSingleComponent_eq_none.mpr h'] at hq'; cases hq'

namespace Lanzatool

/-- **The ESP path `lzbt` embeds**, for every ESP but the empty path and every path under it:
a `\` and the remainder's pieces joined by `\`, where the pieces that yield components are the
remainder's components. It is those components joined by `\` exactly when no piece of the
remainder is empty or `.`. -/
theorem espRelativePathString_pieces (esp path r : List Char) (hesp : esp ≠ [])
    (hr : stripPrefix path esp = some r) (hn : (components r).collect ≠ [])
    (hsep : ∀ c ∈ (components r).collect, '\\' ∉ c.asOsStr) :
    espRelativePathString esp path = .ok ('\\' :: ['\\'].intercalate (r.splitOn '/')) ∧
    (r.splitOn '/').filterMap parseSingleComponent = (components r).collect ∧
    (espRelativePathString esp path =
        .ok ('\\' :: ['\\'].intercalate ((components r).collect.map Component.asOsStr)) ↔
      ∀ piece ∈ r.splitOn '/', isDropped piece = false) := by
  have hres : espRelativePathString esp path =
      .ok ('\\' :: r.map fun c => if c = '/' then '\\' else c) := by
    simp [espRelativePathString, hr]
  obtain ⟨it, hit, rfl⟩ := Option.map_eq_some'.mp hr
  rw [Components.asPath_of_front
    (Components.iterAfter_front (collect_components_ne_nil hesp) hit)] at hres hn hsep ⊢
  obtain ⟨f, tl, hR⟩ : ∃ f tl, innerPieces it.path = f :: tl := by
    cases h : innerPieces it.path with
    | nil => rw [h] at hn; exact absurd rfl hn
    | cons f tl => exact ⟨f, tl, rfl⟩
  have hsl : ∀ q ∈ f :: tl, '/' ∉ q := fun q hq => not_mem_of_mem_innerPieces (hR ▸ hq)
  rw [hR, collect_components_intercalate (innerPieces_head hR) hsl] at hn hsep ⊢
  rw [hR, List.map_intercalate, if_pos rfl, List.map_congr_left fun q hq =>
    map_backslash_of_not_mem (hsl q hq), List.map_id'] at hres
  rw [List.splitOn_intercalate _ _ hsl (List.cons_ne_nil _ _), hres]
  exact ⟨rfl, rfl, fun h => not_dropped_of_intercalate_eq hsep hn
    (List.cons_injective (Except.ok.inj h)), fun h => by rw [map_asOsStr_filterMap h]⟩

theorem espRelativePathString_kernel :
    let r := "EFI/nixos/kernel.efi".toList
    espRelativePathString "/esp".toList "/esp/EFI/nixos/kernel.efi".toList =
        .ok ('\\' :: ['\\'].intercalate (r.splitOn '/')) ∧
      (r.splitOn '/').filterMap parseSingleComponent = (components r).collect ∧
      (espRelativePathString "/esp".toList "/esp/EFI/nixos/kernel.efi".toList =
          .ok ('\\' :: ['\\'].intercalate ((components r).collect.map Component.asOsStr)) ↔
        ∀ piece ∈ r.splitOn '/', isDropped piece = false) :=
  espRelativePathString_pieces _ _ _ (by decide) (by decide) (by decide) (by decide)

/-- **A `//` inside the remainder survives into the embedded path**: under `/esp`, the path
`/esp/a//b` leaves the components `a` and `b`, and is embedded as `\a\\b`, not `\a\b`. -/
theorem espRelativePathString_keeps_empty_piece :
    ¬ ∀ esp path r : List Char, stripPrefix path esp = some r → (components r).collect ≠ [] →
      (∀ c ∈ (components r).collect, '\\' ∉ c.asOsStr) →
      espRelativePathString esp path =
        .ok ('\\' :: ['\\'].intercalate ((components r).collect.map Component.asOsStr)) := by
  intro h
  have := h "/esp".toList "/esp/a//b".toList "a//b".toList (by decide) (by decide) (by decide)
  revert this
  decide

/-- Under the empty ESP the remainder keeps the path's root, and the embedded path starts
with two `\`. -/
example : espRelativePathString [] "/a".toList = .ok "\\\\a".toList := by decide

end Lanzatool
