import QueryTree.Files.Disk

/-!
# What the operations on a disk change

Making directories adds directories where nothing was and changes nothing else: no file, no
directory that was there, and neither the working directory nor the home directory.  Writing a file
changes one place.  That place is the one that the path resolves to from the working directory,
because the way to it is followed part by part, as resolving does, and every part is found to be a
directory.

## Main definitions

* `Disk.AddsDirectories`: one disk is another one with more directories.

## Main results

* `Disk.locate_eq_resolve` — a path that can be followed leads to where it resolves to.
* `Disk.addsDirectories_makeDirectories` — **making directories changes no file.**
* `Disk.write_eq_put` — **writing a file changes the place of its path and nothing else.**
-/

namespace QueryTree.Disk

/-! ### The place of a path -/

/-- Following a way, part by part, leads where its parts lead. -/
theorem follow_eq_foldl {d : Disk} {l m : Location} {parts : List Text}
    (h : d.follow l parts = .ok m) : m = parts.foldl Path.step l := by
  induction parts generalizing l with
  | nil =>
    rw [follow] at h
    split at h
    · exact (Except.ok.inj h).symm
    · cases h
    · cases h
  | cons part parts ih =>
    rw [follow] at h
    split at h
    · exact ih h
    · cases h
    · cases h

/-- **A path that can be followed leads to where it resolves to.** -/
theorem locate_eq_resolve {d : Disk} {p : Path} {l : Location} (h : d.locate p = .ok l) :
    l = p.resolve d.workingDirectory := by
  have hresolve : p.resolve d.workingDirectory = p.parts.foldl Path.step (d.start p) := rfl
  rw [hresolve]
  unfold locate at h
  split at h
  · next hlast =>
    rw [List.getLast?_eq_none_iff.mp hlast]
    exact (Except.ok.inj h).symm
  · next name hlast =>
    obtain ⟨front, hparts⟩ := List.getLast?_eq_some_iff.mp hlast
    rw [hparts, List.dropLast_concat] at h
    rw [hparts, List.foldl_append]
    cases hfollow : d.follow (d.start p) front with
    | error fault =>
      rw [hfollow] at h
      cases h
    | ok m =>
      rw [hfollow] at h
      rw [← follow_eq_foldl hfollow, ← Except.ok.inj h]
      rfl

/-! ### Making directories -/

/-- One disk is another one with more directories: there may be a directory where nothing was, and
everything else is the same. -/
structure AddsDirectories (d d' : Disk) : Prop where
  workingDirectory : d'.workingDirectory = d.workingDirectory
  home : d'.home = d.home
  find? : ∀ l, d'.find? l = d.find? l ∨ (d.find? l = none ∧ d'.find? l = some .directory)

theorem AddsDirectories.refl (d : Disk) : d.AddsDirectories d :=
  ⟨rfl, rfl, fun _ => Or.inl rfl⟩

theorem AddsDirectories.trans {d d' d'' : Disk} (h : d.AddsDirectories d')
    (h' : d'.AddsDirectories d'') : d.AddsDirectories d'' := by
  refine ⟨h'.workingDirectory.trans h.workingDirectory, h'.home.trans h.home, fun l => ?_⟩
  rcases h.find? l with hsame | ⟨hnone, hnew⟩ <;> rcases h'.find? l with hsame' | ⟨hnone', hnew'⟩
  · exact Or.inl (hsame'.trans hsame)
  · exact Or.inr ⟨hsame.symm.trans hnone', hnew'⟩
  · exact Or.inr ⟨hnone, hsame'.trans hnew⟩
  · -- a directory that was made is not missing
    rw [hnew] at hnone'
    cases hnone'

/-- A directory where nothing was. -/
theorem addsDirectories_put {d : Disk} {l : Location} (h : d.find? l = none) :
    d.AddsDirectories (d.put l .directory) := by
  have hroot : l ≠ [] := by
    rintro rfl
    cases h
  refine ⟨rfl, rfl, fun m => ?_⟩
  by_cases hm : m = l
  · subst hm
    exact Or.inr ⟨h, find?_put_self d hroot .directory⟩
  · exact Or.inl (find?_put_of_ne d hm .directory)

theorem addsDirectories_makeDirectory {d d' : Disk} {p : Path}
    (h : d.makeDirectory p = .ok d') : d.AddsDirectories d' := by
  unfold makeDirectory at h
  split at h
  · cases h
  · split at h
    · cases h
    · next l _ hnone =>
      rw [← Except.ok.inj h]
      exact addsDirectories_put (by simpa using hnone)

theorem addsDirectories_ensureDirectory {d d' : Disk} {p : Path}
    (h : d.ensureDirectory p = .ok d') : d.AddsDirectories d' := by
  unfold ensureDirectory at h
  split at h
  · next hmade =>
    rw [← Except.ok.inj h]
    exact addsDirectories_makeDirectory hmade
  · split at h
    · rw [← Except.ok.inj h]
      exact AddsDirectories.refl d
    · cases h

/-- The way to a directory is made from the first directory that is missing on. -/
theorem addsDirectories_makeWay {d d' : Disk} {absolute : Bool} {parts : List Text}
    (h : d.makeWay absolute parts = .ok d') : d.AddsDirectories d' := by
  induction parts generalizing d' with
  | nil =>
    rw [← Except.ok.inj h]
    exact AddsDirectories.refl d
  | cons part above ih =>
    rw [makeWay] at h
    split at h
    · next hmade =>
      rw [← Except.ok.inj h]
      exact addsDirectories_ensureDirectory hmade
    · split at h
      · cases h
      · next d₁ habove =>
        cases hmade : d₁.ensureDirectory ⟨absolute, (part :: above).reverse⟩ with
        | error fault =>
          rw [hmade] at h
          cases h
        | ok d₂ =>
          rw [hmade] at h
          rw [← Except.ok.inj h]
          exact (ih habove).trans (addsDirectories_ensureDirectory hmade)
    · cases h

/-- **Making directories changes no file**, no directory that was there, and not the working
directory. -/
theorem addsDirectories_makeDirectories {d d' : Disk} {p : Path}
    (h : d.makeDirectories p = .ok d') : d.AddsDirectories d' :=
  addsDirectories_makeWay h

/-! ### Writing a file -/

/-- **Writing a file changes the place of its path and nothing else.** -/
theorem write_eq_put {d d' : Disk} {p : Path} {c : Content} (h : d.write p c = .ok d') :
    p.resolve d.workingDirectory ≠ [] ∧ d' = d.put (p.resolve d.workingDirectory) (.file c) := by
  unfold write at h
  split at h
  · cases h
  · next l hlocate =>
    rw [← locate_eq_resolve hlocate]
    split at h
    · cases h
    · next hdirectory =>
      refine ⟨?_, (Except.ok.inj h).symm⟩
      -- the root is a directory
      rintro rfl
      exact hdirectory rfl

end QueryTree.Disk
