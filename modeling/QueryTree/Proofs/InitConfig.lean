import QueryTree.Proofs.Keeping
import QueryTree.Proofs.SavedConfig
import QueryTree.Session.InitConfig

/-!
# What writing a configuration file does to the disk

The command either complains and leaves the disk alone, or it saves the standard configuration at
the place that its path resolves to, and then nothing but a message is left that can go wrong.  So
a disk is changed at that place only, apart from directories that are made on the way to it, and
what stands there is loaded as the standard configuration.

A place is reached again by its own path because the path has no detours: resolving has removed
them, and the working directory has none.

## Main results

* `Path.resolve_ofLocation` — a place without detours is reached by its path.
* `Action.initConfig_cases` — **what the command does**: it gives up, or it saves the standard
  configuration.
* `Action.files_initConfig` — **what becomes of the files on the disk.**
-/

namespace QueryTree

/-! ### Places -/

namespace Path

/-- Resolving leaves no detours where there were none. -/
theorem up_notMem_foldl_step {parts : List Text} {l : Location} (hl : up ∉ l) :
    up ∉ parts.foldl step l := by
  induction parts generalizing l with
  | nil => exact hl
  | cons part parts ih =>
    refine ih ?_
    unfold step
    split
    · intro h
      exact hl (List.dropLast_subset l h)
    · next hpart =>
      intro h
      rw [List.mem_append, List.mem_singleton] at h
      rcases h with h | h
      · exact hl h
      · exact hpart h.symm

theorem up_notMem_resolve {workingDirectory : Location} (h : up ∉ workingDirectory) (p : Path) :
    up ∉ p.resolve workingDirectory := by
  apply up_notMem_foldl_step
  split
  · simp
  · exact h

/-- Parts that are no detours are followed one by one. -/
theorem foldl_step_of_notMem {parts : List Text} (h : up ∉ parts) (l : Location) :
    parts.foldl step l = l ++ parts := by
  induction parts generalizing l with
  | nil => simp
  | cons part parts ih =>
    rw [List.mem_cons, not_or] at h
    rw [List.foldl_cons, ih h.2, step, if_neg (Ne.symm h.1), List.append_assoc,
      List.singleton_append]

/-- A place without detours is reached by its path, from wherever. -/
theorem resolve_ofLocation {l : Location} (h : up ∉ l) (workingDirectory : Location) :
    (ofLocation l).resolve workingDirectory = l :=
  foldl_step_of_notMem h []

end Path

namespace Config

theorem load_of_place {d : Disk} {p : Path} {l : Location} (h : place d p = .ok l) :
    load d (some p) = loadAt d l := by
  unfold load
  rw [Option.getD_some, h]
  rfl

theorem place_ofLocation {l : Location} (h : Path.up ∉ l) (d : Disk) :
    place d (.ofLocation l) = .ok l :=
  congrArg Except.ok (Path.resolve_ofLocation h _)

/-- The place of a path has no detours if the working directory has none. -/
theorem up_notMem_of_place {d : Disk} {p : Path} {l : Location} (hd : Path.up ∉ d.workingDirectory)
    (h : place d p = .ok l) : Path.up ∉ l := by
  unfold place at h
  cases hexpand : p.expandHome (.ofLocation d.home) with
  | error e =>
    rw [hexpand] at h
    cases h
  | ok q =>
    rw [hexpand] at h
    rw [← Except.ok.inj h]
    exact Path.up_notMem_resolve hd q

/-- Saving a configuration at a place changes no file elsewhere, and what stands at the place is
loaded as that configuration. -/
theorem files_save {c : Config} {d d' : Disk} {source : Option Path} {target : Location}
    {written : Path} (hup : Path.up ∉ target)
    (hsave : c.save d source (some (.ofLocation target)) = .ok (written, d')) :
    (∀ l content, l ≠ target →
      (d'.find? l = some (.file content) ↔ d.find? l = some (.file content))) ∧
      load d' (some (.ofLocation target))
        = c.validate.map fun warnings => ⟨c, some target, warnings⟩ := by
  obtain ⟨hexpand, hroot, d₁, hadds, rfl⟩ := save_eq_put hsave
  have hwritten : written = .ofLocation target := (Except.ok.inj hexpand).symm
  rw [hwritten, Path.resolve_ofLocation hup] at hroot ⊢
  constructor
  · intro l content hl
    rw [Disk.find?_put_of_ne _ hl]
    rcases hadds.find? l with hsame | ⟨hnone, hnew⟩
    · rw [hsame]
    · simp [hnone, hnew]
  · rw [load_of_place (place_ofLocation hup _)]
    exact loadAt_document (Disk.find?_put_self d₁ hroot _)

end Config

namespace Action

open Session (setting)

variable {s : Session}

/-! ### The command -/

/-- A run of an action gave up: it kept the setting, and its exit code is 1. -/
structure GivesUp (s : Session) (run : Except Halt Unit × Session) : Prop where
  setting_eq : run.2.setting = s.setting
  exitCode_eq : (Outcome.of run.1).exitCode = 1

theorem givesUp_complain (message hint : Text) (s : Session) :
    GivesUp s ((complain message hint).run s) := by
  refine ⟨(keeps_complain message hint).view_run s, ?_⟩
  rw [complain, run_bind, run_printing]
  cases ((Terminal.error message hint).run s.terminal).1 with
  | ok _ => rfl
  | error e => rfl

theorem givesUp_fail (f : Failure) (s : Session) : GivesUp s ((fail f).run s) := ⟨rfl, rfl⟩

/-- A run of an action saved the standard configuration at a place: the disk is the one after
saving, the switches are as they were, and if anything went wrong it was a failure. -/
structure SavesStandard (s : Session) (target : Location) (run : Except Halt Unit × Session) :
    Prop where
  save_eq : ∃ written,
    ({} : Config).save s.disk none (some (.ofLocation target)) = .ok (written, run.2.disk)
  switches_eq : run.2.terminal.switches = s.terminal.switches
  outcome_ne : Outcome.of run.1 ≠ ⟨1, none⟩

/-- A message that cannot be shown is a failure. -/
theorem outcome_printing_ne (p : Printing Unit) (s : Session) :
    Outcome.of ((printing p).run s).1 ≠ ⟨1, none⟩ := by
  rw [run_printing]
  cases (p.run s.terminal).1 with
  | ok _ => exact fun h => nomatch h
  | error e => exact fun h => nomatch h

/-- Once the configuration is saved, only a message is left. -/
theorem savesStandard_of_save {s : Session} {target : Location} {written : Path} {d : Disk}
    (hsave : ({} : Config).save s.disk none (some (.ofLocation target)) = .ok (written, d))
    (talkative : Bool) {p : Printing Unit} (hp : Keeps Terminal.switches p) :
    SavesStandard s target ((set { s with disk := d } >>= fun _ =>
      if talkative then printing p else pure () : Action Unit).run s) := by
  have hrun : (set { s with disk := d } >>= fun _ =>
      if talkative then printing p else pure () : Action Unit).run s
      = (if talkative then printing p else pure () : Action Unit).run { s with disk := d } := rfl
  have hkeeps : Keeps setting (if talkative then printing p else pure () : Action Unit) :=
    (keeps_printing hp).ite (keeps_pure ())
  have hsetting := hkeeps.view_run { s with disk := d }
  rw [← hrun] at hsetting
  obtain ⟨hswitches, hdisk⟩ := Prod.mk.inj hsetting
  refine ⟨⟨written, ?_⟩, hswitches, ?_⟩
  · rw [hsave, hdisk]
  · rw [hrun]
    split
    · exact outcome_printing_ne p _
    · exact fun h => nomatch h

/-- **What the command does**: it gives up, or it saves the standard configuration at the place of
its path, and then nothing was there or it may be overwritten. -/
theorem initConfig_cases (ctx : Context) (force : Bool) (output : Option Path) (s : Session) :
    GivesUp s ((initConfig ctx force output).run s) ∨
      ∃ target, Config.place s.disk (output.getD (Config.defaultPath s.disk)) = .ok target ∧
        (s.disk.find? target = none ∨ force = true) ∧
        SavesStandard s target ((initConfig ctx force output).run s) := by
  rw [initConfig, run_get_bind]
  cases hplace : Config.place s.disk (output.getD (Config.defaultPath s.disk)) with
  | error e => exact Or.inl (givesUp_fail ..)
  | ok target =>
    dsimp only
    split
    · exact Or.inl (givesUp_complain ..)
    · next hguard =>
      have hfree : s.disk.find? target = none ∨ force = true := by
        cases force with
        | true => exact Or.inr rfl
        | false => exact Or.inl (by simpa using hguard)
      split
      · exact Or.inl (givesUp_complain ..)
      · exact Or.inl (givesUp_fail ..)
      · next written d hsave =>
        exact Or.inr ⟨target, rfl, hfree, savesStandard_of_save hsave _ (Terminal.keeps_print ..)⟩

/-! ### The files -/

/-- **What becomes of the files on the disk.**  A file that is not at the place of the path is as it
was.  What is at the place stays if it may not be overwritten.  No file is new or changed if the
command ends with exit code 1 and no failure.  And if the command comes to its end, or if anything
changed at the place, the standard configuration is loaded from there, without warnings. -/
theorem files_initConfig (ctx : Context) (force : Bool) (output : Option Path) {s : Session}
    (hs : Path.up ∉ s.disk.workingDirectory) :
    let place := Config.place s.disk (output.getD (Config.defaultPath s.disk))
    let outcome := (Session.perform (initConfig ctx force output) s).1
    let disk := (Session.perform (initConfig ctx force output) s).2.disk
    (∀ l c, place ≠ .ok l →
      (disk.find? l = some (.file c) ↔ s.disk.find? l = some (.file c))) ∧
    (∀ l, place = .ok l → force = false → s.disk.find? l ≠ none →
      disk.find? l = s.disk.find? l) ∧
    (outcome = ⟨1, none⟩ → ∀ l c,
      (disk.find? l = some (.file c) ↔ s.disk.find? l = some (.file c))) ∧
    ∀ l, place = .ok l → outcome = ⟨0, none⟩ ∨ disk.find? l ≠ s.disk.find? l →
      Config.load disk (some (.ofLocation l)) = .ok ⟨{}, some l, []⟩ := by
  intro place outcome disk
  rcases initConfig_cases ctx force output { s with terminal := s.terminal.cleared } with
    hgives | ⟨target, hplace, hfree, hsaves⟩
  · have hdisk : disk = s.disk := congrArg Prod.snd hgives.setting_eq
    have hcode : outcome.exitCode = 1 := hgives.exitCode_eq
    rw [hdisk]
    refine ⟨fun _ _ _ => Iff.rfl, fun _ _ _ _ => rfl, fun _ _ _ => Iff.rfl, fun l _ h => ?_⟩
    rcases h with h | h
    · rw [h] at hcode
      cases hcode
    · exact absurd rfl h
  · have htarget : ∀ l, place = .ok l → l = target := by
      intro l hl
      exact Except.ok.inj (hl.symm.trans hplace)
    obtain ⟨written, hsave⟩ := hsaves.save_eq
    obtain ⟨hothers, hload⟩ := Config.files_save (Config.up_notMem_of_place hs hplace) hsave
    refine ⟨?_, ?_, ?_, ?_⟩
    · intro l c hl
      refine hothers l c ?_
      rintro rfl
      exact hl hplace
    · intro l hl hforce hthere
      rcases hfree with hfree | hfree
      · rw [htarget l hl] at hthere
        exact absurd hfree hthere
      · rw [hfree] at hforce
        cases hforce
    · intro h
      exact absurd h hsaves.outcome_ne
    · intro l hl _
      rw [htarget l hl]
      exact hload

/-- A file that is there is overwritten by force, by way of a directory that is not there. -/
theorem files_initConfig_force :
    let d : Disk := (Disk.empty ["w".toList] ["h".toList]).put ["w".toList, "c".toList]
      (.file (.text "[display".toList))
    let after := Session.perform (initConfig {} true (some (.ofText "x/../c".toList))) ⟨{}, d⟩
    Path.up ∉ d.workingDirectory ∧ after.1 = ⟨0, none⟩ ∧
      Config.load after.2.disk (some (.ofLocation ["w".toList, "c".toList]))
        = .ok ⟨{}, some ["w".toList, "c".toList], []⟩ := by
  intro d after
  have hd : Path.up ∉ d.workingDirectory := by decide
  have hend : after.1 = ⟨0, none⟩ := by decide +kernel
  obtain ⟨-, -, -, hload⟩ := files_initConfig {} true (some (.ofText "x/../c".toList))
    (s := ⟨{}, d⟩) hd
  exact ⟨hd, hend, hload _ rfl (Or.inl hend)⟩

end Action
end QueryTree
