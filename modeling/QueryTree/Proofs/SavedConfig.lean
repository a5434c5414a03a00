import QueryTree.Config.Load
import QueryTree.Config.Save
import QueryTree.Proofs.Disk
import QueryTree.Proofs.Failing
import QueryTree.Proofs.TomlSections

/-!
# A saved configuration is loaded again

A configuration is saved without its standard settings, as a document of one or two sections, and
loading fills the gaps with the standard settings again.  The two agree on what is standard, and
the document is read back whatever the strip pattern is, so the text of a configuration gives that
configuration.  On disk it stands at the place that the path resolves to, which is where it is
looked for.  What loading adds is the validation.

## Main results

* `Config.ofDocument_document` — the text of a configuration is read as that configuration.
* `Config.save_eq_put` — **what saving does to the disk**: one file is written, and directories are
  made on the way to it.
* `Config.load_save` — **loading a saved configuration gives what validating it gives.**
-/

namespace QueryTree

namespace Config

/-! ### The text of a configuration -/

/-- The names of settings and sections need no quotes. -/
theorem isBareName_table (s : SettingName) : Toml.IsBareName s.table := by
  cases s <;> exact ⟨by decide, List.all_eq_true.mp (by decide)⟩

theorem isBareName_name (s : SettingName) : Toml.IsBareName s.name := by
  cases s <;> exact ⟨by decide, List.all_eq_true.mp (by decide)⟩

theorem isPlain_coloredOutput (c : Config) :
    Toml.Section.IsPlain ⟨SettingName.coloredOutput.table,
      [(SettingName.coloredOutput.name, .boolean c.coloredOutput)]⟩ := by
  refine ⟨isBareName_table .coloredOutput, ?_, by simp⟩
  intro e he
  rw [List.mem_singleton.mp he]
  exact isBareName_name .coloredOutput

/-- Of the two settings of the normalizer, those that are standard are left out. -/
theorem normalizerSettings_sublist (c : Config) :
    c.normalizerSettings.Sublist [(SettingName.lowercase.name, .boolean false),
      (SettingName.stripPattern.name, .string c.stripPattern)] := by
  show List.Sublist (_ ++ _) ([_] ++ [_])
  apply List.Sublist.append
  · split <;> simp
  · split <;> simp

theorem isPlain_normalizer (c : Config) :
    Toml.Section.IsPlain ⟨SettingName.lowercase.table, c.normalizerSettings⟩ := by
  have hsublist := normalizerSettings_sublist c
  refine ⟨isBareName_table .lowercase, ?_, ?_⟩
  · intro e he
    have hmem := hsublist.subset he
    simp only [List.mem_cons, List.not_mem_nil, or_false] at hmem
    rcases hmem with rfl | rfl
    · exact isBareName_name .lowercase
    · exact isBareName_name .stripPattern
  · refine List.Nodup.sublist (hsublist.map Prod.fst) ?_
    show [SettingName.lowercase.name, SettingName.stripPattern.name].Nodup
    decide

/-- The sections of a configuration have plain names, and no name twice. -/
theorem arePlain_sections (c : Config) : Toml.ArePlain c.sections := by
  have hdisplay := isPlain_coloredOutput c
  have hnormalizer := isPlain_normalizer c
  unfold sections
  cases hsettings : c.normalizerSettings with
  | nil => exact ⟨by simpa using hdisplay, by simp⟩
  | cons e settings =>
    rw [hsettings] at hnormalizer
    refine ⟨by simpa using ⟨hdisplay, hnormalizer⟩, ?_⟩
    show [SettingName.coloredOutput.table, SettingName.lowercase.table].Nodup
    decide

/-- The settings that are left out are standard. -/
theorem ofTable_tableOf_sections (c : Config) : ofTable (Toml.tableOf c.sections) = .ok c := by
  obtain ⟨color, lower, pattern⟩ := c
  by_cases hpattern : pattern = ({} : Config).stripPattern
  · subst hpattern
    cases lower <;> rfl
  · cases lower <;> simp only [sections, normalizerSettings, if_neg hpattern] <;> rfl

/-- **The text of a configuration is read as that configuration.** -/
theorem ofDocument_document (source : Location) (c : Config) :
    ofDocument source c.document = .ok c := by
  unfold ofDocument document
  rw [Toml.parse_writeSections (arePlain_sections c)]
  exact ofTable_tableOf_sections c

/-! ### The file of a configuration -/

/-- **What saving does to the disk**: directories are made, and one file is written, at the place
that the path resolves to. -/
theorem save_eq_put {c : Config} {d d' : Disk} {source path : Option Path} {written : Path}
    (h : c.save d source path = .ok (written, d')) :
    (savePath d source path).expandHome (.ofLocation d.home) = .ok written ∧
      written.resolve d.workingDirectory ≠ [] ∧
      ∃ d₁, d.AddsDirectories d₁ ∧
        d' = d₁.put (written.resolve d.workingDirectory) (.file (.text c.document)) := by
  unfold save at h
  obtain ⟨p, hexpand, h⟩ := exists_of_bind_eq_ok h
  obtain ⟨d₁, hmake, h⟩ := exists_of_bind_eq_ok h
  obtain ⟨d₂, hwrite, h⟩ := exists_of_bind_eq_ok h
  obtain ⟨rfl, rfl⟩ := Prod.mk.inj (Except.ok.inj h)
  have hadds := Disk.addsDirectories_makeDirectories (eq_ok_of_mapError_eq_ok hmake)
  have hput := Disk.write_eq_put (eq_ok_of_mapError_eq_ok hwrite)
  rw [hadds.workingDirectory] at hput
  exact ⟨eq_ok_of_mapError_eq_ok hexpand, hput.1, d₁, hadds, hput.2⟩

/-- A file with the text of a configuration is loaded as that configuration, if it is valid. -/
theorem loadAt_document {c : Config} {d : Disk} {l : Location}
    (h : d.find? l = some (.file (.text c.document))) :
    loadAt d l = c.validate.map fun warnings => ⟨c, some l, warnings⟩ := by
  have hread : d.read l = .ok (.text c.document) := by
    simp [Disk.read, h]
  unfold loadAt
  rw [h, hread]
  show (ofDocument l c.document >>= fun config => config.validate >>= fun warnings =>
    pure (⟨config, some l, warnings⟩ : LoadedConfig)) = _
  rw [ofDocument_document]
  show (c.validate >>= fun warnings => _) = _
  cases c.validate <;> rfl

/-- **Loading a saved configuration gives what validating it gives**: the same configuration with
the warnings for it, or the reason why it is refused. -/
theorem load_save {c : Config} {d d' : Disk} {source : Option Path} {p written : Path}
    (h : c.save d source (some p) = .ok (written, d')) :
    ∃ l, place d' p = .ok l ∧
      load d' (some p) = c.validate.map fun warnings => ⟨c, some l, warnings⟩ := by
  obtain ⟨hexpand, hroot, d₁, hadds, rfl⟩ := save_eq_put h
  have hp : p.expandHome (.ofLocation d.home) = .ok written := hexpand
  have hplace : place (d₁.put (written.resolve d.workingDirectory) (.file (.text c.document))) p
      = .ok (written.resolve d.workingDirectory) := by
    -- the home directory and the working directory are those from before
    show (p.expandHome (.ofLocation d₁.home)).map (fun p => p.resolve d₁.workingDirectory) = _
    rw [hadds.home, hadds.workingDirectory, hp]
    rfl
  refine ⟨_, hplace, ?_⟩
  unfold load
  rw [Option.getD_some, hplace]
  exact loadAt_document (Disk.find?_put_self d₁ hroot _)

/-- A pattern that needs every kind of escape, saved into a directory that is still to be made. -/
theorem load_save_escapes :
    let c : Config := ⟨false, false, ['"', '\\', '\\', '\r', '\n', '\x01', 'é']⟩
    let d : Disk := .empty ["work".toList] ["home".toList]
    let p : Path := .ofText "conf/app.toml".toList
    ∃ d' l, c.save d none (some p) = .ok (p, d') ∧ place d' p = .ok l ∧
      load d' (some p) = .ok ⟨c, some l, []⟩ := by
  intro c d p
  obtain ⟨d', hsave⟩ : ∃ d', c.save d none (some p) = .ok (p, d') := ⟨_, rfl⟩
  have hvalid : c.validate = .ok [] := rfl
  obtain ⟨l, hplace, hload⟩ := load_save hsave
  rw [hvalid] at hload
  exact ⟨d', l, hsave, hplace, hload⟩

end Config
end QueryTree
