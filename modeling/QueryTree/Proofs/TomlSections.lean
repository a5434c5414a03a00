import QueryTree.Proofs.Text
import QueryTree.Proofs.TomlString
import QueryTree.Toml.Parser

/-!
# Documents of sections

A document of sections is written line by line: a header, the settings of the section, and an
empty line before the next header.  The reader of documents takes one round for each of these
lines, and each round adds to the document under construction what its line says.  So a written
document is read as the table of its sections, if no name needs quotes and none is given twice.

## Main definitions

* `Toml.tableOf`: the table that a list of sections writes.
* `Toml.ArePlain`: sections whose names need no quotes and are all different.
* `Toml.Document.flat`: the document under construction after some sections.
* `Toml.Reaches`: the reader gets from one document and text to another by whole rounds.

## Main results

* `Toml.anyValue_write` — a written value is read back.
* `Toml.reaches_header`, `Toml.reaches_setting` — one round for each kind of line.
* `Toml.parse_writeSections` — **a written document of sections is read as its table.**
-/

namespace QueryTree.Toml

/-! ### Steps of a reader -/

namespace Reader

/-- A reader that begins with another one goes on where that one stops. -/
theorem bind_eq {α β : Type} {r : Reader α} {a : α} {s s' : Text} (h : r s = .ok (a, s'))
    (f : α → Reader β) : (r >>= f) s = f a s' := by
  show (r s >>= fun p => f p.1 p.2) = f a s'
  rw [h]
  rfl

/-- A run of a class is passed up to where it stops. -/
theorem skip_append {p : Char → Bool} {w s : Text} (hw : ∀ c ∈ w, p c = true)
    (hs : Text.Stops p s) : skip p (w ++ s) = .ok ((), s) := by
  show Except.ok ((), (w ++ s).dropWhile p) = _
  rw [Text.dropWhile_append hw hs]

theorem skip_of_stops {p : Char → Bool} {s : Text} (hs : Text.Stops p s) :
    skip p s = .ok ((), s) := by
  have hnil : ∀ c ∈ ([] : Text), p c = true := by simp
  exact skip_append hnil hs

theorem takeWhile_append {p : Char → Bool} {w s : Text} (hw : ∀ c ∈ w, p c = true)
    (hs : Text.Stops p s) : Reader.takeWhile p (w ++ s) = .ok (w, s) := by
  show Except.ok ((w ++ s).takeWhile p, (w ++ s).dropWhile p) = _
  rw [Text.takeWhile_append hw hs, Text.dropWhile_append hw hs]

theorem get_eq (s : Text) : (get : Reader Text) s = .ok (s, s) := rfl

theorem peek_eq (s : Text) : peek s = .ok (s.head?, s) := rfl

theorem accept_cons (c : Char) (s : Text) : accept [c] (c :: s) = .ok (true, s) := by
  have hstart : Text.startsWith (c :: s) [c] = true := by simp [Text.startsWith]
  unfold accept
  rw [bind_eq (get_eq (c :: s)), if_pos hstart]
  rfl

theorem accept_of_not {t s : Text} (h : Text.startsWith s t = false) :
    accept t s = .ok (false, s) := by
  unfold accept
  rw [bind_eq (get_eq s), if_neg (by simp [h])]
  rfl

theorem expect_cons (c : Char) (fault : Fault) (s : Text) :
    expect [c] fault (c :: s) = .ok ((), s) := by
  unfold expect
  rw [bind_eq (accept_cons c s)]
  rfl

end Reader

/-! ### Keys and values -/

/-- A name that needs no quotes. -/
structure IsBareName (name : Text) : Prop where
  ne_nil : name ≠ []
  forall_isBare : ∀ c ∈ name, isBare c = true

theorem IsBareName.exists_cons {name : Text} (hname : IsBareName name) :
    ∃ c t, name = c :: t ∧ isBare c = true := by
  obtain ⟨c, t, rfl⟩ := List.exists_cons_of_ne_nil hname.ne_nil
  exact ⟨c, t, rfl, hname.forall_isBare c List.mem_cons_self⟩

theorem ne_of_isBare {c d : Char} (hc : isBare c = true) (hd : isBare d = false) : c ≠ d := by
  rintro rfl
  rw [hc] at hd
  cases hd

theorem isSpace_of_isBare {c : Char} (hc : isBare c = true) : isSpace c = false := by
  have hblank : c ≠ ' ' := ne_of_isBare hc rfl
  have htab : c ≠ '\t' := ne_of_isBare hc rfl
  simp [isSpace, hblank, htab]

theorem keyPart_bare {name s : Text} (hname : IsBareName name) (hs : Text.Stops isBare s) :
    keyPart (name ++ s) = .ok (name, s) := by
  obtain ⟨c, t, rfl, hc⟩ := hname.exists_cons
  unfold keyPart
  rw [Reader.bind_eq (Reader.peek_eq _)]
  show (if isBare c = true then Reader.takeWhile isBare else _ : Reader Text) _ = _
  rw [if_pos hc]
  exact Reader.takeWhile_append hname.forall_isBare hs

/-- A key of one name ends where no dot follows. -/
theorem keyParts_nil {w s : Text} (hw : ∀ c ∈ w, isSpace c = true) (hs : Text.Stops isSpace s)
    (hdot : s.head? ≠ some '.') (steps : Nat) : keyParts (steps + 1) (w ++ s) = .ok ([], s) := by
  have hstart : Text.startsWith s ['.'] = false := by
    cases s with
    | nil => rfl
    | cons c s => simpa [Text.startsWith] using hdot
  rw [keyParts, Reader.bind_eq (Reader.skip_append hw hs),
    Reader.bind_eq (Reader.accept_of_not hstart)]
  rfl

theorem key_bare {name w s : Text} (hname : IsBareName name) (hend : Text.Stops isBare (w ++ s))
    (hw : ∀ c ∈ w, isSpace c = true) (hs : Text.Stops isSpace s) (hdot : s.head? ≠ some '.') :
    key (name ++ (w ++ s)) = .ok ([name], s) := by
  unfold key
  rw [Reader.bind_eq (keyPart_bare hname hend), Reader.bind_eq (Reader.get_eq _),
    Reader.bind_eq (keyParts_nil hw hs hdot _)]
  rfl

/-- The value that a setting has when it is read. -/
def Setting.value : Setting → Value
  | .boolean b => .boolean b
  | .string t => .string t

theorem isContainer_value (s : Setting) : s.value.isContainer = false := by
  cases s <;> rfl

/-- A written text is not mistaken for one over several lines: its first quote is not one of three,
not even if the text is empty. -/
theorem startsWith_quotes_writeString (t rest : Text) (hrest : rest.head? ≠ some '"') :
    Text.startsWith (t.flatMap writeChar ++ '"' :: rest) ['"', '"'] = false := by
  cases t with
  | nil =>
    cases rest with
    | nil => rfl
    | cons c rest => simpa [Text.startsWith] using hrest
  | cons c t =>
    have hhead := head?_writeChar_ne c
    obtain ⟨d, e, hd⟩ := List.exists_cons_of_ne_nil (writeChar_ne_nil c)
    rw [hd, List.head?_cons, ne_eq, Option.some.injEq] at hhead
    simp [hd, Text.startsWith, hhead]

theorem anyValue_writeString (t rest : Text) (hrest : rest.head? ≠ some '"') :
    anyValue (writeString t ++ rest) = .ok (.string t, rest) := by
  have htext : writeString t ++ rest = '"' :: (t.flatMap writeChar ++ '"' :: rest) := by
    simp [writeString]
  have hquotes := startsWith_quotes_writeString t rest hrest
  unfold anyValue
  rw [Reader.bind_eq (Reader.get_eq _), value, htext, Reader.bind_eq (Reader.accept_cons _ _)]
  show quotedString '"' _ = _
  unfold quotedString
  rw [Reader.bind_eq (Reader.accept_of_not hquotes)]
  show (basicString >>= fun t => pure (.string t) : Reader Value) _ = _
  rw [Reader.bind_eq (basicString_flatMap_writeChar t rest)]
  rfl

/-- **A written value is read back**, at the end of its line. -/
theorem anyValue_write (s : Setting) (rest : Text) :
    anyValue (s.write ++ '\n' :: rest) = .ok (s.value, '\n' :: rest) := by
  match s with
  | .boolean true => rfl
  | .boolean false => rfl
  | .string t => exact anyValue_writeString t _ (by simp)

/-- No value is written with blank space in front. -/
theorem stops_isSpace_write (s : Setting) (rest : Text) :
    Text.Stops isSpace (s.write ++ rest) := by
  match s with
  | .boolean true => exact Text.stops_cons.mpr rfl
  | .boolean false => exact Text.stops_cons.mpr rfl
  | .string _ => exact Text.stops_cons.mpr rfl

/-- The line of a setting gives its name and its value. -/
theorem assignment_writeSetting {name : Text} (hname : IsBareName name) (s : Setting)
    (rest : Text) :
    assignment anyValue (writeSetting name s ++ rest) = .ok (([name], s.value), '\n' :: rest) := by
  have htext : writeSetting name s ++ rest
      = name ++ ([' '] ++ '=' :: ([' '] ++ (s.write ++ '\n' :: rest))) := by
    simp [writeSetting]
  have hblank : ∀ c ∈ [' '], isSpace c = true := List.all_eq_true.mp (by decide)
  have hkey := key_bare (s := '=' :: ([' '] ++ (s.write ++ '\n' :: rest))) hname
    (Text.stops_cons.mpr rfl) hblank (Text.stops_cons.mpr rfl) (by simp)
  unfold assignment
  rw [htext, Reader.bind_eq hkey, Reader.bind_eq (Reader.expect_cons _ _ _),
    Reader.bind_eq (Reader.skip_append hblank (stops_isSpace_write s _)),
    Reader.bind_eq (anyValue_write s rest)]
  rfl

/-! ### Documents under construction -/

/-- The table of the settings of a section. -/
def Section.table (s : Section) : Table := s.settings.map fun e => (e.1, e.2.value)

/-- The table that a list of sections writes. -/
def tableOf (sections : List Section) : Table := sections.map fun s => (s.name, .table s.table)

namespace Table

theorem find?_eq_none {t : Table} {name : Text} (h : name ∉ t.map Prod.fst) :
    t.find? name = none := by
  rw [find?, List.lookup_eq_none_iff]
  intro e he
  have hne : name ≠ e.1 := by
    rintro rfl
    exact h (List.mem_map_of_mem he)
  simpa using hne

theorem find?_append_singleton {t : Table} {name : Text} (h : name ∉ t.map Prod.fst) (v : Value) :
    find? (t ++ [(name, v)]) name = some v := by
  have hnone := find?_eq_none h
  rw [find?] at hnone ⊢
  rw [List.lookup_append, hnone]
  simp

theorem put_of_notMem {t : Table} {name : Text} (h : name ∉ t.map Prod.fst) (v : Value) :
    t.put name v = t ++ [(name, v)] := by
  simp [put, find?_eq_none h]

/-- The last entry of a table is replaced in its place. -/
theorem put_append_singleton {t : Table} {name : Text} (h : name ∉ t.map Prod.fst)
    (v w : Value) : put (t ++ [(name, v)]) name w = t ++ [(name, w)] := by
  have hkeep : t.map (fun e => if e.1 = name then (name, w) else e) = t := by
    refine (List.map_congr_left ?_).trans (List.map_id t)
    intro e he
    have hne : e.1 ≠ name := by
      rintro rfl
      exact h (List.mem_map_of_mem he)
    rw [if_neg hne, id_eq]
  simp [put, find?_append_singleton h, hkeep]

end Table

namespace Document

/-- The document under construction after some sections: every header has one name and is declared,
and nothing is closed in another way. -/
def flat (t : Table) (header : Key) : Document :=
  ⟨t, header, (t.map fun e => [e.1]).reverse, [], []⟩

theorem settle_flat (t : Table) (header : Key) : (flat t header).settle = flat t header := rfl

/-- A header with a new name opens an empty table. -/
theorem declareTable_flat {t : Table} {name : Text} (h : name ∉ t.map Prod.fst) (header : Key) :
    (flat t header).declareTable [name] = .ok (flat (t ++ [(name, .table [])]) [name]) := by
  have hnew : ¬([name] ∈ (flat t header).declared
      ∨ Key.isWithin (flat t header).frozen [name] = true) := by
    simpa [flat, Key.isWithin] using h
  have hopen : (flat t header).table.openAt [name] = some (t ++ [(name, .table [])]) := by
    simp [flat, Table.openAt, Table.modifyAt, Table.find?_eq_none h, Table.put_of_notMem h]
  rw [declareTable, if_neg hnew, hopen]
  simp [flat]

/-- A setting with a new name is added to the last table. -/
theorem assign_flat {t u : Table} {name k : Text} (ht : name ∉ t.map Prod.fst)
    (hu : k ∉ u.map Prod.fst) {v : Value} (hv : v.isContainer = false) :
    (flat (t ++ [(name, .table u)]) [name]).assign [k] v
      = .ok (flat (t ++ [(name, .table (u ++ [(k, v)]))]) [name]) := by
  have hadd : Table.modifyAt true (Table.addNew k v) [name] (t ++ [(name, .table u)])
      = some (t ++ [(name, .table (u ++ [(k, v)]))]) := by
    simp [Table.modifyAt, Table.find?_append_singleton ht, Table.addNew, Table.find?_eq_none hu,
      Table.put_of_notMem hu, Table.put_append_singleton ht]
  simp [assign, flat, Key.waysTo, Key.isWithin, hadd, hv]

end Document

/-! ### Rounds of the reader -/

/-- The reader gets from one document and text to another by whole rounds, each of which passes a
line: it ends with the same result in both cases. -/
def Reaches (d : Document) (text : Text) (d' : Document) (rest : Text) : Prop :=
  ∀ steps, text.length < steps →
    ∃ steps', rest.length < steps' ∧ statements steps d text = statements steps' d' rest

theorem Reaches.refl (d : Document) (s : Text) : Reaches d s d s := by
  intro steps hsteps
  exact ⟨steps, hsteps, rfl⟩

theorem Reaches.trans {d d' d'' : Document} {s s' s'' : Text} (h : Reaches d s d' s')
    (h' : Reaches d' s' d'' s'') : Reaches d s d'' s'' := by
  intro steps hsteps
  obtain ⟨steps', hsteps', heq⟩ := h steps hsteps
  obtain ⟨steps'', hsteps'', heq'⟩ := h' steps' hsteps'
  exact ⟨steps'', hsteps'', heq.trans heq'⟩

/-- An empty line changes nothing. -/
theorem reaches_empty_line (d : Document) (rest : Text) : Reaches d ('\n' :: rest) d rest := by
  intro steps hsteps
  rw [List.length_cons] at hsteps
  obtain ⟨steps, rfl⟩ : ∃ k, steps = k + 1 := ⟨steps - 1, by omega⟩
  refine ⟨steps, by omega, ?_⟩
  rw [statements, Reader.bind_eq (Reader.skip_of_stops (Text.stops_cons.mpr rfl))]
  rfl

/-- A line that is one statement is passed in one round. -/
theorem reaches_statement {d d' : Document} {c : Char} {line rest : Text}
    (hspace : isSpace c = false) (hline : c ≠ '\n')
    (h : statement c d (c :: (line ++ '\n' :: rest)) = .ok (d', '\n' :: rest)) :
    Reaches d (c :: (line ++ '\n' :: rest)) d' rest := by
  intro steps hsteps
  rw [List.length_cons, List.length_append, List.length_cons] at hsteps
  obtain ⟨steps, rfl⟩ : ∃ k, steps = k + 1 := ⟨steps - 1, by omega⟩
  refine ⟨steps, by omega, ?_⟩
  rw [statements, Reader.bind_eq (Reader.skip_of_stops (Text.stops_cons.mpr hspace)),
    Reader.bind_eq (Reader.peek_eq _), List.head?_cons]
  -- `hline` rules out the case of an empty line
  simp only
  rw [Reader.bind_eq h, Reader.bind_eq (Reader.skip_of_stops (Text.stops_cons.mpr rfl))]
  rfl

/-- A header gives what its table adds to the document. -/
theorem header_bare {name : Text} (hname : IsBareName name) {d d' : Document}
    (h : d.settle.declareTable [name] = .ok d') (s : Text) :
    header d (name ++ ']' :: s) = .ok (d', s) := by
  have hkey : key (name ++ ([] ++ ']' :: s)) = .ok ([name], ']' :: s) :=
    key_bare hname (Text.stops_cons.mpr rfl) (by simp) (Text.stops_cons.mpr rfl) (by simp)
  rw [List.nil_append] at hkey
  obtain ⟨c, t, rfl, hc⟩ := hname.exists_cons
  have hbracket : Text.startsWith (c :: t ++ ']' :: s) ['['] = false := by
    have hne : c ≠ '[' := ne_of_isBare hc rfl
    simp [Text.startsWith, hne]
  have hspace : Text.Stops isSpace (c :: t ++ ']' :: s) :=
    Text.stops_cons.mpr (isSpace_of_isBare hc)
  unfold header
  rw [Reader.bind_eq (Reader.accept_of_not hbracket), if_neg (by decide),
    Reader.bind_eq (Reader.skip_of_stops hspace), Reader.bind_eq hkey, h,
    Reader.bind_eq (show Reader.check (.ok d') _ = .ok (d', _) from rfl),
    Reader.bind_eq (Reader.expect_cons _ _ _)]
  rfl

/-- The line of a header opens an empty table. -/
theorem reaches_header {t : Table} {name : Text} (hname : IsBareName name)
    (h : name ∉ t.map Prod.fst) (last : Key) (rest : Text) :
    Reaches (.flat t last) ('[' :: (name ++ [']'] ++ '\n' :: rest))
      (.flat (t ++ [(name, .table [])]) [name]) rest := by
  have hdeclare := Document.declareTable_flat h last
  rw [← Document.settle_flat t last] at hdeclare
  apply reaches_statement rfl (by decide)
  unfold statement
  rw [if_neg (by decide), Reader.bind_eq (Reader.accept_cons _ _), if_pos rfl,
    List.append_assoc]
  exact header_bare hname hdeclare _

/-- The line of a setting adds it to the last table. -/
theorem reaches_setting {t u : Table} {name k : Text} (hk : IsBareName k)
    (ht : name ∉ t.map Prod.fst) (hu : k ∉ u.map Prod.fst) (s : Setting) (rest : Text) :
    Reaches (.flat (t ++ [(name, .table u)]) [name]) (writeSetting k s ++ rest)
      (.flat (t ++ [(name, .table (u ++ [(k, s.value)]))]) [name]) rest := by
  have hassignment := assignment_writeSetting hk s rest
  have hassign := Document.assign_flat ht hu (isContainer_value s)
  obtain ⟨c, w, rfl, hc⟩ := hk.exists_cons
  have htext : writeSetting (c :: w) s ++ rest
      = c :: (w ++ " = ".toList ++ s.write ++ '\n' :: rest) := by
    simp [writeSetting]
  rw [htext] at hassignment ⊢
  apply reaches_statement (isSpace_of_isBare hc) (ne_of_isBare hc rfl)
  unfold statement
  rw [if_pos (by simp [hc]), Reader.bind_eq hassignment]
  simp only [hassign]
  rfl

/-! ### Written sections -/

/-- A section whose names need no quotes, with no setting given twice. -/
structure Section.IsPlain (s : Section) : Prop where
  name : IsBareName s.name
  settings : ∀ e ∈ s.settings, IsBareName e.1
  nodup : (s.settings.map Prod.fst).Nodup

/-- Sections whose names need no quotes and are all different. -/
structure ArePlain (sections : List Section) : Prop where
  isPlain : ∀ s ∈ sections, s.IsPlain
  nodup : (sections.map Section.name).Nodup

/-- The first of the names that are still to come is not among those before it. -/
theorem notMem_of_nodup_append {before later : List Text} {name : Text}
    (h : (before ++ name :: later).Nodup) : name ∉ before := by
  intro hmem
  exact (List.nodup_append.mp h).2.2 name hmem name List.mem_cons_self rfl

/-- The lines of settings add them to the last table, one after the other. -/
theorem reaches_settings {t : Table} {name : Text} (ht : name ∉ t.map Prod.fst)
    (settings : List (Text × Setting)) (hbare : ∀ e ∈ settings, IsBareName e.1) (u : Table)
    (hnodup : (u.map Prod.fst ++ settings.map Prod.fst).Nodup) (rest : Text) :
    Reaches (.flat (t ++ [(name, .table u)]) [name])
      ((settings.flatMap fun e => writeSetting e.1 e.2) ++ rest)
      (.flat (t ++ [(name, .table (u ++ settings.map fun e => (e.1, e.2.value)))]) [name])
      rest := by
  induction settings generalizing u with
  | nil =>
    rw [List.map_nil, List.append_nil]
    exact Reaches.refl _ _
  | cons e settings ih =>
    rw [List.forall_mem_cons] at hbare
    have hnew : e.1 ∉ u.map Prod.fst := notMem_of_nodup_append hnodup
    have hnodup' : ((u ++ [(e.1, e.2.value)]).map Prod.fst ++ settings.map Prod.fst).Nodup := by
      simpa using hnodup
    have hlater := ih hbare.2 (u ++ [(e.1, e.2.value)]) hnodup'
    rw [List.append_assoc] at hlater
    rw [List.flatMap_cons, List.append_assoc]
    exact (reaches_setting hbare.1 ht hnew e.2 _).trans hlater

/-- The lines of a section add its table. -/
theorem reaches_section {t : Table} {s : Section} (hs : s.IsPlain) (ht : s.name ∉ t.map Prod.fst)
    (last : Key) (rest : Text) :
    Reaches (.flat t last) (s.write ++ rest) (.flat (t ++ [(s.name, .table s.table)]) [s.name])
      rest := by
  have htext : s.write ++ rest = '[' :: (s.name ++ [']'] ++ '\n' ::
      ((s.settings.flatMap fun e => writeSetting e.1 e.2) ++ rest)) := by
    simp [Section.write]
  rw [htext]
  refine (reaches_header hs.name ht last _).trans ?_
  exact reaches_settings ht s.settings hs.settings [] hs.nodup rest

/-- The lines of sections add their tables, one after the other. -/
theorem reaches_sections (sections : List Section) (hplain : ∀ s ∈ sections, s.IsPlain)
    (t : Table) (hnodup : (t.map Prod.fst ++ sections.map Section.name).Nodup) (last : Key) :
    ∃ last', Reaches (.flat t last) (writeSections sections) (.flat (t ++ tableOf sections) last')
      [] := by
  match sections with
  | [] => exact ⟨last, by simpa [tableOf, writeSections] using Reaches.refl _ _⟩
  | [s] =>
    have hnew : s.name ∉ t.map Prod.fst := notMem_of_nodup_append hnodup
    have hsection := reaches_section (hplain s List.mem_cons_self) hnew last []
    rw [List.append_nil] at hsection
    exact ⟨_, hsection⟩
  | s :: s' :: sections =>
    have hnew : s.name ∉ t.map Prod.fst := notMem_of_nodup_append hnodup
    rw [List.forall_mem_cons] at hplain
    have hnodup' : ((t ++ [(s.name, Value.table s.table)]).map Prod.fst
        ++ (s' :: sections).map Section.name).Nodup := by
      simpa using hnodup
    obtain ⟨last', hlater⟩ := reaches_sections (s' :: sections) hplain.2 _ hnodup' [s.name]
    rw [List.append_assoc] at hlater
    have hsection := reaches_section hplain.1 hnew last ('\n' :: writeSections (s' :: sections))
    have htext : writeSections (s :: s' :: sections)
        = s.write ++ '\n' :: writeSections (s' :: sections) := by
      simp [writeSections]
    rw [htext]
    exact ⟨last', hsection.trans ((reaches_empty_line _ _).trans hlater)⟩

/-! ### Whole documents -/

theorem withoutReturns_eq_self {t : Text} (h : '\r' ∉ t) : withoutReturns t = t := by
  induction t with
  | nil => rfl
  | cons c t ih =>
    rw [List.mem_cons, not_or] at h
    have hc : ¬((decide (c = '\r') && decide (t.head? = some '\n')) = true) := by
      simp [Ne.symm h.1]
    rw [withoutReturns, if_neg hc, ih h.2]

theorem return_notMem_of_isBare {name : Text} (hname : IsBareName name) : '\r' ∉ name := by
  intro h
  exact ne_of_isBare (hname.forall_isBare _ h) rfl rfl

theorem return_notMem_write (s : Setting) : '\r' ∉ s.write := by
  match s with
  | .boolean true => decide
  | .boolean false => decide
  | .string t => simp [Setting.write, writeString, return_notMem_writeChar]

/-- A written document has no carriage return in it. -/
theorem return_notMem_writeSections {sections : List Section}
    (hplain : ∀ s ∈ sections, s.IsPlain) : '\r' ∉ writeSections sections := by
  apply Text.notMem_joinWith (by decide)
  intro t ht
  obtain ⟨s, hs, rfl⟩ := List.mem_map.mp ht
  have hname := return_notMem_of_isBare (hplain s hs).name
  have hsettings : ∀ e ∈ s.settings, '\r' ∉ writeSetting e.1 e.2 := by
    intro e he
    have hbare := return_notMem_of_isBare ((hplain s hs).settings e he)
    simp [writeSetting, hbare, return_notMem_write]
  simpa [Section.write, hname] using hsettings

/-- A text that is passed to its end is read as the table of the document that is reached. -/
theorem Reaches.parse_eq {t : Text} {d : Document} (hreturn : '\r' ∉ t)
    (h : Reaches .empty t d []) : parse t = .ok d.table := by
  obtain ⟨steps, hsteps, hstatements⟩ := h (t.length + 1) (Nat.lt_succ_self _)
  rw [List.length_nil] at hsteps
  obtain ⟨steps, rfl⟩ : ∃ k, steps = k + 1 := ⟨steps - 1, by omega⟩
  have hend : statements (steps + 1) d [] = .ok (d, []) := rfl
  simp only [parse, withoutReturns_eq_self hreturn, hstatements, hend]

/-- **A written document of sections is read as its table**: whatever texts its settings hold, if
no name needs quotes and none is given twice. -/
theorem parse_writeSections {sections : List Section} (h : ArePlain sections) :
    parse (writeSections sections) = .ok (tableOf sections) := by
  obtain ⟨last, hreaches⟩ := reaches_sections sections h.isPlain [] h.nodup []
  exact hreaches.parse_eq (return_notMem_writeSections h.isPlain)

end QueryTree.Toml
