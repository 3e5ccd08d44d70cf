import ScriptBuild.Proofs.Resolution.Coverage

/-!
# Headers that ask for a version

A line with the version command is refused, whatever its argument, and with it every resolution that
comes to the line. Only two things keep one from coming there. In the same file it is a line in
front of it that ends the search, which any delimited argument does behind a command that is none of
the four. For an included file it is another entry under the file's key, as a library named like it
is shown or a file that is shown alike; the file is not entered then.

A version may be asked for in any spelling of the command, upper or lower case, with or without an
argument. `AsksVersion` is said of a line, and `Versioned` of a header in which such a line comes
before any that ends the search. Lines that only refer or include do not end it, and neither do
faulty ones, which make the script fail anyway. So the induction is over the lines in front of the
version line.

**Results.**
* `exists_error_of_versioned`: a search in such a header finds an error.
* `not_versioned_of_resolve`: no script with such a header resolves.
* `displaced_of_versioned`: nor one that includes such a file, unless that is displaced.
-/
namespace ScriptBuild

namespace Header

variable {files : FileSystem} {directory reference : Path} {line : String}

/-- The line asks for a version, whatever stands behind the command. -/
def AsksVersion (line : String) : Prop :=
  ∃ argument, splitCommand line = some (Directive.versionCommand, argument)

/-- The line ends the search in its file: it has a delimited argument, and its command is none of
those there are. -/
def EndsSearch (line : String) : Prop :=
  ∃ command raw, splitCommand line = some (command, raw) ∧ (Argument.read? raw).isSome = true ∧
    command ∉ [Directive.modeCommand, Directive.referenceCommand, Directive.includeCommand,
      Directive.versionCommand]

/-- The header asks for a version, and no line in front of that ends the search. -/
def Versioned (header : List String) : Prop :=
  ∃ front line rest, header = front ++ line :: rest ∧ AsksVersion line ∧
    ∀ earlier ∈ front, ¬EndsSearch earlier

theorem meaning_of_asksVersion (h : AsksVersion line) :
    meaning files directory reference line = .error .versionUnsupported := by
  obtain ⟨argument, hsplit⟩ := h
  simp [meaning, hsplit]

theorem endsSearch_of_stop (h : meaning files directory reference line = .ok .stop) :
    EndsSearch line := by
  unfold meaning at h
  cases hsplit : splitCommand line with
  | none => simp [hsplit] at h
  | some parts =>
    obtain ⟨command, raw⟩ := parts
    simp only [hsplit] at h
    split at h
    · cases h
    · rename_i hversion
      cases hread : Argument.read? raw with
      | none =>
        simp only [hread] at h
        split at h <;> cases h
      | some argument =>
        refine ⟨command, raw, hsplit, by simp [hread], ?_⟩
        simp only [hread] at h
        split at h
        · cases h
        · split at h
          · cases h
          · split at h
            · cases h
            · simp_all

end Header

namespace HeaderScan

/-- A search in a header that asks for a version finds an error: this one, or one before. -/
theorem exists_error_of_versioned {scan : HeaderScan} (h : Header.Versioned scan.rest)
    (files : FileSystem) : ∃ error, .error error ∈ scan.items files := by
  obtain ⟨front, line, rest, hrest, hasks, hfront⟩ := h
  induction front generalizing scan with
  | nil =>
    rw [items_of_cons hrest, Header.meaning_of_asksVersion hasks]
    exact ⟨_, List.mem_cons_self⟩
  | cons text front ih =>
    have hlater : ∃ error, .error error ∈
        ({ scan with rest := front ++ line :: rest, line := scan.line + 1 } : HeaderScan).items files :=
      ih rfl fun earlier hearlier => hfront earlier (List.mem_cons_of_mem _ hearlier)
    rw [items_of_cons hrest]
    split
    · exact hlater
    · rename_i hstop
      exact absurd (Header.endsSearch_of_stop hstop) (hfront text List.mem_cons_self)
    · obtain ⟨error, herror⟩ := hlater
      exact ⟨error, List.mem_cons_of_mem _ herror⟩
    · exact ⟨_, List.mem_cons_self⟩

end HeaderScan

namespace Resolver

variable {resolver : Resolver} {files : FileSystem} {found : Resolution} {script root file : Path}
  {header : List String}

theorem not_versioned_of_covered (h : Covered resolver files found file)
    (read : Source.header files file = .ok header) : ¬Header.Versioned header := by
  intro hversioned
  obtain ⟨header', read', hfollowed⟩ := h
  obtain rfl : header = header' := Except.ok.inj (read.symm.trans read')
  have hscan : Header.Versioned (HeaderScan.start file header resolver.reference).rest := hversioned
  obtain ⟨error, herror⟩ := HeaderScan.exists_error_of_versioned hscan files
  obtain ⟨line, directive, hok, -⟩ := hfollowed _ herror
  cases hok

theorem not_versioned_of_resolve (h : resolver.resolve files script = .ok found)
    (located : Source.canonical files script = .ok root)
    (read : Source.header files root = .ok header) : ¬Header.Versioned header := by
  obtain ⟨root', located', -, hcovered⟩ := covered_of_resolve h
  obtain rfl : root = root' := Except.ok.inj (located.symm.trans located')
  exact not_versioned_of_covered (hcovered root (.inl rfl)) read

/-- Where a script resolves that includes a file that asks for a version, that is not entered, for
another entry is under its key. -/
theorem displaced_of_versioned {line : Nat} {target : Path}
    (h : resolver.resolve files script = .ok found)
    (located : Source.canonical files script = .ok root)
    (gives : resolver.Gives files root line (.includes target))
    (kind : ScriptKind.of resolver.probe resolver.marker files target = .ok .source)
    (read : Source.header files target = .ok header) (versioned : Header.Versioned header) :
    Displaced found (.file target) ∧ target ∉ found.sources := by
  obtain ⟨root', located', hsound, hcovered⟩ := covered_of_resolve h
  obtain rfl : root = root' := Except.ok.inj (located.symm.trans located')
  obtain ⟨header', read', hfollowed⟩ := hcovered root (.inl rfl)
  obtain ⟨header'', read'', hmem⟩ := gives
  obtain rfl : header' = header'' := Except.ok.inj (read'.symm.trans read'')
  obtain ⟨line', directive, hok, hfollows⟩ := hfollowed _ hmem
  obtain ⟨rfl, rfl⟩ : line = line' ∧ .includes target = directive := by simpa using hok
  obtain ⟨name, hmode⟩ | ⟨dependency, brings, hkey⟩ := hfollows
  · cases hmode
  · rcases kept_of_brings hsound brings hkey with ⟨-, ⟨-, hsource⟩ | hdisplaced⟩ | ⟨hbinary, -⟩
    · exact absurd versioned (not_versioned_of_covered (hcovered target (.inr hsource)) read)
    · exact hdisplaced
    · rw [kind] at hbinary
      cases hbinary

end Resolver

end ScriptBuild
