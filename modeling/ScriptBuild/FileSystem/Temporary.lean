import ScriptBuild.FileSystem

/-!
# Temporary files

A temporary file is created empty under a name that nothing in its directory has: a stem, what was
drawn, and an ending. What is drawn is not the file system's to decide, so it is handed in as a list
of `Lot`s, one for each attempt. A lot whose name is taken is used up and the next one tried; any
other refusal ends the attempts. Whatever is said of the file for all lists of lots is said for all
free names.

Creating never follows a link under the name, and the file is there under the path it was created
by, which is seen from the root as its directory is.

A lot is six letters or digits, so a name made with it holds no slash and no zero, and is as long as
its stem and its ending and six octets more. How many lots there are is up to whoever draws them;
when none is left the attempts end as if the last name had been taken too.

**Results.**
* `entry_of_createTemporary`: nothing stood where the path leads, and an empty file does.
-/
namespace ScriptBuild

/-- What is drawn for the name of a temporary file: six letters or digits. -/
structure Lot where
  letters : List Char
  length_letters : letters.length = 6
  plain : letters.all Char.isAlphanum = true
deriving DecidableEq, Repr

namespace FileSystem

open Text.Utf8 (Bytes)

def temporaryName (stem ending : Bytes) (lot : Lot) : Bytes :=
  stem ++ Text.Utf8.encodeChars lot.letters ++ ending

/-- Creates an empty file in a directory, under the first name drawn that is free, and gives its
path and the lots that are left. -/
def createTemporary (files : FileSystem) (directory : Place) (stem ending : Bytes) :
    List Lot → Except IoError (Path × FileSystem) × List Lot
  | [] => (.error .nameTaken, [])
  | lot :: lots =>
    let path := Place.path (directory ++ [temporaryName stem ending lot])
    match files.entry path with
    | .error cause => (.error cause, lots)
    | .ok place =>
      if (files.node? place).isSome then files.createTemporary directory stem ending lots
      else (.ok (path, files.set place (.file [])), lots)

theorem entry_of_createTemporary {files after : FileSystem} {directory : Place} {path : Path}
    {stem ending : Bytes} {lots : List Lot}
    (h : (files.createTemporary directory stem ending lots).1 = .ok (path, after)) :
    (∃ lot ∈ lots, path = Place.path (directory ++ [temporaryName stem ending lot])) ∧
      ∃ place, files.entry path = .ok place ∧ files.node? place = none ∧
        after = files.set place (.file []) := by
  induction lots with
  | nil => cases h
  | cons lot lots ih =>
    rw [createTemporary] at h
    split at h
    · cases h
    · rename_i place hentry
      split at h
      · obtain ⟨⟨other, hother, hpath⟩, hrest⟩ := ih h
        exact ⟨⟨other, List.mem_cons_of_mem _ hother, hpath⟩, hrest⟩
      · rename_i hfree
        cases h
        exact ⟨⟨lot, List.mem_cons_self, rfl⟩, place, hentry, by simpa using hfree, rfl⟩

end FileSystem

end ScriptBuild
