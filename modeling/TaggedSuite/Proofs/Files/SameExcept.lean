import TaggedSuite.Proofs.Files.Places
import TaggedSuite.Proofs.SideBySide

/-!
# Disks that differ in one file

Two disks have the same files and directories, and one file may hold another text on the one disk
than on the other. Every path leads to the same place on both disks, and unless this is the place of
that file, the same is read there.
-/
namespace TaggedSuite

namespace Disk

/-- The disks are the same except for the text of the file at a location. -/
structure SameExcept (place : Location) (d d' : Disk) : Prop where
  files : List.Forall₂ (fun f g => g.1 = f.1 ∧ (g.2 = f.2 ∨ f.1 = place)) d.files d'.files
  directories : d'.directories = d.directories
  working : d'.working = d.working

namespace SameExcept

variable {place : Location} {d d' : Disk}

lemma locations (h : SameExcept place d d') : d'.files.map (·.1) = d.files.map (·.1) :=
  keys_eq_of_rel (R := fun l text text' => text' = text ∨ l = place) h.files

lemma lookup (h : SameExcept place d d') (l : Location) :
    Option.Rel (fun text text' => text' = text ∨ l = place) (d.files.lookup l)
      (d'.files.lookup l) :=
  rel_lookup (R := fun l text text' => text' = text ∨ l = place) h.files l

lemma hasFile (h : SameExcept place d d') (l : Location) : d'.hasFile l = d.hasFile l :=
  isSome_eq_of_rel (h.lookup l)

lemma hasDirectory (h : SameExcept place d d') (l : Location) :
    d'.hasDirectory l = d.hasDirectory l := by
  have habove (files : List (Location × FileText)) :
      (files.any fun f => isAbove l f.1) = (files.map (·.1)).any (isAbove l) := by
    rw [List.any_map]
    rfl
  rw [Disk.hasDirectory, Disk.hasDirectory, h.working, h.directories, habove, habove, h.locations]

lemma follow (h : SameExcept place d d') (l : Location) (names : List String) :
    d'.follow l names = d.follow l names := by
  induction names generalizing l with
  | nil => rfl
  | cons n names ih => rw [Disk.follow, Disk.follow, h.hasDirectory, ih]

lemma locate (h : SameExcept place d d') (p : Path) : d'.locate p = d.locate p := by
  rw [Disk.locate, Disk.locate, Disk.origin, Disk.origin, h.working, h.follow]

lemma isFile (h : SameExcept place d d') (p : Path) : d'.isFile p = d.isFile p := by
  rw [Disk.isFile, Disk.isFile, h.locate, funext h.hasFile]

lemma isDirectory (h : SameExcept place d d') (p : Path) : d'.isDirectory p = d.isDirectory p := by
  rw [Disk.isDirectory, Disk.isDirectory, h.locate, funext h.hasDirectory]

lemma names (h : SameExcept place d d') (p : Path) : d'.names p = d.names p := by
  rw [Disk.names, Disk.names, h.locate, h.locations, h.directories]

lemma resolve (h : SameExcept place d d') (p : Path) : d'.resolve p = d.resolve p := by
  rw [Disk.resolve, Disk.resolve, Disk.origin, Disk.origin, h.working]

lemma fileText? (h : SameExcept place d d') {p : Path} (hp : d.locate p ≠ some place) :
    d'.fileText? p = d.fileText? p := by
  rw [Disk.fileText?, Disk.fileText?, h.locate]
  cases hl : d.locate p with
  | none => rfl
  | some l =>
    have hne : l ≠ place := fun hplace => hp (hplace ▸ hl)
    have hlookup := h.lookup l
    simp only [Option.bind_eq_bind, Option.bind_some]
    revert hlookup
    generalize d.files.lookup l = x
    generalize d'.files.lookup l = y
    rintro (hsame | _)
    · rw [hsame.resolve_right hne]
    · rfl

end SameExcept

end Disk

namespace SettingsFile

variable {place : Location} {d d' : Disk} {p : Path}

lemma read_sameExcept (h : Disk.SameExcept place d d') (hp : d.locate p ≠ some place) :
    read d' p = read d p := by
  have hread : d'.read p = d.read p := by rw [Disk.read, Disk.read, h.fileText? hp]
  rw [SettingsFile.read, SettingsFile.read, hread]

end SettingsFile

end TaggedSuite
