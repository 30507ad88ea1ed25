import Mathlib.Data.List.Basic
import TaggedSuite.Config.Document
import TaggedSuite.Proofs.Except

/-!
# Paths to the same place

Two paths that stand for the same location lead to the same file, if they lead to a file at all.
Nothing but the last name of a path tells the format of a settings file, and the location keeps that
name. So all paths to the place of a settings file give the same settings.
-/
namespace TaggedSuite

namespace Path

variable {p q : Path}

@[simp] lemma isAbsolute_below (name : String) : (p.below name).isAbsolute = p.isAbsolute := rfl

lemma append_of_isAbsolute (h : q.isAbsolute = true) : p.append q = q := if_pos h

/-- A path keeps its last name when it is followed from another one. -/
lemma name_append (h : q.parts ≠ []) : (p.append q).name = q.name := by
  unfold append
  split_ifs
  · rfl
  · simp only [name, List.getLast?_append_of_ne_nil p.parts h]

end Path

namespace Disk

variable {d : Disk} {p q : Path}

/-- What can be followed ends where the names lead. -/
lemma eq_of_follow {l m : Location} {names : List String} (h : d.follow l names = some m) :
    m = names.foldl step l := by
  induction names generalizing l with
  | nil => exact (Option.some.inj h).symm
  | cons n names ih =>
    rw [follow] at h
    split_ifs at h
    exact ih h

lemma eq_of_locate {m : Location} (h : d.locate p = some m) : m = d.resolve p := eq_of_follow h

/-- A path that leads to a file leads to the location that it stands for. -/
lemma locate_of_isFile (h : d.isFile p = true) : d.locate p = some (d.resolve p) := by
  rw [isFile, Option.any_eq_true] at h
  obtain ⟨m, hm, -⟩ := h
  rw [hm, eq_of_locate hm]

lemma isFile_of_read {text : String} (h : d.read p = some text) : d.isFile p = true := by
  simp only [Disk.read, fileText?, Option.bind_eq_bind, Option.bind_eq_some_iff] at h
  obtain ⟨_, ⟨m, hm, held, hheld, -⟩, -⟩ := h
  rw [isFile, Option.any_eq_true]
  exact ⟨m, hm, by rw [hasFile, hheld, Option.isSome_some]⟩

/-- Two paths to the same place read alike. -/
lemma read_eq_of_resolve (hp : d.isFile p = true) (hq : d.isFile q = true)
    (h : d.resolve p = d.resolve q) : d.read p = d.read q := by
  rw [Disk.read, Disk.read, fileText?, fileText?, locate_of_isFile hp, locate_of_isFile hq, h]

/-- The location keeps the last name of a path that does not end with a step upwards. -/
lemma getLast?_resolve (hname : p.name ≠ "..") (hparts : p.parts ≠ []) :
    (d.resolve p).getLast? = some p.name := by
  obtain ⟨front, last, hsplit⟩ := p.parts.eq_nil_or_concat.resolve_left hparts
  have hlast : p.name = last := by simp [Path.name, hsplit]
  have hup : last ≠ ".." := hlast ▸ hname
  rw [resolve, hsplit, List.concat_eq_append, List.foldl_append, List.foldl_cons,
    List.foldl_nil, step, if_neg hup,
    List.getLast?_append, hlast]
  rfl

/-- Nothing is in a place that is no directory. -/
lemma names_eq_nil (h : d.isDirectory p = false) : d.names p = [] := by
  rw [names]
  cases hfound : d.locate p with
  | none => rfl
  | some l =>
    have hnone : d.hasDirectory l = false := by simpa [isDirectory, hfound] using h
    simp only [hasDirectory, Bool.or_eq_false_iff, List.any_eq_false] at hnone
    obtain ⟨⟨-, hdirectories⟩, hfiles⟩ := hnone
    have hempty : (d.files.map (·.1) ++ d.directories).filterMap (stepTowards l) = [] := by
      rw [List.filterMap_eq_nil_iff]
      intro m hm
      have habove : isAbove l m = false := by
        rcases List.mem_append.1 hm with hm | hm
        · obtain ⟨f, hf, rfl⟩ := List.mem_map.1 hm
          simpa using hfiles f hf
        · rw [isAbove, Bool.and_eq_false_iff, ← Bool.not_eq_true]
          exact .inl (hdirectories m hm)
      rw [stepTowards, habove]
      rfl
    simp [hempty]

end Disk

namespace SettingsFile

variable {disk : Disk} {p q : Path} {settings : Entries}

lemma ofSuffix?_nil : Format.ofSuffix? "" = none := by decide

/-- A path with a format has a last name, which is no step upwards. -/
lemma name_of_format (h : (Format.ofSuffix? p.suffix).isSome = true) :
    p.parts ≠ [] ∧ p.name ≠ ".." := by
  constructor
  · intro hnil
    have hsuffix : p.suffix = "" := by rw [Path.suffix, Path.name, hnil]; decide
    rw [hsuffix, ofSuffix?_nil] at h
    contradiction
  · intro hup
    have hsuffix : p.suffix = "" := by rw [Path.suffix, hup]; decide
    rw [hsuffix, ofSuffix?_nil] at h
    contradiction

/-- The path is named in messages alone. -/
lemma parse_congr {f : Format} {path text : String} {v : Value} (h : f.parse path text = .ok v)
    (other : String) : f.parse other text = .ok v := by
  cases f with
  | yaml => exact mapError_eq_ok.2 (mapError_eq_ok.1 h)
  | json => exact mapError_eq_ok.2 (mapError_eq_ok.1 h)

lemma settingsOf_congr {path : String} {v : Value} (h : settingsOf path v = .ok settings)
    (other : String) : settingsOf other v = .ok settings := by
  unfold settingsOf at h ⊢
  split at h <;> simp_all

/-- What it takes to read settings. -/
lemma read_eq_ok : read disk p = .ok settings ↔ ∃ f text v, Format.ofSuffix? p.suffix = some f ∧
    disk.read p = some text ∧ f.parse p.text text = .ok v ∧ settingsOf p.text v = .ok settings := by
  rw [SettingsFile.read]
  cases Format.ofSuffix? p.suffix with
  | none => simp
  | some f => cases disk.read p <;> simp [bind_eq_ok]

lemma isFile_iff : isFile disk p = true ↔
    disk.isFile p = true ∧ (Format.ofSuffix? p.suffix).isSome = true :=
  Bool.and_eq_true_iff

lemma isFile_of_read (h : read disk p = .ok settings) : isFile disk p = true := by
  obtain ⟨f, text, _, hformat, htext, -, -⟩ := read_eq_ok.1 h
  exact isFile_iff.2 ⟨Disk.isFile_of_read htext, by rw [hformat, Option.isSome_some]⟩

/-- All paths to the place of a settings file give the same settings. -/
lemma read_of_resolve (hp : isFile disk p = true) (hq : read disk q = .ok settings)
    (h : disk.resolve p = disk.resolve q) : read disk p = .ok settings := by
  obtain ⟨hfile, hformat⟩ := isFile_iff.1 hp
  obtain ⟨hfile', hformat'⟩ := isFile_iff.1 (isFile_of_read hq)
  have hname : p.name = q.name := by
    obtain ⟨hparts, hup⟩ := name_of_format hformat
    obtain ⟨hparts', hup'⟩ := name_of_format hformat'
    have hlast := Disk.getLast?_resolve (d := disk) hup hparts
    rw [h, Disk.getLast?_resolve hup' hparts'] at hlast
    exact (Option.some.inj hlast).symm
  obtain ⟨f, text, v, hf, htext, hv, hsettings⟩ := read_eq_ok.1 hq
  refine read_eq_ok.2 ⟨f, text, v, ?_, ?_, parse_congr hv _, settingsOf_congr hsettings _⟩
  · rw [Path.suffix, hname]
    exact hf
  · rw [Disk.read_eq_of_resolve hfile hfile' h, htext]

end SettingsFile

end TaggedSuite
