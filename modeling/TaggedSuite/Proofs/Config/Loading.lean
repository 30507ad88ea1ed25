import Mathlib.Data.List.Nodup
import TaggedSuite.Config.Loader
import TaggedSuite.Proofs.Schema.Bundled

/-!
# What comes of loading

Files are loaded one after the other by one loader. Three things are told of such a piece of work:
what holds of the loader before it and after it, which errors it can end with, and what is known of
a value that it gives. The rules put pieces together, so no proof has to go through the sequencing.
-/
namespace TaggedSuite

/-- The loader is left in order, an error is one of those allowed for, and a value is good. -/
structure Loading.Ends {α : Type} (Inv : Loader → Prop) (Fine : ConfigError → Prop)
    (Good : α → Prop) (x : Loading α) : Prop where
  inv : Inv x.loader
  fine : ∀ e, x.result = .error e → Fine e
  good : ∀ a, x.result = .ok a → Good a

namespace Loading.Ends

variable {α β : Type} {Inv : Loader → Prop} {Fine : ConfigError → Prop} {Good : α → Prop}
  {Best : β → Prop} {x : Loading α} {l : Loader} {log : List LogLine}

lemma ofOk {a : α} (hinv : Inv l) (hgood : Good a) : Ends Inv Fine Good ⟨l, log, .ok a⟩ :=
  ⟨hinv, fun _ h => (nomatch h), fun _ h => Except.ok.inj h ▸ hgood⟩

lemma ofError {e : ConfigError} (hinv : Inv l) (hfine : Fine e) :
    Ends Inv Fine Good ⟨l, log, .error e⟩ :=
  ⟨hinv, fun _ h => Except.error.inj h ▸ hfine, fun _ h => (nomatch h)⟩

lemma ofResult {r : Except ConfigError α} (hinv : Inv l) (hfine : ∀ e, r = .error e → Fine e)
    (hgood : ∀ a, r = .ok a → Good a) : Ends Inv Fine Good ⟨l, log, r⟩ :=
  ⟨hinv, hfine, hgood⟩

lemma imp {Better : α → Prop} (h : Ends Inv Fine Good x) (hgood : ∀ a, Good a → Better a) :
    Ends Inv Fine Better x :=
  ⟨h.inv, h.fine, fun a ha => hgood a (h.good a ha)⟩

lemma relog (h : Ends Inv Fine Good x) : Ends Inv Fine Good ⟨x.loader, log, x.result⟩ :=
  ⟨h.inv, h.fine, h.good⟩

lemma map {f : α → β} (h : Ends Inv Fine (fun a => Best (f a)) x) :
    Ends Inv Fine Best (x.map f) := by
  cases hresult : x.result with
  | error e =>
    have hmap : x.map f = ⟨x.loader, x.log, .error e⟩ := by simp [Loading.map, hresult, Except.map]
    rw [hmap]
    exact ofError h.inv (h.fine e hresult)
  | ok a =>
    have hmap : x.map f = ⟨x.loader, x.log, .ok (f a)⟩ := by simp [Loading.map, hresult, Except.map]
    rw [hmap]
    exact ofOk h.inv (h.good a hresult)

/-- One piece of work goes on with the loader and the value of the other. -/
lemma andThen {next : Loader → α → Loading β} (hx : Ends Inv Fine Good x)
    (hnext : ∀ m a, Inv m → Good a → Ends Inv Fine Best (next m a)) :
    Ends Inv Fine Best (x.andThen next) := by
  rw [Loading.andThen]
  cases hresult : x.result with
  | error e => exact ofError hx.inv (hx.fine e hresult)
  | ok a => exact (hnext x.loader a hx.inv (hx.good a hresult)).relog

end Loading.Ends

namespace Loader

open Loading (Ends)

variable {Inv : Loader → Prop} {Fine : ConfigError → Prop} {l : Loader} {disk : Disk} {p : Path}
  {o : LoadOptions}

/-- A file is read, checked and, perhaps, kept. -/
lemma readAt_ends (Passed : Entries → Prop) (hl : Inv l)
    (hunread : ∀ e, SettingsFile.read disk p = .error e → Fine e)
    (hcheck : ∀ settings, SettingsFile.read disk p = .ok settings →
      Ends Inv Fine (fun _ => Passed settings)
        (checkAny { l with readings := l.readings + 1 } disk o.schemaToCheck p.text settings))
    (hkeep : ∀ m settings, Inv m → SettingsFile.read disk p = .ok settings → Passed settings →
      Inv (m.keep (disk.resolve p) ⟨l.readings, settings⟩)) :
    Ends Inv Fine
      (fun r => SettingsFile.read disk p = .ok r.settings ∧ Passed r.settings)
      (l.readAt disk p o) := by
  unfold readAt
  cases hread : SettingsFile.read disk p with
  | error e => exact .ofError hl (hunread e hread)
  | ok settings =>
    refine (hcheck settings hread).andThen fun m _ hm hpassed => ?_
    refine .ofOk ?_ ⟨rfl, hpassed⟩
    split_ifs
    · exact hkeep m settings hm hread hpassed
    · exact hm

lemma schemaToCheck_of_standard {e : String × Value} (he : e ∈ Bundled.standard) :
    (LoadOptions.checked e.1).schemaToCheck = some e.1 := by
  simp only [Bundled.standard, List.mem_cons, List.not_mem_nil, or_false] at he
  rcases he with rfl | rfl <;> decide

/-- A file that was not read before is loaded if what it holds conforms to the bundled document. -/
lemma loadPath_of_conforms {file : Path} {text : String} {settings : Entries}
    (e : String × Value) (hl : l.registry.IsBundled) (hkept : l.kept = [])
    (he : e ∈ Bundled.standard)
    (hlocate : l.locate disk file = some p) (hread : SettingsFile.read disk p = .ok settings)
    (hconforms : Schema.Conforms e.2 (.map settings)) :
    (l.loadPath disk file text (.checked e.1)).result = .ok ⟨l.readings, settings⟩ := by
  have hnone : l.remembered? disk p (.checked e.1) = none := by
    rw [remembered?, hkept]
    rfl
  have hpassed : ((l.registry.find disk e.1).result.bind fun c =>
      SchemaRegistry.check c e.1 p.text (.map settings)) = .ok () :=
    (hl.check_eq_ok he).2 hconforms
  rw [loadPath, hlocate]
  simp only [loadAt, hnone, readAt, hread, schemaToCheck_of_standard he, checkAny, check,
    Loading.andThen, hpassed]

/-- The base settings are loaded if they conform to the bundled document. -/
lemma loadBase_of_conforms {q : Path} {settings : Entries} (hl : l.registry.IsBundled)
    (hkept : l.kept = []) (hbase : l.basePath? disk = some p) (hlocate : l.locate disk p = some q)
    (hread : SettingsFile.read disk q = .ok settings)
    (hconforms : Schema.Conforms Bundled.base (.map settings)) :
    (l.loadBase disk).result = .ok settings := by
  have hload : (l.loadPath disk p p.text (.checked Bundled.baseName)).result =
      .ok ⟨l.readings, settings⟩ :=
    loadPath_of_conforms (Bundled.baseName, Bundled.base) hl hkept List.mem_cons_self hlocate hread
      hconforms
  simp only [loadBase, hbase, Loading.map, hload, Except.map]

/-- An overlay is loaded if it conforms to the bundled document. It is the only one here. -/
lemma loadOverlays_of_conforms {host : Host} {q : Path} {vars : Variables} {log : List LogLine}
    {settings overlay : Entries} (hl : l.registry.IsBundled) (hkept : l.kept = [])
    (hthere : host.disk.isDirectory l.environments = true)
    (hgather : Variables.gather host.disk host.processVariables l.variablesFile? l.variables? =
      .ok (vars, log))
    (hpaths : l.overlayPaths host.disk = [p]) (hlocate : l.locate host.disk p = some q)
    (hread : SettingsFile.read host.disk q = .ok settings)
    (hconforms : Schema.Conforms Bundled.overlay (.map settings))
    (hexpand : Expand.valueEntries vars p.text settings = .ok overlay) :
    (l.loadOverlays host).result = .ok [(p.stem, overlay)] := by
  have hload : (l.loadPath host.disk p p.text (.checked Bundled.overlayName)).result =
      .ok ⟨l.readings, settings⟩ :=
    loadPath_of_conforms (Bundled.overlayName, Bundled.overlay) hl hkept
      (List.mem_cons_of_mem _ List.mem_cons_self) hlocate hread hconforms
  simp [loadOverlays, hthere, hgather, hpaths, loadOverlaysAt, loadOverlay, Loading.andThen, hload,
    hexpand]

/-- The overlays are those of the paths in order, each under the stem of its path. -/
def AreOf (Good : Path → Entries → Prop) (paths : List Path) (overlays : Overlays) : Prop :=
  List.Forall₂ (fun (p : Path) e => e.1 = p.stem ∧ Good p e.2) paths overlays

/-- Every overlay is that of a path. -/
lemma AreOf.exists_of_mem {Good : Path → Entries → Prop} {paths : List Path} {overlays : Overlays}
    (h : AreOf Good paths overlays) {e : String × Entries} (he : e ∈ overlays) :
    ∃ p ∈ paths, e.1 = p.stem ∧ Good p e.2 := by
  induction h with
  | nil => cases he
  | @cons p d paths overlays hfirst _ ih =>
    rcases List.mem_cons.1 he with rfl | he
    · exact ⟨p, List.mem_cons_self, hfirst⟩
    · obtain ⟨q, hq, hgood⟩ := ih he
      exact ⟨q, List.mem_cons_of_mem p hq, hgood⟩

/-- Overlays are loaded one for each path, and no name is given to two of them. -/
lemma loadOverlaysAt_ends {vars : Variables} {Good : Path → Entries → Prop} {paths : List Path}
    (hstep : ∀ m p, Inv m → p ∈ paths → Ends Inv Fine (Good p) (m.loadOverlay disk vars p))
    (hrepeated : ∀ m (p : Path), Inv m →
      Fine (.repeatedEnvironment p.stem m.environments.text))
    (loaded : Overlays) (hl : Inv l) (hloaded : (loaded.map (·.1)).Nodup) :
    Ends Inv Fine
      (fun overlays => (overlays.map (·.1)).Nodup ∧ ∃ more, overlays = loaded ++ more ∧
        AreOf Good paths more)
      (l.loadOverlaysAt disk vars loaded paths) := by
  induction paths generalizing l loaded with
  | nil => exact .ofOk hl ⟨hloaded, [], (List.append_nil _).symm, .nil⟩
  | cons p paths ih =>
    rw [loadOverlaysAt]
    split_ifs with hthere
    · exact .ofError hl (hrepeated l p hl)
    · refine (hstep l p hl List.mem_cons_self).andThen fun m overlay hm hgood => ?_
      have hnew : p.stem ∉ loaded.map (·.1) := by
        intro hmem
        obtain ⟨e, he, hname⟩ := List.mem_map.1 hmem
        apply hthere
        rw [List.lookup_isSome_iff]
        exact ⟨e, he, beq_iff_eq.2 hname.symm⟩
      have hnodup : ((loaded ++ [(p.stem, overlay)]).map (·.1)).Nodup := by
        rw [List.map_append]
        exact List.Nodup.append hloaded (List.nodup_singleton _) (by simpa using hnew)
      have hrest := ih (fun m q hm hq => hstep m q hm (List.mem_cons_of_mem p hq))
        (loaded ++ [(p.stem, overlay)]) hm hnodup
      refine hrest.imp ?_
      rintro overlays ⟨hall, more, rfl, hmore⟩
      refine ⟨hall, (p.stem, overlay) :: more, ?_, .cons ⟨rfl, hgood⟩ hmore⟩
      rw [List.append_assoc, List.singleton_append]

end Loader

end TaggedSuite
