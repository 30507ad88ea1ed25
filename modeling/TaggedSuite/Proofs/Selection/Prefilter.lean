import Mathlib.Control.Monad.Basic
import Mathlib.Data.List.Infix
import TaggedSuite.Run.Collection

/-!
# Leaving out whole files

A file that is not loaded has no test that would run. The titles of its tests are known only up to
their beginnings, since the collection may add parameters to them. So an excluded text in the
beginning settles the matter, and a missing included one does not. Where the pattern includes
nothing, the beginning tells as much as the title.
-/
namespace TaggedSuite

namespace Title

/-- What excludes the beginning of a title excludes the title. -/
lemma isExcluded_mono {pattern start title : List Char} (hstart : start <+: title)
    (h : isExcluded pattern start = true) : isExcluded pattern title = true := by
  obtain ⟨text, hmem, hheld⟩ := List.any_eq_true.1 h
  have hinfix : text <:+: title := ((holds_iff _ _).1 hheld).trans hstart.isInfix
  exact List.any_eq_true.2 ⟨text, hmem, (holds_iff _ _).2 hinfix⟩

/-- The beginning of a title that fits may fit. -/
lemma mayFit_of_fits {pattern start title : String} (hstart : start.toList <+: title.toList)
    (h : fits pattern title = true) : mayFit pattern start = true := by
  have hfree : isExcluded pattern.toList title.toList = false := by
    simpa using (Bool.and_eq_true_iff.1 h).1
  cases hcase : isExcluded pattern.toList start.toList with
  | false => simp [mayFit, hcase]
  | true => simp [isExcluded_mono hstart hcase] at hfree

/-- Where nothing is included, a title fits if it may fit. -/
lemma fits_eq_mayFit {pattern : String} (h : inclusions pattern.toList = []) (title : String) :
    fits pattern title = mayFit pattern title := by
  simp [fits, mayFit, isIncluded, h]

end Title

/-- The test is one of the listed tests: it has the tags of one of them, and its title begins with
the listed title. -/
def TestItem.IsListed (listed : List (String × TagSet)) (i : TestItem) : Prop :=
  ∃ t ∈ listed, i.tags = .ok t.2 ∧ t.1.toList <+: i.title.toList

namespace Selection

variable {s : Selection}

/-- The selection with another switch for files. -/
def withFilterSpecs (s : Selection) (b : Bool) : Selection :=
  { s with options := { s.options with filterSpecs := b } }

/-- The switch for files decides about no test. -/
@[simp] lemma decideItem_withFilterSpecs (b : Bool) (i : TestItem) :
    (s.withFilterSpecs b).decideItem i = s.decideItem i := rfl

lemma decide_eq_run_iff {tags : TagSet} {title : String} :
    s.decide tags title = .run ↔ s.isMatch tags title = true := by
  simp only [decide]
  split_ifs with hmatch <;> simp [hmatch]

/-- Whatever matches may match as soon as the beginning of its title is known. -/
lemma mayMatch_of_isMatch {tags : TagSet} {start title : String}
    (hstart : start.toList <+: title.toList) (h : s.isMatch tags title = true) :
    s.mayMatch tags start = true := by
  obtain ⟨heval, hfits⟩ := Bool.and_eq_true_iff.1 h
  exact Bool.and_eq_true_iff.2 ⟨heval, Title.mayFit_of_fits hstart hfits⟩

lemma mayMatch_eq_isMatch (h : Title.inclusions s.titlePattern.toList = []) (tags : TagSet)
    (title : String) : s.mayMatch tags title = s.isMatch tags title := by
  simp [mayMatch, isMatch, Title.fits_eq_mayFit h]

/-- A file is left out only by a selection that leaves out files, restricts the run and matches none
of the tests. -/
lemma loads_eq_false_iff {listed : List (String × TagSet)} :
    s.loads listed = false ↔ s.options.filterSpecs = true ∧ s.isUniversal = false ∧
      ∀ t ∈ listed, s.mayMatch t.2 t.1 = false := by
  simp [loads, and_assoc]

/-- Of a file that is left out no test matches, however its title goes on. -/
lemma isMatch_of_loads_eq_false {listed : List (String × TagSet)} (h : s.loads listed = false)
    {t : String × TagSet} (ht : t ∈ listed) {title : String}
    (hstart : t.1.toList <+: title.toList) : s.isMatch t.2 title = false := by
  cases hcase : s.isMatch t.2 title with
  | false => rfl
  | true =>
    have hmay := (loads_eq_false_iff.1 h).2.2 t ht
    rw [mayMatch_of_isMatch hstart hcase] at hmay
    contradiction

/-- A listed test of a file that is left out is decided, and it does not run. -/
lemma decideItem_of_loads_eq_false {listed : List (String × TagSet)} (h : s.loads listed = false)
    {i : TestItem} (hi : i.IsListed listed) : ∃ d, s.decideItem i = .ok d ∧ d ≠ .run := by
  obtain ⟨t, ht, htags, hstart⟩ := hi
  refine ⟨s.decide t.2 i.title, by simp [decideItem, htags], ?_⟩
  rw [ne_eq, decide_eq_run_iff, isMatch_of_loads_eq_false h ht hstart]
  decide

/-- Where nothing is included, a file is loaded for the tests in it that would run. -/
lemma loads_iff_decide (hon : s.options.filterSpecs = true) (hsome : s.isUniversal = false)
    (hplain : Title.inclusions s.titlePattern.toList = []) (listed : List (String × TagSet)) :
    s.loads listed = true ↔ ∃ t ∈ listed, s.decide t.2 t.1 = .run := by
  simp [loads, hon, hsome, decide_eq_run_iff, mayMatch_eq_isMatch hplain]

/-- A file is loaded for the tests in any part of it. -/
lemma loads_append (hsome : s.isUniversal = false) (first second : List (String × TagSet)) :
    s.loads (first ++ second) = (s.loads first || s.loads second) := by
  cases hon : s.options.filterSpecs <;> simp [loads, hon, hsome]

end Selection

/-- Only a test file is left out, and only when its scan is exact and lists no test to load it
for. -/
lemma TestRun.ignores_eq_ok_true_iff {r : TestRun} {s : Selection} {host : Host}
    {settings : RunnerSettings} {p : Path} (hs : r.selection = .regular s) :
    r.ignores host settings p = .ok true ↔ isTestFile settings p = true ∧
      ∃ found, Scan.scanContent (host.disk.read p) = .ok found ∧ found.isExact = true ∧
        s.loads found.pairs = false := by
  simp only [ignores, hs, RunSelection.options, RunSelection.isUniversal, RunSelection.loads]
  by_cases hasked : s.options.filterSpecs = true ∧ s.isUniversal = false
  · by_cases hfile : isTestFile settings p = true
    · cases hscan : Scan.scanContent (host.disk.read p) with
      | error e => simp [hasked, hfile, bind, Except.bind, Except.mapError]
      | ok found =>
        cases hexact : found.isExact <;>
          simp [hasked, hfile, hexact, bind, Except.bind, pure, Except.pure, Except.mapError]
    · simp [hasked, hfile, bind, Except.bind, pure, Except.pure, Except.mapError]
  · have hleft : ¬∃ found, Scan.scanContent (host.disk.read p) = .ok found ∧
        found.isExact = true ∧ s.loads found.pairs = false := by
      rintro ⟨found, -, -, hleft⟩
      obtain ⟨hon, hsome, -⟩ := Selection.loads_eq_false_iff.1 hleft
      exact hasked ⟨hon, hsome⟩
    rw [not_and_or, Bool.not_eq_true, Bool.not_eq_false] at hasked
    simp only [hleft, and_false, iff_false]
    rcases hasked with hoff | huniversal
    · simp [hoff, pure, Except.pure]
    · cases s.options.filterSpecs <;>
        simp [huniversal, bind, Except.bind, pure, Except.pure, Except.mapError]

/-- Leaving out files loses no test that would run: of a file that is left out, or of any list of
tests that no file is loaded for, no test runs, with or without leaving out files. And no file is
loaded in vain where the pattern includes nothing: a file is loaded exactly for the tests that would
run under the titles that are listed. In any case the tests of a list count one by one. -/
theorem Selection.prefilter_exact (s : Selection) :
    (∀ (listed : List (String × TagSet)) (items : List TestItem),
      (∀ i ∈ items, i.IsListed listed) → s.loads listed = false →
        ∀ b, ∀ i ∈ items, ∃ d, (s.withFilterSpecs b).decideItem i = .ok d ∧ d ≠ .run) ∧
    (∀ (r : TestRun) (host : Host) (settings : RunnerSettings) (p : Path),
      r.selection = .regular s →
      r.ignores host settings p = .ok true →
        ∃ found, Scan.scanContent (host.disk.read p) = .ok found ∧ found.isExact = true ∧
          s.loads found.pairs = false ∧
          ∀ i : TestItem, i.IsListed found.pairs →
            ∀ b, ∃ d, (s.withFilterSpecs b).decideItem i = .ok d ∧ d ≠ .run) ∧
    (s.options.filterSpecs = true → s.isUniversal = false →
      Title.inclusions s.titlePattern.toList = [] →
        ∀ listed, s.loads listed = true ↔ ∃ t ∈ listed, s.decide t.2 t.1 = .run) ∧
    (s.isUniversal = false →
      ∀ first second, s.loads (first ++ second) = (s.loads first || s.loads second)) := by
  refine ⟨fun listed items hitems hleft b i hi => ?_, ?_, loads_iff_decide, loads_append⟩
  · rw [decideItem_withFilterSpecs]
    exact decideItem_of_loads_eq_false hleft (hitems i hi)
  · intro r host settings p hs hignored
    obtain ⟨-, found, hscan, hexact, hleft⟩ := (TestRun.ignores_eq_ok_true_iff hs).1 hignored
    refine ⟨found, hscan, hexact, hleft, fun i hi b => ?_⟩
    rw [decideItem_withFilterSpecs]
    exact decideItem_of_loads_eq_false hleft hi

/-- The tests with the tag `@api` whose titles say nothing of being slow. -/
def Selection.quickApi : Selection where
  raw := "@api"
  filter := .tag ⟨"api"⟩
  titlePattern := "-slow"
  options := ⟨true, true⟩
  parsed := by decide +kernel

/-- A slow test with parameters is lost to its title and not to the file being left out; one test
more in the file, and the file is loaded. -/
theorem Selection.prefilter_exact_quickApi :
    let listed : List (String × TagSet) :=
      [("TestLogin::test_open", .ofList [⟨"ui"⟩]), ("TestLogin::test_slow", .ofList [⟨"api"⟩])]
    let quick : List (String × TagSet) := [("TestLogin::test_valid", .ofList [⟨"api"⟩])]
    let item : TestItem := ⟨"test_login.py::TestLogin::test_slow[first]", [[.value (.str "@API")]]⟩
    let host : Host := ⟨⟨[(["test_setup.py"], .ok "pass\n")], [], []⟩, default⟩
    let settings : RunnerSettings := ⟨default, "", "", ["test_*.py"]⟩
    let r : TestRun := ⟨default, .regular quickApi, .none, []⟩
    (quickApi.loads listed = false ∧ ∃ d, quickApi.decideItem item = .ok d ∧ d ≠ .run) ∧
    (r.ignores host settings (.ofText "test_setup.py") = .ok true ∧
      ∃ found, Scan.scanContent (host.disk.read (.ofText "test_setup.py")) = .ok found ∧
        quickApi.loads found.pairs = false) ∧
    (∃ t ∈ listed ++ quick, quickApi.decide t.2 t.1 = .run) ∧
    quickApi.loads (listed ++ quick) = true := by
  intro listed quick item host settings r
  obtain ⟨hlost, hfile, hexact, happend⟩ := prefilter_exact quickApi
  have hleft : quickApi.loads listed = false := by decide
  have hloaded : quickApi.loads (listed ++ quick) = true := by
    rw [happend (by decide), hleft]
    decide
  have hlisted : ∀ i ∈ [item], i.IsListed listed := by
    intro i hi
    rw [List.mem_singleton.1 hi]
    exact ⟨_, List.mem_cons_of_mem _ List.mem_cons_self, by rfl, by decide⟩
  have hignored : r.ignores host settings (.ofText "test_setup.py") = .ok true := by
    have hread : host.disk.read (.ofText "test_setup.py") = some "pass\n" := by decide
    have hscan : (Source.Module.read "pass\n").any (fun m =>
        (Scan.scan m).isExact && !quickApi.loads (Scan.scan m).pairs) = true := by decide +kernel
    obtain ⟨m, hm, hnone⟩ := (Option.any_eq_true _ _).1 hscan
    have hfound : Scan.scanContent (host.disk.read (.ofText "test_setup.py")) =
        .ok (Scan.scan m) := by
      simp [hread, Scan.scanContent, Scan.scanText, hm]
    exact (TestRun.ignores_eq_ok_true_iff rfl).2
      ⟨by decide, Scan.scan m, hfound, by simpa using hnone⟩
  refine ⟨⟨hleft, hlost listed [item] hlisted hleft true item List.mem_cons_self⟩,
    ⟨hignored, ?_⟩, ?_, hloaded⟩
  · obtain ⟨found, hscan, -, hnone, -⟩ := hfile r host settings _ rfl hignored
    exact ⟨found, hscan, hnone⟩
  · exact (hexact rfl (by decide) (by decide +kernel) _).1 hloaded

end TaggedSuite
