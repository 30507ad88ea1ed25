import TaggedSuite.Proofs.Scan.Sites
import TaggedSuite.Proofs.Selection.Prefilter

/-!
# Marks that are assigned again

When a module is imported, the name that holds the marks of a body is left with what was assigned to
it last. The scan joins the tags of all assignments instead. So a test is listed with every tag that
it has when it is collected, but also with tags of marks that were replaced. A filter that negates
none of these does not notice; one that does may leave out a file with a test that would run.
-/
namespace TaggedSuite

namespace Filter

/-- Whether the tag occurs in the filter under an even number of negations, or under an odd one. -/
def occurs (t : Tag) (even : Bool) : Filter → Bool
  | all => false
  | tag u => even && u == t
  | and l r | or l r => l.occurs t even || r.occurs t even
  | not f => f.occurs t !even

/-- More tags make a filter true unless it negates one of them, and they make it false only if it
negates one of them. Both are shown at once, by induction on the filter: a negation turns one into
the other. -/
lemma eval_mono {tags more : TagSet} (hsub : ∀ t ∈ tags, t ∈ more) (f : Filter) :
    ((∀ t ∈ more, t ∉ tags → f.occurs t false = false) → f.eval tags = true →
      f.eval more = true) ∧
    ((∀ t ∈ more, t ∉ tags → f.occurs t true = false) → f.eval more = true →
      f.eval tags = true) := by
  induction f with
  | all => simp [eval]
  | tag u =>
    refine ⟨fun _ h => ?_, fun hnew h => ?_⟩
    · simp only [eval, decide_eq_true_eq] at h ⊢
      exact hsub u h
    · simp only [eval, decide_eq_true_eq] at h ⊢
      by_contra hu
      simpa [occurs] using hnew u h hu
  | and l r ihl ihr | or l r ihl ihr =>
    simp only [occurs, Bool.or_eq_false_iff, eval, Bool.and_eq_true, Bool.or_eq_true]
    refine ⟨fun hnew => ?_, fun hnew => ?_⟩
    · have hl := ihl.1 fun t ht hu => (hnew t ht hu).1
      have hr := ihr.1 fun t ht hu => (hnew t ht hu).2
      tauto
    · have hl := ihl.2 fun t ht hu => (hnew t ht hu).1
      have hr := ihr.2 fun t ht hu => (hnew t ht hu).2
      tauto
  | not f ih =>
    simp only [occurs, eval, Bool.not_eq_true', Bool.not_true, Bool.not_false]
    refine ⟨fun hnew h => ?_, fun hnew h => ?_⟩
    · by_contra hmore
      simp [ih.2 hnew (by simpa using hmore)] at h
    · by_contra htags
      simp [ih.1 hnew (by simpa using htags)] at h

end Filter

/-- A file is loaded for a test that would run, even if it is listed with more tags than it has, as
long as the filter negates none of these. -/
lemma Selection.loads_of_decide {s : Selection} {tags more : TagSet} {start title : String}
    {listed : List (String × TagSet)} (hlisted : (start, more) ∈ listed)
    (hsub : ∀ t ∈ tags, t ∈ more)
    (hnew : ∀ t ∈ more, t ∉ tags → s.filter.occurs t false = false)
    (hstart : start.toList <+: title.toList) (hrun : s.decide tags title = .run) :
    s.loads listed = true := by
  by_contra hleft
  have hnone := isMatch_of_loads_eq_false (by simpa using hleft) hlisted hstart
  obtain ⟨heval, hfits⟩ := Bool.and_eq_true_iff.1 (decide_eq_run_iff.1 hrun)
  have hmore : s.filter.eval more = true := (s.filter.eval_mono hsub).1 hnew heval
  simp [isMatch, hmore, hfits] at hnone

namespace Scan
open Source

variable {m : Module} {body : List Stmt} {p : List Nat} {s : Site} {test : ScannedTest} {t : Tag}

/-- The tags that a body is left with: those of its marks. -/
def boundTags (body : List Stmt) : TagSet :=
  match marksOf? body with
  | some e => (marks e).1
  | none => .empty

lemma mem_boundTags : t ∈ boundTags body ↔ ∃ e, marksOf? body = some e ∧ t ∈ (marks e).1 := by
  rw [boundTags]
  cases marksOf? body <;> simp

/-- What a body is left with, it also contributes. -/
lemma mem_bodyTags_of_mem_boundTags (h : t ∈ boundTags body) : t ∈ (bodyTags body).1 := by
  obtain ⟨e, he, ht⟩ := mem_boundTags.1 h
  exact mem_bodyTags.2 ⟨e, List.mem_of_getLast? he, ht⟩

/-- A body contributes just what it is left with if nothing that was assigned before gets lost. -/
lemma bodyTags_eq_boundTags_iff : (bodyTags body).1 = boundTags body ↔
    ∀ e ∈ assigned body, ∀ t ∈ (marks e).1, t ∈ boundTags body := by
  constructor
  · intro h e he t ht
    rw [← h]
    exact mem_bodyTags.2 ⟨e, he, ht⟩
  · refine fun h => TagSet.ext fun t => ⟨fun ht => ?_, mem_bodyTags_of_mem_boundTags⟩
    obtain ⟨e, he, ht⟩ := mem_bodyTags.1 ht
    exact h e he t ht

/-- A test is listed with the tags of its marks and with those of everything that was assigned
around it. -/
lemma IsScanOf.mem_tags (hscan : IsScanOf "" (bodyTags m).1 test s) :
    t ∈ test.tags ↔ t ∈ (decoratorTags (s.marks m)).1 ∨
      ∃ body ∈ m :: s.bodies, ∃ e ∈ assigned body, t ∈ (marks e).1 := by
  have hassigned : ∀ body ∈ m :: s.bodies, ∀ e ∈ assigned body, t ∈ (marks e).1 →
      t ∈ test.tags := by
    intro body hbody e he ht
    rw [hscan.tags]
    rcases List.mem_cons.1 hbody with rfl | hbody
    · exact .inl (mem_bodyTags.2 ⟨e, he, ht⟩)
    · exact .inr ⟨e, List.mem_append_right _ (List.mem_flatMap.2 ⟨body, hbody, he⟩), ht⟩
  constructor
  · intro ht
    rcases (hscan.tags t).1 ht with ht | ⟨e, he, ht⟩
    · obtain ⟨e, he, ht⟩ := mem_bodyTags.1 ht
      exact .inr ⟨m, List.mem_cons_self, e, he, ht⟩
    · rcases List.mem_append.1 he with he | he
      · exact .inl (mem_decoratorTags.2 ⟨e, List.mem_append_left _ he, ht⟩)
      · obtain ⟨body, hbody, he⟩ := List.mem_flatMap.1 he
        exact .inr ⟨body, List.mem_cons_of_mem _ hbody, e, he, ht⟩
  · rintro (ht | ⟨body, hbody, e, he, ht⟩)
    · obtain ⟨e, he, ht⟩ := mem_decoratorTags.1 ht
      rcases List.mem_append.1 he with he | he
      · exact (hscan.tags t).2 (.inr ⟨e, List.mem_append_left _ he, ht⟩)
      · obtain ⟨body, hbody, hbound⟩ := List.mem_filterMap.1 he
        exact hassigned body hbody e (List.mem_of_getLast? hbound) ht
    · exact hassigned body hbody e he ht

/-- Every test of an exact scan can be collected, and it gets the tags of its marks. -/
lemma DefinedIn.collected (hexact : (scan m).isExact = true) (hdefined : DefinedIn m p s) :
    (∃ markers, s.Carries m markers) ∧ ∀ item : TestItem, s.Carries m item.markers →
      item.tags = .ok (decoratorTags (s.marks m)).1 := by
  have hread := hdefined.unreported hexact
  have hagrees : Agrees (decoratorTags (s.marks m)) ((s.marks m).flatMap markerCalls) :=
    .gather (marksEach_agrees _)
  obtain ⟨labelss, hlabels⟩ := hagrees.exists_labels hread
  refine ⟨⟨labelss, labelss, hlabels, .refl _⟩, ?_⟩
  rintro item ⟨labelss', hlabels', hperm⟩
  rw [TestItem.tags, hagrees.tagsOf hread hlabels' hperm]

/-- What an exact scan makes of marks that are assigned again. A body contributes the tags of all
that is assigned to the name of its marks; these are the tags that it is left with if and only if no
other tag was assigned before. So a test is listed with the tags that it is collected with and with
those of replaced marks. For a test that would run the file is loaded, as long as the filter negates
none of the tags that the test has lost. -/
theorem scan_reassigned {m : Module} (hexact : (scan m).isExact = true) :
    (∀ body, ((bodyTags body).1 = boundTags body ↔
      ∀ e ∈ assigned body, ∀ t ∈ (marks e).1, t ∈ boundTags body)) ∧
    ∃ sites : List (List Nat × Site), (sites.map (·.1)).Pairwise (· < ·) ∧
      (∀ p s, (p, s) ∈ sites ↔ DefinedIn m p s) ∧
      List.Forall₂ (fun test e => test.title = "::".intercalate e.2.names ∧
        ∃ tags : TagSet, (∃ markers, e.2.Carries m markers) ∧
          (∀ item : TestItem, e.2.Carries m item.markers → item.tags = .ok tags) ∧
          (∀ t, t ∈ test.tags ↔ t ∈ tags ∨
            ∃ body ∈ m :: e.2.bodies, ∃ x ∈ assigned body, t ∈ (marks x).1) ∧
          ∀ (selection : Selection) (title : String), test.title.toList <+: title.toList →
            (∀ t ∈ test.tags, t ∉ tags → selection.filter.occurs t false = false) →
            selection.decide tags title = .run → selection.loads (scan m).pairs = true)
        (scan m).tests sites := by
  have hsites : ∀ p s, (p, s) ∈ sitesOfBody 0 m ↔ DefinedIn m p s := fun p s => by
    simp only [mem_sitesOfBody, DefinedIn, Nat.zero_add]
  refine ⟨fun body => bodyTags_eq_boundTags_iff, sitesOfBody 0 m,
    List.pairwise_map.2 (sitesOfBody_ordered 0 m), hsites, ?_⟩
  have hscans : List.Forall₂ (fun test e => IsScanOf "" (bodyTags m).1 test e.2) (scan m).tests
      (sitesOfBody 0 m) := testsOfBody_sites (bodyTags m).1 "" 0 m
  have hdefined : ∀ e ∈ sitesOfBody 0 m, DefinedIn m e.1 e.2 := fun e he => (hsites e.1 e.2).1 he
  have hlisted : ∀ test ∈ (scan m).tests, (test.title, test.tags) ∈ (scan m).pairs :=
    fun test htest => List.mem_map_of_mem htest
  refine (((List.forall₂_and_left _ _).2 ⟨hlisted, (((List.forall₂_and_left _ _).2
    ⟨hdefined, hscans.flip⟩).flip)⟩)).imp ?_
  rintro test e ⟨hpair, hin, hscan⟩
  obtain ⟨hcarries, hitems⟩ := hin.collected hexact
  refine ⟨by rw [hscan.title, String.empty_append], _, hcarries, hitems, fun t => hscan.mem_tags,
    fun selection title hstart hnew hrun => ?_⟩
  exact Selection.loads_of_decide hpair (fun t ht => hscan.mem_tags.2 (.inl ht)) hnew hstart hrun

/-- A module whose marks are replaced before its test is defined. -/
def replacedModule : Module :=
  [.assign 0 [.name 0 "pytestmark"] (tagsCall [.text 0 "@skip"]),
    .annotated 0 (.name 0 "pytestmark") (.name 0 "list") (some (.display 0 .list
      [tagsCall [.text 0 "@api"]])),
    .functionDef 0 "test_open" (.other 0 []) [] [] []]

/-- The test is collected with the tag that the module is left with, and the file is loaded for it
unless a filter negates the tag that was replaced. -/
theorem scan_reassigned_replaced :
    (scan replacedModule).isExact = true ∧
      TestItem.tags ⟨"test_users.py::test_open", [[.value (.str "@api")]]⟩ =
        .ok (.ofList [⟨"api"⟩]) ∧
      (∃ test ∈ (scan replacedModule).tests, test.title = "test_open" ∧ ⟨"skip"⟩ ∈ test.tags) ∧
      Selection.quickApi.loads (scan replacedModule).pairs = true := by
  have hexact : (scan replacedModule).isExact = true := by decide
  let site : Site := ⟨["test_open"], [], []⟩
  have hdefined : DefinedIn replacedModule [2] site := ⟨2, [], _, rfl, rfl, .function (by decide)⟩
  obtain ⟨-, sites, -, hmem, htests⟩ := scan_reassigned hexact
  obtain ⟨test, htest, htitle, tags, -, hitems, htags, hloads⟩ :=
    (exists_mem_of_forall₂ htests).2 ([2], site) ((hmem _ _).2 hdefined)
  replace htitle : test.title = "test_open" := by rw [htitle]; decide
  have hitem := hitems ⟨"test_users.py::test_open", [[.value (.str "@api")]]⟩
    ⟨_, .cons (.cons .text .nil) .nil, .refl _⟩
  have hdecided : TestItem.tags ⟨"test_users.py::test_open", [[.value (.str "@api")]]⟩ =
      .ok (.ofList [⟨"api"⟩]) := by decide
  obtain rfl : tags = .ofList [⟨"api"⟩] := Except.ok.inj (hitem.symm.trans hdecided)
  have hskip : (⟨"skip"⟩ : Tag) ∈ test.tags := (htags _).2 (.inr ⟨replacedModule,
    List.mem_cons_self, tagsCall [.text 0 "@skip"], List.mem_cons_self, by decide⟩)
  refine ⟨hexact, hdecided, ⟨test, htest, htitle, hskip⟩, ?_⟩
  exact hloads Selection.quickApi "test_open" (by rw [htitle]) (fun _ _ _ => rfl)
    (by decide)

/-- The tests without the tag `@skip`, of files with such a test. -/
def exceptSkip : Selection where
  raw := "-@skip"
  filter := .not (.tag ⟨"skip"⟩)
  titlePattern := ""
  options := ⟨true, true⟩
  parsed := by decide +kernel

/-- The test is listed with the tag of the marks that were replaced, although the scan is exact. So
the file is left out by a filter that the test passes with the tags that it has. -/
theorem scan_replaced :
    (scan replacedModule).isExact = true ∧ boundTags replacedModule = .ofList [⟨"api"⟩] ∧
      (scan replacedModule).pairs = [("test_open", .ofList [⟨"api"⟩, ⟨"skip"⟩])] ∧
      TestItem.tagsOf [[.value (.str "@api")]] = .ok (.ofList [⟨"api"⟩]) ∧
      exceptSkip.decide (.ofList [⟨"api"⟩]) "test_open" = .run ∧
      exceptSkip.loads (scan replacedModule).pairs = false := by
  decide

end Scan

end TaggedSuite
