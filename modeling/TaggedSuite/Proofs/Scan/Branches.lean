import TaggedSuite.Proofs.Scan.Sites

/-!
# Tests in branches

When a module is imported, the branches of its compound statements define tests as its body does.
The scan looks for tests in the bodies of the module and of its classes only. It lists every test
that is reached through these alone, and no other one: a test in a branch gets lost, and no finding
tells so unless something else in the branch gives a finding to the module as a whole.
-/
namespace TaggedSuite.Scan
open Source

variable {m : Module} {body : List Stmt} {stmt : Stmt} {s : Site}

/-- One step down to a statement. -/
inductive Step where
  /-- To a statement in a body, by its number. -/
  | member (n : Nat)
  /-- To a statement in a branch, by the number of the branch and its own. -/
  | branch (b n : Nat)
  deriving DecidableEq

/-- The test is reached from the statement through the bodies of test classes and through the
branches of compound statements. -/
inductive Reaches : Stmt → List Step → Site → Prop
  | function {line : Nat} {name : String} {parameters : Expr} {body : List Stmt}
    {decorators returns : List Expr} (h : "test".toList <+: name.toList) :
    Reaches (.functionDef line name parameters body decorators returns) [] ⟨[name], decorators, []⟩
  | group {line n : Nat} {name : String} {bases keywords decorators : List Expr} {body : List Stmt}
    {stmt : Stmt} {p : List Step} {s : Site} (h : "Test".toList <+: name.toList)
    (hstmt : body[n]? = some stmt) (hin : Reaches stmt p s) :
    Reaches (.classDef line name bases keywords body decorators) (.member n :: p)
      (s.inside name decorators body)
  | branch {line b n : Nat} {head : List Expr} {blocks : List Block} {block : Block} {stmt : Stmt}
    {p : List Step} {s : Site} (hblock : blocks[b]? = some block)
    (hstmt : block.statements[n]? = some stmt) (hin : Reaches stmt p s) :
    Reaches (.compound line head blocks) (.branch b n :: p) s

/-- The test is reached in the module. -/
def ReachedIn (m : Module) (p : List Step) (s : Site) : Prop :=
  ∃ n q stmt, p = .member n :: q ∧ m[n]? = some stmt ∧ Reaches stmt q s

/-! ### Tests outside branches -/

/-- A statement defines the tests that are reached from it through bodies alone. -/
lemma defines_iff_reaches {p : List Nat} :
    Defines stmt p s ↔ Reaches stmt (p.map .member) s := by
  constructor
  · intro h
    induction h with
    | function h => exact .function h
    | group h hstmt _ ih => exact .group h hstmt ih
  · intro h
    generalize hsteps : p.map Step.member = steps at h
    induction h generalizing p with
    | function h =>
      rw [List.map_eq_nil_iff.1 hsteps]
      exact .function h
    | group h hstmt _ ih =>
      obtain ⟨n, q, rfl, hn, hq⟩ := List.map_eq_cons_iff.1 hsteps
      cases hn
      exact .group h hstmt (ih hq)
    | branch =>
      obtain ⟨n, q, rfl, hn, -⟩ := List.map_eq_cons_iff.1 hsteps
      cases hn

lemma definedIn_iff_reachedIn {p : List Nat} :
    DefinedIn m p s ↔ ReachedIn m (p.map .member) s := by
  constructor
  · rintro ⟨n, q, stmt, rfl, hstmt, hin⟩
    exact ⟨n, q.map .member, stmt, rfl, hstmt, defines_iff_reaches.1 hin⟩
  · rintro ⟨n, q, stmt, hsteps, hstmt, hin⟩
    obtain ⟨k, rest, rfl, hk, rfl⟩ := List.map_eq_cons_iff.1 hsteps
    cases hk
    exact ⟨n, rest, stmt, rfl, hstmt, defines_iff_reaches.2 hin⟩

/-! ### What branches hold -/

mutual

/-- A statement with nothing in the branches that its tests could be reached through. -/
def emptied : Stmt → Stmt
  | .classDef line name bases keywords body decorators =>
    .classDef line name bases keywords (emptiedBody body) decorators
  | .compound line _ _ => .compound line [] []
  | stmt => stmt

/-- Statements with nothing in these branches. -/
def emptiedBody : List Stmt → List Stmt
  | [] => []
  | stmt :: rest => emptied stmt :: emptiedBody rest

end

lemma statementMarks_emptied (stmt : Stmt) :
    statementMarks (emptied stmt) = statementMarks stmt := by
  cases stmt <;> simp only [emptied, statementMarks]

lemma bodyTags_emptiedBody (body : List Stmt) : bodyTags (emptiedBody body) = bodyTags body := by
  rw [bodyTags, bodyTags]
  congr 1
  induction body with
  | nil => rfl
  | cons stmt rest ih => rw [emptiedBody, List.map_cons, List.map_cons, ih, statementMarks_emptied]

mutual

/-- What branches hold makes no difference to the tests of a statement. -/
theorem testsOf_emptied : ∀ (groupTags : TagSet) (path : String) (stmt : Stmt),
    testsOf groupTags path (emptied stmt) = testsOf groupTags path stmt
  | groupTags, path, .classDef line name bases keywords body decorators => by
    have hinner (tags : TagSet) (path : String) :
        testsOfBody tags path (emptiedBody body) = testsOfBody tags path body :=
      testsOfBody_emptied tags path body
    simp only [emptied, testsOf, bodyTags_emptiedBody, hinner]
  | _, _, .functionDef .. | _, _, .assign .. | _, _, .annotated .. | _, _, .augmented ..
  | _, _, .expression .. | _, _, .imports .. | _, _, .importFrom .. | _, _, .compound ..
  | _, _, .simple .. => by
    simp only [emptied, testsOf]

theorem testsOfBody_emptied : ∀ (groupTags : TagSet) (path : String) (body : List Stmt),
    testsOfBody groupTags path (emptiedBody body) = testsOfBody groupTags path body
  | _, _, [] => rfl
  | groupTags, path, stmt :: rest => by
    rw [emptiedBody, testsOfBody, testsOfBody, testsOf_emptied, testsOfBody_emptied]

end

/-- Of the tests that are reached in a module, the scan lists those outside branches, in their order
and with their paths of names, whether it is exact or not. What the branches hold changes neither
this list nor the findings, except for those that concern the module as a whole. -/
theorem scan_lists_reached (m : Module) :
    (∃ sites : List (List Nat × Site), (sites.map (·.1)).Pairwise (· < ·) ∧
      (∀ p s, (p, s) ∈ sites ↔ ReachedIn m (p.map .member) s) ∧
      List.Forall₂ (fun test e => test.title = "::".intercalate e.2.names) (scan m).tests sites) ∧
    (∀ p s, ReachedIn m p s → (∀ b n, .branch b n ∉ p) →
      ∃ test ∈ (scan m).tests, test.title = "::".intercalate s.names) ∧
    (scan (emptiedBody m)).tests = (scan m).tests ∧
    ∀ f ∈ (scan m).findings, f ∈ moduleFindings m ∨ f ∈ (scan (emptiedBody m)).findings := by
  have hsites : ∀ p s, (p, s) ∈ sitesOfBody 0 m ↔ ReachedIn m (p.map .member) s := fun p s => by
    rw [← definedIn_iff_reachedIn]
    simp only [mem_sitesOfBody, DefinedIn, Nat.zero_add]
  have htitles : List.Forall₂ (fun (test : ScannedTest) (e : List Nat × Site) =>
      test.title = "::".intercalate e.2.names) (scan m).tests (sitesOfBody 0 m) := by
    refine (testsOfBody_sites (bodyTags m).1 "" 0 m).imp fun test e h => ?_
    rw [h.title, String.empty_append]
  refine ⟨⟨sitesOfBody 0 m, List.pairwise_map.2 (sitesOfBody_ordered 0 m), hsites, htitles⟩,
    fun p s h houtside => ?_, ?_, fun f hf => ?_⟩
  · obtain ⟨q, rfl⟩ : ∃ q : List Nat, p = q.map .member := by
      clear h
      induction p with
      | nil => exact ⟨[], rfl⟩
      | cons step p ih =>
        obtain ⟨q, rfl⟩ := ih fun b n hmem => houtside b n (List.mem_cons_of_mem _ hmem)
        cases step with
        | member n => exact ⟨n :: q, rfl⟩
        | branch b n => exact (houtside b n List.mem_cons_self).elim
    exact (exists_mem_of_forall₂ htitles).2 (q, s) ((hsites q s).2 h)
  · rw [scan, scan, bodyTags_emptiedBody, testsOfBody_emptied]
  · rw [scan, bodyTags_emptiedBody, testsOfBody_emptied]
    simp only [scan, List.mem_append] at hf ⊢
    tauto

/-- The module has a test that is defined only under a condition. -/
def conditionalModule : Module :=
  [.compound 0 [.name 0 "ONLINE"] [.body [.functionDef 0 "test_open" (.other 0 []) [] [] []]]]

/-- The module has another test in a class that inherits marks. -/
def mixedModule : Module :=
  conditionalModule ++ [.classDef 0 "TestUsers" [.name 0 "Marked"] []
    [.functionDef 0 "test_create" (.other 0 []) [] [] []] []]

/-- The test in the class is listed, although the scan is not exact. -/
theorem scan_lists_reached_users :
    ReachedIn mixedModule [.member 1, .member 0] ⟨["TestUsers", "test_create"], [],
        [[.functionDef 0 "test_create" (.other 0 []) [] [] []]]⟩ ∧
      (∀ b n, Step.branch b n ∉ [Step.member 1, .member 0]) ∧
      (∃ test ∈ (scan mixedModule).tests, test.title = "TestUsers::test_create") ∧
      (scan mixedModule).isExact = false := by
  have hreached : ReachedIn mixedModule [.member 1, .member 0] ⟨["TestUsers", "test_create"], [],
      [[.functionDef 0 "test_create" (.other 0 []) [] [] []]]⟩ :=
    ⟨1, [.member 0], _, rfl, rfl, .group (by decide) rfl (.function (by decide))⟩
  have houtside : ∀ b n, Step.branch b n ∉ [Step.member 1, .member 0] := by simp
  obtain ⟨-, hlisted, -⟩ := scan_lists_reached mixedModule
  obtain ⟨test, htest, htitle⟩ := hlisted _ _ hreached houtside
  exact ⟨hreached, houtside, ⟨test, htest, htitle⟩, by decide⟩

/-- A test in a branch is reached when the module is imported, but an exact scan does not list it.
-/
theorem scan_conditional :
    ReachedIn conditionalModule [.member 0, .branch 0 0] ⟨["test_open"], [], []⟩ ∧
      (scan conditionalModule).isExact = true ∧ (scan conditionalModule).tests = [] :=
  ⟨⟨0, [.branch 0 0], _, rfl, rfl, .branch rfl rfl (.function (by decide))⟩, by decide, by decide⟩

end TaggedSuite.Scan
