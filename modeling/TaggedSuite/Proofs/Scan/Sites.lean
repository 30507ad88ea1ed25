import Mathlib.Control.Monad.Basic
import TaggedSuite.Proofs.Scan.Marks

/-!
# The tests of a module and their tags

A test of a module is a function named `test…` that stands in the body of the module or, through any
number of classes named `Test…`, in the body of one of them. Its position is the list of the places
where it and its classes stand, so that the order of positions is the order in the text. The scan
lists the tests in this order. If it is exact, a test has the tags that its markers come to when it
is collected: those of its decorators and of the decorators and marks of everything around it.
-/
namespace TaggedSuite.Scan
open Source

variable {m : Module} {body : List Stmt} {stmt : Stmt} {e : Expr} {p : List Nat} {t : Tag}
  {f : Finding} {groupTags : TagSet} {path : String}

/-- The value that a statement assigns to the name that holds marks. -/
def assigned? : Stmt → Option Expr
  | .assign _ targets value => if targets.any isMarksName then some value else none
  | .annotated _ target _ (some value) => if isMarksName target then some value else none
  | _ => none

/-- The values that the statements of a body assign to the name that holds marks. -/
def assigned (body : List Stmt) : List Expr := body.filterMap assigned?

/-- The marks of a body: what is assigned last. -/
def marksOf? (body : List Stmt) : Option Expr := (assigned body).getLast?

/-- A test with what stands around it, from the outside on. -/
structure Site where
  /-- The names of the classes and of the function. -/
  names : List String
  decorators : List Expr
  /-- The bodies of the classes. -/
  bodies : List (List Stmt)

namespace Site

/-- The test inside one more class. -/
def inside (s : Site) (name : String) (decorators : List Expr) (body : List Stmt) : Site :=
  ⟨name :: s.names, decorators ++ s.decorators, body :: s.bodies⟩

/-- The expressions below the module that the scan reads for the test. -/
def declared (s : Site) : List Expr := s.decorators ++ s.bodies.flatMap assigned

/-- The marks of the test: its decorators, and the decorators and marks of its classes and of the
module. -/
def marks (m : Module) (s : Site) : List Expr := s.decorators ++ (m :: s.bodies).filterMap marksOf?

/-- The markers that come of the marks, in any order: one for each marker call, with what the
literals in it stand for. -/
def Carries (m : Module) (s : Site) (markers : List (List Label)) : Prop :=
  ∃ labelss, List.Forall₂ (List.Forall₂ Denotes) ((s.marks m).flatMap markerCalls) labelss ∧
    markers.Perm labelss

end Site

/-- The statement defines the test. The position says where it stands below the statement. -/
inductive Defines : Stmt → List Nat → Site → Prop
  | function {line : Nat} {name : String} {parameters : Expr} {body : List Stmt}
    {decorators returns : List Expr} (h : "test".toList <+: name.toList) :
    Defines (.functionDef line name parameters body decorators returns) [] ⟨[name], decorators, []⟩
  | group {line n : Nat} {name : String} {bases keywords decorators : List Expr} {body : List Stmt}
    {stmt : Stmt} {p : List Nat} {s : Site} (h : "Test".toList <+: name.toList)
    (hstmt : body[n]? = some stmt) (hin : Defines stmt p s) :
    Defines (.classDef line name bases keywords body decorators) (n :: p)
      (s.inside name decorators body)

/-- The module defines the test at the position. -/
def DefinedIn (m : Module) (p : List Nat) (s : Site) : Prop :=
  ∃ n q stmt, p = n :: q ∧ m[n]? = some stmt ∧ Defines stmt q s

/-- The body is that of the module or of a class whose tests are looked for. -/
inductive IsBody (m : Module) : List Stmt → Prop
  | self : IsBody m m
  | inner {line : Nat} {name : String} {bases keywords decorators : List Expr}
    {body inner : List Stmt} (h : IsBody m body) (hname : "Test".toList <+: name.toList)
    (hmem : .classDef line name bases keywords inner decorators ∈ body) : IsBody m inner

/-- The expression is a decorator or the marks of a test or of a class whose tests are looked for.
-/
inductive Consults : Stmt → Expr → Prop
  | function {line : Nat} {name : String} {parameters : Expr} {body : List Stmt}
    {decorators returns : List Expr} {e : Expr} (h : "test".toList <+: name.toList)
    (he : e ∈ decorators) :
    Consults (.functionDef line name parameters body decorators returns) e
  | group {line : Nat} {name : String} {bases keywords decorators : List Expr} {body : List Stmt}
    {e : Expr} (h : "Test".toList <+: name.toList) (he : e ∈ decorators ++ assigned body) :
    Consults (.classDef line name bases keywords body decorators) e
  | inside {line : Nat} {name : String} {bases keywords decorators : List Expr} {body : List Stmt}
    {stmt : Stmt} {e : Expr} (h : "Test".toList <+: name.toList) (hstmt : stmt ∈ body)
    (hin : Consults stmt e) :
    Consults (.classDef line name bases keywords body decorators) e

/-- The call is a mark of a test, of a class whose tests are looked for, or of the module. -/
def IsMarkOf (m : Module) (call : Expr) : Prop :=
  ∃ e, (e ∈ assigned m ∨ ∃ stmt ∈ m, Consults stmt e) ∧ Holds e call

/-! ### What the scan reads of a body -/

lemma statementMarks_of_assigned (h : assigned? stmt = some e) : statementMarks stmt = marks e := by
  unfold assigned? at h
  split at h
  · split_ifs at h with hname
    cases h
    rw [statementMarks, if_pos hname]
  · split_ifs at h with hname
    cases h
    rw [statementMarks, if_pos hname]
  · contradiction

lemma statementMarks_of_not_assigned (h : assigned? stmt = none) :
    (statementMarks stmt).1 = .empty := by
  unfold statementMarks
  split
  · rw [assigned?] at h
    split_ifs at h with hname
    rw [if_neg hname]
  · rw [assigned?] at h
    split_ifs at h with hname
    rw [if_neg hname]
  · split_ifs <;> rfl
  · split_ifs <;> rfl
  · rfl

lemma mem_bodyTags : t ∈ (bodyTags body).1 ↔ ∃ e ∈ assigned body, t ∈ (marks e).1 := by
  simp only [bodyTags, mem_gather, List.mem_map, exists_exists_and_eq_and, assigned,
    List.mem_filterMap]
  constructor
  · rintro ⟨stmt, hstmt, ht⟩
    cases hassigned : assigned? stmt with
    | none => simp [statementMarks_of_not_assigned hassigned] at ht
    | some e =>
      rw [statementMarks_of_assigned hassigned] at ht
      exact ⟨e, ⟨stmt, hstmt, hassigned⟩, ht⟩
  · rintro ⟨e, ⟨stmt, hstmt, hassigned⟩, ht⟩
    exact ⟨stmt, hstmt, by rwa [statementMarks_of_assigned hassigned]⟩

lemma mem_bodyTags_found (he : e ∈ assigned body) (hf : f ∈ (marks e).2) :
    f ∈ (bodyTags body).2 := by
  obtain ⟨stmt, hstmt, hassigned⟩ := List.mem_filterMap.1 he
  refine mem_gather_found.2 ⟨statementMarks stmt, List.mem_map_of_mem hstmt, ?_⟩
  rwa [statementMarks_of_assigned hassigned]

lemma mem_decoratorTags {decorators : List Expr} :
    t ∈ (decoratorTags decorators).1 ↔ ∃ e ∈ decorators, t ∈ (marks e).1 := by
  simp only [decoratorTags, mem_gather, marksEach_eq_map, List.mem_map, exists_exists_and_eq_and]

lemma mem_decoratorTags_found {decorators : List Expr} (he : e ∈ decorators)
    (hf : f ∈ (marks e).2) : f ∈ (decoratorTags decorators).2 := by
  rw [decoratorTags, mem_gather_found, marksEach_eq_map]
  exact ⟨marks e, List.mem_map_of_mem he, hf⟩

lemma isTestName_iff {name : String} : isTestName name = true ↔ "test".toList <+: name.toList :=
  List.isPrefixOf_iff_prefix

lemma isTestClassName_iff {name : String} :
    isTestClassName name = true ↔ "Test".toList <+: name.toList :=
  List.isPrefixOf_iff_prefix

/-! ### The order of the tests -/

mutual

/-- The tests that a statement defines, in order. -/
def sitesOf : Stmt → List (List Nat × Site)
  | .functionDef _ name _ _ decorators _ =>
    if isTestName name then [([], ⟨[name], decorators, []⟩)] else []
  | .classDef _ name _ _ body decorators =>
    if isTestClassName name then
      (sitesOfBody 0 body).map fun e => (e.1, e.2.inside name decorators body)
    else []
  | _ => []

/-- The tests that statements define of which the first one has the given place, in order. -/
def sitesOfBody (n : Nat) : List Stmt → List (List Nat × Site)
  | [] => []
  | stmt :: rest => (sitesOf stmt).map (fun e => (n :: e.1, e.2)) ++ sitesOfBody (n + 1) rest

end

mutual

/-- The listed tests are those that the statement defines. -/
theorem mem_sitesOf : ∀ (stmt : Stmt) (p : List Nat) (s : Site),
    (p, s) ∈ sitesOf stmt ↔ Defines stmt p s
  | .functionDef line name parameters body decorators returns, p, s => by
    rw [sitesOf]
    split_ifs with hname
    · rw [List.mem_singleton, Prod.mk.injEq]
      constructor
      · rintro ⟨rfl, rfl⟩
        exact .function (isTestName_iff.1 hname)
      · rintro ⟨⟩
        exact ⟨rfl, rfl⟩
    · refine iff_of_false List.not_mem_nil fun h => ?_
      cases h with
      | function h => exact hname (isTestName_iff.2 h)
  | .classDef line name bases keywords body decorators, p, s => by
    rw [sitesOf]
    split_ifs with hname
    · rw [List.mem_map]
      constructor
      · rintro ⟨⟨q, s'⟩, hmem, heq⟩
        cases heq
        obtain ⟨k, q', stmt, rfl, hstmt, hin⟩ := (mem_sitesOfBody 0 body q s').1 hmem
        rw [Nat.zero_add]
        exact .group (isTestClassName_iff.1 hname) hstmt hin
      · intro h
        cases h with
        | @group _ k _ _ _ _ _ stmt q s' _ hstmt hin =>
          have hplace : k :: q = (0 + k) :: q := by rw [Nat.zero_add]
          exact ⟨(k :: q, s'), (mem_sitesOfBody 0 body _ _).2 ⟨k, q, stmt, hplace, hstmt, hin⟩, rfl⟩
    · refine iff_of_false List.not_mem_nil fun h => ?_
      cases h with
      | group h => exact hname (isTestClassName_iff.2 h)
  | .assign .., _, _ | .annotated .., _, _ | .augmented .., _, _ | .expression .., _, _
  | .imports .., _, _ | .importFrom .., _, _ | .compound .., _, _ | .simple .., _, _ => by
    simp only [sitesOf]
    exact iff_of_false List.not_mem_nil (fun h => nomatch h)

theorem mem_sitesOfBody : ∀ (n : Nat) (body : List Stmt) (p : List Nat) (s : Site),
    (p, s) ∈ sitesOfBody n body ↔
      ∃ k q stmt, p = (n + k) :: q ∧ body[k]? = some stmt ∧ Defines stmt q s
  | n, [], p, s => by simp [sitesOfBody]
  | n, stmt :: rest, p, s => by
    rw [sitesOfBody, List.mem_append, List.mem_map, mem_sitesOfBody (n + 1) rest]
    constructor
    · rintro (⟨⟨q, s'⟩, hmem, heq⟩ | ⟨k, q, stmt', rfl, hstmt, hin⟩)
      · cases heq
        exact ⟨0, q, stmt, rfl, rfl, (mem_sitesOf stmt q s').1 hmem⟩
      · exact ⟨k + 1, q, stmt', by rw [Nat.add_assoc, Nat.add_comm 1 k], hstmt, hin⟩
    · rintro ⟨k, q, stmt', rfl, hstmt, hin⟩
      cases k with
      | zero =>
        cases hstmt
        exact .inl ⟨(q, s), (mem_sitesOf stmt q s).2 hin, rfl⟩
      | succ k =>
        exact .inr ⟨k, q, stmt', by rw [Nat.add_assoc, Nat.add_comm 1 k], hstmt, hin⟩

end

mutual

/-- The order of the tests is that of their positions. -/
theorem sitesOf_ordered : ∀ stmt : Stmt, (sitesOf stmt).Pairwise fun a b => a.1 < b.1
  | .functionDef line name parameters body decorators returns => by
    rw [sitesOf]
    split_ifs
    · exact List.pairwise_singleton _ _
    · exact .nil
  | .classDef line name bases keywords body decorators => by
    rw [sitesOf]
    split_ifs
    · exact List.pairwise_map.2 (sitesOfBody_ordered 0 body)
    · exact .nil
  | .assign .. | .annotated .. | .augmented .. | .expression .. | .imports .. | .importFrom ..
  | .compound .. | .simple .. => by
    simp only [sitesOf]
    exact .nil

theorem sitesOfBody_ordered : ∀ (n : Nat) (body : List Stmt),
    (sitesOfBody n body).Pairwise fun a b => a.1 < b.1
  | n, [] => .nil
  | n, stmt :: rest => by
    rw [sitesOfBody, List.pairwise_append, List.pairwise_map]
    refine ⟨(sitesOf_ordered stmt).imp fun hlt => List.cons_lt_cons_iff.2 (.inr ⟨rfl, hlt⟩),
      sitesOfBody_ordered (n + 1) rest, fun a ha b hb => ?_⟩
    obtain ⟨a', -, rfl⟩ := List.mem_map.1 ha
    obtain ⟨k, q, stmt', hplace, -, -⟩ := (mem_sitesOfBody (n + 1) rest b.1 b.2).1 hb
    rw [hplace]
    exact List.cons_lt_cons_iff.2 (.inl (by omega))

end

/-! ### What the scan lists -/

/-- The scanned test is the one at the site, inside groups with a path and tags. -/
structure IsScanOf (path : String) (groupTags : TagSet) (test : ScannedTest) (s : Site) : Prop where
  named : s.names ≠ []
  title : test.title = path ++ "::".intercalate s.names
  tags : ∀ t, t ∈ test.tags ↔ t ∈ groupTags ∨ ∃ e ∈ s.declared, t ∈ (marks e).1

lemma Site.mem_declared_inside {s : Site} {name : String} {decorators : List Expr} :
    e ∈ (s.inside name decorators body).declared ↔
      e ∈ decorators ∨ e ∈ assigned body ∨ e ∈ s.declared := by
  simp only [declared, inside, List.flatMap_cons, List.mem_append]
  tauto

/-- What a class adds: its name to the title, and the tags of its decorators and of its marks. -/
lemma IsScanOf.inside {name : String} {decorators : List Expr} {test : ScannedTest} {s : Site}
    (h : IsScanOf (path ++ name ++ "::")
      (groupTags.unionAll [(decoratorTags decorators).1, (bodyTags body).1]) test s) :
    IsScanOf path groupTags test (s.inside name decorators body) where
  named := List.cons_ne_nil _ _
  title := by
    rw [h.title, Site.inside, String.intercalate_cons_of_ne_nil h.named]
    simp only [String.append_assoc]
  tags t := by
    simp only [h.tags, TagSet.mem_unionAll, List.exists_mem_cons_iff, List.not_mem_nil, false_and,
      exists_const, or_false, mem_decoratorTags, mem_bodyTags, Site.mem_declared_inside,
      or_and_right, exists_or, or_assoc]

mutual

/-- The scan lists the tests in the order of their positions. -/
theorem testsOf_sites : ∀ (groupTags : TagSet) (path : String) (stmt : Stmt),
    List.Forall₂ (fun test e => IsScanOf path groupTags test e.2)
      (testsOf groupTags path stmt).tests (sitesOf stmt)
  | groupTags, path, .functionDef line name parameters body decorators returns => by
    rw [testsOf, sitesOf]
    split_ifs
    · refine .cons ⟨List.cons_ne_nil _ _, ?_, fun t => ?_⟩ .nil
      · rw [String.intercalate_singleton]
      · simp only [TagSet.mem_union, mem_decoratorTags, Site.declared, List.flatMap_nil,
          List.append_nil]
    · exact .nil
  | groupTags, path, .classDef line name bases keywords body decorators => by
    rw [testsOf, sitesOf]
    by_cases hname : isTestClassName name = true
    · rw [if_pos hname, if_pos hname, List.forall₂_map_right_iff]
      exact (testsOfBody_sites _ _ 0 body).imp fun _ _ h => h.inside
    · rw [if_neg hname, if_neg hname]
      exact .nil
  | _, _, .assign .. | _, _, .annotated .. | _, _, .augmented .. | _, _, .expression ..
  | _, _, .imports .. | _, _, .importFrom .. | _, _, .compound .. | _, _, .simple .. => by
    simp only [testsOf, sitesOf]
    exact .nil

theorem testsOfBody_sites : ∀ (groupTags : TagSet) (path : String) (n : Nat) (body : List Stmt),
    List.Forall₂ (fun test e => IsScanOf path groupTags test e.2)
      (testsOfBody groupTags path body).tests (sitesOfBody n body)
  | _, _, _, [] => .nil
  | groupTags, path, n, stmt :: rest => by
    rw [testsOfBody, sitesOfBody]
    refine List.rel_append ?_ (testsOfBody_sites groupTags path (n + 1) rest)
    rw [List.forall₂_map_right_iff]
    exact testsOf_sites groupTags path stmt

end

/-! ### What the scan reports -/

lemma testsOf_found_of_mem (hstmt : stmt ∈ body)
    (hf : f ∈ (testsOf groupTags path stmt).findings) :
    f ∈ (testsOfBody groupTags path body).findings := by
  induction body with
  | nil => cases hstmt
  | cons first rest ih =>
    rw [testsOfBody]
    rcases List.mem_cons.1 hstmt with rfl | hstmt
    · exact List.mem_append_left _ hf
    · exact List.mem_append_right _ (ih hstmt)

/-- What the marks report that the scan reads, the scan reports. -/
lemma Consults.found (h : Consults stmt e) (hf : f ∈ (marks e).2) :
    f ∈ (testsOf groupTags path stmt).findings := by
  induction h generalizing groupTags path with
  | function h he =>
    rw [testsOf, if_pos (isTestName_iff.2 h)]
    exact mem_decoratorTags_found he hf
  | group h he =>
    rw [testsOf, if_pos (isTestClassName_iff.2 h)]
    rcases List.mem_append.1 he with he | he
    · simp [mem_decoratorTags_found he hf]
    · simp [mem_bodyTags_found he hf]
  | inside h hstmt _ ih =>
    rw [testsOf, if_pos (isTestClassName_iff.2 h)]
    simp [testsOf_found_of_mem hstmt (ih hf)]

lemma Defines.consults {s : Site} (h : Defines stmt p s) (he : e ∈ s.declared) :
    Consults stmt e := by
  induction h with
  | function h =>
    simp only [Site.declared, List.flatMap_nil, List.append_nil] at he
    exact .function h he
  | group h hstmt _ ih =>
    rcases Site.mem_declared_inside.1 he with he | he | he
    · exact .group h (List.mem_append_left _ he)
    · exact .group h (List.mem_append_right _ he)
    · exact .inside h (List.mem_of_getElem? hstmt) (ih he)

lemma Defines.isBody {s : Site} (h : Defines stmt p s) (hbody : IsBody m body)
    (hstmt : stmt ∈ body) {inner : List Stmt} (hinner : inner ∈ s.bodies) : IsBody m inner := by
  induction h generalizing body with
  | function => cases hinner
  | group h hin _ ih =>
    have hown := hbody.inner h hstmt
    rcases List.mem_cons.1 hinner with rfl | hinner
    · exact hown
    · exact ih hown (List.mem_of_getElem? hin) hinner

/-- What a mark of the module reports, the scan reports. -/
lemma IsMarkOf.found {call : Expr} (h : IsMarkOf m call) (hf : f ∈ (marks call).2) :
    f ∈ (scan m).findings := by
  obtain ⟨e, he, hholds⟩ := h
  have hfound := hholds.found hf
  rw [scan]
  rcases he with he | ⟨stmt, hstmt, he⟩
  · simp [mem_bodyTags_found he hfound]
  · simp [testsOf_found_of_mem hstmt (he.found hfound)]

/-! ### Agreement with the collection -/

/-- The module and every class assign marks once at most. -/
def AssignsOnce (m : Module) : Prop := ∀ body, IsBody m body → (assigned body).length ≤ 1

lemma mem_marksOf? (h : (assigned body).length ≤ 1) :
    e ∈ assigned body ↔ marksOf? body = some e := by
  rw [marksOf?]
  cases hassigned : assigned body with
  | nil => simp
  | cons first rest =>
    have hrest : rest = [] := by
      rw [hassigned, List.length_cons] at h
      exact List.length_eq_zero_iff.1 (by omega)
    subst hrest
    simp [eq_comm]

/-- Where marks are assigned once, the marks of a test are those that the scan reads for it. -/
lemma Site.mem_marks {s : Site} (honce : AssignsOnce m) (hbodies : ∀ b ∈ s.bodies, IsBody m b) :
    e ∈ s.marks m ↔ e ∈ assigned m ∨ e ∈ s.declared := by
  have hbody : ∀ b ∈ m :: s.bodies, (assigned b).length ≤ 1 :=
    List.forall_mem_cons.2 ⟨honce m .self, fun b hb => honce b (hbodies b hb)⟩
  have hassigned : e ∈ (m :: s.bodies).filterMap marksOf? ↔
      e ∈ (m :: s.bodies).flatMap assigned := by
    rw [List.mem_filterMap, List.mem_flatMap]
    exact exists_congr fun b => and_congr_right fun hb => (mem_marksOf? (hbody b hb)).symm
  rw [marks, declared, List.mem_append, hassigned, List.flatMap_cons, List.mem_append,
    List.mem_append]
  tauto

/-- Members of lists that are related one by one. -/
lemma exists_mem_of_forall₂ {α β : Type} {R : α → β → Prop} {xs : List α} {ys : List β}
    (h : List.Forall₂ R xs ys) : (∀ x ∈ xs, ∃ y ∈ ys, R x y) ∧ ∀ y ∈ ys, ∃ x ∈ xs, R x y := by
  induction h with
  | nil => simp
  | cons hxy _ ih =>
    refine ⟨List.forall_mem_cons.2 ⟨⟨_, List.mem_cons_self, hxy⟩, fun x hx => ?_⟩,
      List.forall_mem_cons.2 ⟨⟨_, List.mem_cons_self, hxy⟩, fun y hy => ?_⟩⟩
    · obtain ⟨y, hy, hxy⟩ := ih.1 x hx
      exact ⟨y, List.mem_cons_of_mem _ hy, hxy⟩
    · obtain ⟨x, hx, hxy⟩ := ih.2 y hy
      exact ⟨x, List.mem_cons_of_mem _ hx, hxy⟩

/-- Calls that the scan reads without a report can be collected. -/
lemma Agrees.exists_labels {read : TagSet × List Finding} {calls : List (List Expr)}
    (h : Agrees read calls) (hexact : read.2 = []) :
    ∃ labelss, List.Forall₂ (List.Forall₂ Denotes) calls labelss := by
  have hall := (h hexact).1
  clear h
  induction calls with
  | nil => exact ⟨[], .nil⟩
  | cons args calls ih =>
    obtain ⟨⟨s, ⟨labels, hlabels⟩, -⟩, hrest⟩ := List.forall_mem_cons.1 hall
    obtain ⟨labelss, hlabelss⟩ := ih hrest
    exact ⟨labels :: labelss, .cons hlabels hlabelss⟩

/-- Markers of calls that the scan reads without a report come to the tags that it reads. -/
lemma Agrees.tagsOf {read : TagSet × List Finding} {calls : List (List Expr)}
    {markers labelss : List (List Label)} (h : Agrees read calls) (hexact : read.2 = [])
    (hlabels : List.Forall₂ (List.Forall₂ Denotes) calls labelss)
    (hperm : markers.Perm labelss) : TestItem.tagsOf markers = .ok read.1 := by
  obtain ⟨hall, htags⟩ := h hexact
  obtain ⟨hcalls, hmarkers⟩ := exists_mem_of_forall₂ hlabels
  refine TagSet.tagsOf_eq_ok (fun marker hmarker => ?_) fun t => ?_
  · obtain ⟨args, hargs, hdenotes⟩ := hmarkers marker (hperm.mem_iff.1 hmarker)
    obtain ⟨s, hs⟩ := hall args hargs
    exact ⟨s, hs.2 marker hdenotes⟩
  · rw [htags]
    constructor
    · rintro ⟨args, hargs, s, hs, ht⟩
      obtain ⟨marker, hmarker, hdenotes⟩ := hcalls args hargs
      exact ⟨marker, hperm.mem_iff.2 hmarker, s, hs.2 marker hdenotes, ht⟩
    · rintro ⟨marker, hmarker, s, hs, ht⟩
      obtain ⟨args, hargs, hdenotes⟩ := hmarkers marker (hperm.mem_iff.1 hmarker)
      obtain ⟨s', hs'⟩ := hall args hargs
      have hsame := (hs'.2 marker hdenotes).symm.trans hs
      cases hsame
      exact ⟨args, hargs, _, hs', ht⟩

lemma Site.assigned_or_declared_of_mem_marks {s : Site} (h : e ∈ s.marks m) :
    e ∈ assigned m ∨ e ∈ s.declared := by
  rcases List.mem_append.1 h with h | h
  · exact .inr (List.mem_append_left _ h)
  · obtain ⟨b, hb, hlast⟩ := List.mem_filterMap.1 h
    have hmem : e ∈ assigned b := List.mem_of_getLast? hlast
    rcases List.mem_cons.1 hb with rfl | hb
    · exact .inl hmem
    · exact .inr (List.mem_append_right _ (List.mem_flatMap.2 ⟨b, hb, hmem⟩))

/-- Where the scan reports nothing, there is nothing to report of the marks of a test. -/
lemma DefinedIn.unreported {s : Site} (hexact : (scan m).isExact = true)
    (hdefined : DefinedIn m p s) : (decoratorTags (s.marks m)).2 = [] := by
  obtain ⟨n, q, stmt, rfl, hstmt, hin⟩ := hdefined
  have hfound : (scan m).findings = [] := List.isEmpty_iff.1 hexact
  refine List.eq_nil_iff_forall_not_mem.2 fun f hf => ?_
  rw [decoratorTags, mem_gather_found, marksEach_eq_map] at hf
  obtain ⟨_, hread, hf⟩ := hf
  obtain ⟨e, he, rfl⟩ := List.mem_map.1 hread
  have hmark : IsMarkOf m e := by
    refine ⟨e, ?_, .self⟩
    rcases Site.assigned_or_declared_of_mem_marks he with he | he
    · exact .inl he
    · exact .inr ⟨stmt, List.mem_of_getElem? hstmt, hin.consults he⟩
  exact List.not_mem_nil (hfound ▸ hmark.found hf)

/-- A test at a site is scanned with the tags that come of its markers. -/
lemma IsScanOf.agrees {test : ScannedTest} {s : Site} (honce : AssignsOnce m)
    (hexact : (scan m).isExact = true) (hdefined : DefinedIn m p s)
    (hscan : IsScanOf "" (bodyTags m).1 test s) :
    (decoratorTags (s.marks m)).2 = [] ∧ (decoratorTags (s.marks m)).1 = test.tags := by
  refine ⟨hdefined.unreported hexact, TagSet.ext fun t => ?_⟩
  obtain ⟨n, q, stmt, rfl, hstmt, hin⟩ := hdefined
  have hmarks {e : Expr} : e ∈ s.marks m ↔ e ∈ assigned m ∨ e ∈ s.declared :=
    Site.mem_marks honce fun b hb => hin.isBody .self (List.mem_of_getElem? hstmt) hb
  rw [hscan.tags, mem_bodyTags, mem_decoratorTags]
  simp only [hmarks, or_and_right, exists_or]

/-- The scan of a module agrees with the collection of its tests. If it is exact and marks are
assigned once at most in each body, it lists the tests of the module in their order and nothing
else, each with its path of names and with the tags that come of its markers, in whatever order a
collected test carries these. A marker call of literals keeps the scan from being exact if and only
if its labels stop the collection. -/
theorem scan_agrees (m : Module) :
    ((scan m).isExact = true → AssignsOnce m →
      ∃ sites : List (List Nat × Site), (sites.map (·.1)).Pairwise (· < ·) ∧
        (∀ p s, (p, s) ∈ sites ↔ DefinedIn m p s) ∧
        List.Forall₂ (fun test e => test.title = "::".intercalate e.2.names ∧
          (∃ markers, e.2.Carries m markers) ∧
          ∀ item : TestItem, e.2.Carries m item.markers → item.tags = .ok test.tags)
          (scan m).tests sites) ∧
    (∀ (line : Nat) (func : Expr) (args keywords : List Expr) (labels : List Label),
      isTagsMark func = true → List.Forall₂ Denotes args labels →
        ((marks (.call line func args keywords)).2 ≠ [] ↔
          ∃ e, TagSet.ofMarkerArguments labels = .error e ∧ ∀ kind, e ≠ .noMembers kind) ∧
        (∀ f, f ∈ (expressionLevels (.call line func args keywords)).flatten ↔
          f ∈ (expressionsLevels keywords).flatten) ∧
        (IsMarkOf m (.call line func args keywords) →
          (marks (.call line func args keywords)).2 ≠ [] → (scan m).isExact = false)) := by
  refine ⟨fun hexact honce => ?_, fun line func args keywords labels hfunc hlabels => ?_⟩
  · have hsites : ∀ p s, (p, s) ∈ sitesOfBody 0 m ↔ DefinedIn m p s := fun p s => by
      simp only [mem_sitesOfBody, DefinedIn, Nat.zero_add]
    refine ⟨sitesOfBody 0 m, List.pairwise_map.2 (sitesOfBody_ordered 0 m), hsites, ?_⟩
    have hscans : List.Forall₂ (fun test e => IsScanOf "" (bodyTags m).1 test e.2) (scan m).tests
        (sitesOfBody 0 m) := testsOfBody_sites (bodyTags m).1 "" 0 m
    have hdefined : ∀ e ∈ sitesOfBody 0 m, DefinedIn m e.1 e.2 := fun e he => (hsites e.1 e.2).1 he
    refine ((List.forall₂_and_left _ _).2 ⟨hdefined, hscans.flip⟩).flip.imp ?_
    rintro test e ⟨hin, hscan⟩
    obtain ⟨hread, htags⟩ := hscan.agrees honce hexact hin
    have hagrees : Agrees (decoratorTags (e.2.marks m)) ((e.2.marks m).flatMap markerCalls) :=
      .gather (marksEach_agrees _)
    obtain ⟨labelss, hlabels⟩ := hagrees.exists_labels hread
    refine ⟨by rw [hscan.title, String.empty_append], ⟨labelss, labelss, hlabels, .refl _⟩, ?_⟩
    rintro item ⟨labelss', hlabels', hperm⟩
    rw [TestItem.tags, hagrees.tagsOf hread hlabels' hperm, htags]
  · refine ⟨?_, fun f => mem_levels_call hfunc hlabels, fun hmark hfound => ?_⟩
    · rw [marks, if_pos hfunc]
      rcases markArguments_spec line hlabels with ⟨s, hs, htags⟩ | ⟨hfound, he⟩
      · simp [hs, htags]
      · exact iff_of_true hfound he
    · obtain ⟨f, hf⟩ := List.exists_mem_of_ne_nil _ hfound
      have hmem := hmark.found hf
      rw [Result.isExact, List.isEmpty_eq_false_iff]
      exact List.ne_nil_of_mem hmem

/-- The call of the tags mark with the arguments. -/
def tagsCall (args : List Expr) : Expr := .call 0 (.attribute 0 (.name 0 "mark") "tags") args []

/-- A test in a class of its own, with marks on every level. -/
def usersBody : List Stmt :=
  [.assign 0 [.name 0 "pytestmark"] (tagsCall [.text 0 "@crud"]),
    .functionDef 0 "test_create" (.other 0 []) [] [tagsCall [.text 0 "@smoke"]] []]

/-- The module of the class. -/
def usersModule : Module :=
  [.assign 0 [.name 0 "pytestmark"]
      (.display 0 .list [tagsCall [.text 0 "@api"], .attribute 0 (.name 0 "mark") "slow"]),
    .classDef 0 "TestUsers" [] [] usersBody [tagsCall [.display 0 .set [.text 0 "@USERS"]]]]

lemma usersModule_assignsOnce : AssignsOnce usersModule := by
  have hbodies : ∀ body, IsBody usersModule body → body = usersModule ∨ body = usersBody := by
    intro body h
    induction h with
    | self => exact .inl rfl
    | inner _ _ hmem ih =>
      rcases ih with rfl | rfl
      · rcases List.mem_pair.1 hmem with hclass | hclass
        · cases hclass
        · cases hclass
          exact .inr rfl
      · rcases List.mem_pair.1 hmem with hclass | hclass <;> cases hclass
  intro body h
  rcases hbodies body h with rfl | rfl <;> decide

/-- A module with a label that is no tag. -/
def blankModule : Module :=
  [.functionDef 0 "test_open" (.other 0 []) [] [tagsCall [.text 0 " "]] []]

/-- The test of the class has the tags that it is scanned with, and a blank label keeps a scan from
being exact. -/
theorem scan_agrees_users :
    (∃ test ∈ (scan usersModule).tests, test.title = "TestUsers::test_create" ∧
      TestItem.tags ⟨"test_users.py::TestUsers::test_create",
        [[.value (.str "@smoke")], [.value (.set [.str "@USERS"])], [.value (.str "@api")],
          [.value (.str "@crud")]]⟩ = .ok test.tags) ∧
    (∃ e, TagSet.ofMarkerArguments [.value (.str " ")] = .error e) ∧
      (scan blankModule).isExact = false := by
  constructor
  · set site : Site := ⟨["TestUsers", "test_create"],
      [tagsCall [.display 0 .set [.text 0 "@USERS"]], tagsCall [.text 0 "@smoke"]], [usersBody]⟩
      with hsite
    have hdefined : DefinedIn usersModule [1, 1] site := by
      refine ⟨1, [1], _, rfl, rfl, .group (by decide) rfl (.function (by decide))⟩
    obtain ⟨sites, -, hmem, htests⟩ :=
      (scan_agrees usersModule).1 (by decide) usersModule_assignsOnce
    obtain ⟨test, htest, htitle, -, htags⟩ :=
      (exists_mem_of_forall₂ htests).2 ([1, 1], site) ((hmem _ _).2 hdefined)
    have hcalls : (site.marks usersModule).flatMap markerCalls =
        [[.display 0 .set [.text 0 "@USERS"]], [.text 0 "@smoke"], [.text 0 "@api"],
          [.text 0 "@crud"]] := rfl
    have htext {x : String} : List.Forall₂ Denotes [.text 0 x] [.value (.str x)] :=
      .cons .text .nil
    have hset : Denotes (.display 0 .set [.text 0 "@USERS"])
        (.value (.set (["@USERS"].map .str))) :=
      .set (.cons ⟨0, rfl⟩ .nil) fun _ => Iff.rfl
    refine ⟨test, htest, by rw [htitle]; decide, htags _ ⟨_, ?_, .swap _ _ _⟩⟩
    rw [hcalls]
    exact .cons (.cons hset .nil) (.cons htext (.cons htext (.cons htext .nil)))
  · have hlabels : List.Forall₂ Denotes [.text 0 " "] [.value (.str " ")] := .cons .text .nil
    obtain ⟨hstops, -, hinexact⟩ := (scan_agrees blankModule).2 0
      (.attribute 0 (.name 0 "mark") "tags") _ [] _ rfl hlabels
    have hfound : (marks (tagsCall [.text 0 " "])).2 ≠ [] := by decide
    have hmark : IsMarkOf blankModule (tagsCall [.text 0 " "]) :=
      ⟨_, .inr ⟨_, List.mem_singleton_self _, .function (by decide) (List.mem_singleton_self _)⟩,
        .self⟩
    obtain ⟨e, he, -⟩ := hstops.1 hfound
    exact ⟨⟨e, he⟩, hinexact hmark hfound⟩

/-- A module that assigns its marks together with something else. -/
def unpackingModule : Module :=
  [.assign 0 [.display 0 .tuple [.name 0 "pytestmark", .name 0 "timeout"]]
      (.display 0 .tuple [tagsCall [.text 0 "@api"], .other 0 []]),
    .functionDef 0 "test_open" (.other 0 []) [] [] []]

/-- Marks that are assigned together with something else get lost without a report. -/
theorem scan_unpacking :
    (scan unpackingModule).isExact = true ∧
      (scan unpackingModule).tests = [⟨"test_open", .empty⟩] ∧
      TestItem.tagsOf [[.value (.str "@api")]] = .ok (.ofList [⟨"api"⟩]) := by
  decide

end TaggedSuite.Scan
