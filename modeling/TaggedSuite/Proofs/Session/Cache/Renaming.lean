import TaggedSuite.Proofs.SideBySide
import TaggedSuite.Session.Cache.Run

/-!
# What the cache knows of keys

The cache asks of keys whether they are the same, whose they are and whether anything can be cached
under them. What else there is in a key only shows in the texts that name it. So two caches stay
alike when the same is done to them, the one under certain keys and the other under other keys that
go together with them.
-/
namespace TaggedSuite.Session.Cache

variable {η : Type} {Keys : CacheKey → CacheKey → Prop} {k k' : CacheKey}

/-- Keys that go together answer the questions of the cache alike. -/
structure IsRenaming (Keys : CacheKey → CacheKey → Prop) : Prop where
  same : ∀ {a a' b b'}, Keys a a' → Keys b b' → a'.same b' = a.same b
  isHashable : ∀ {a a'}, Keys a a' → a'.isHashable = a.isHashable
  actor? : ∀ {a a'}, Keys a a' → a'.actor? = a.actor?
  kindName : ∀ {a a'}, Keys a a' → a'.kindName = a.kindName

/-- Texts that are the same but for the keys that are named in them. -/
inductive Renamed (Keys : CacheKey → CacheKey → Prop) : String → String → Prop
  | same (text : String) : Renamed Keys text text
  | key {k k' : CacheKey} (h : Keys k k') : Renamed Keys k.text k'.text
  | append {a a' b b' : String} (ha : Renamed Keys a a') (hb : Renamed Keys b b') :
    Renamed Keys (a ++ b) (a' ++ b')

/-- Without keys that go together the texts are the same. -/
lemma Renamed.eq {a a' : String} (h : Renamed Keys a a') (hnone : ∀ k k', ¬ Keys k k') :
    a' = a := by
  induction h with
  | same text => rfl
  | key h => exact absurd h (hnone _ _)
  | append _ _ iha ihb => rw [iha, ihb]

/-- The same for a line of the log. -/
structure LineAlike (Keys : CacheKey → CacheKey → Prop) (line line' : LogLine) : Prop where
  level : line'.level = line.level
  text : Renamed Keys line.text line'.text

lemma LineAlike.refl (line : LogLine) : LineAlike Keys line line := ⟨rfl, .same _⟩

lemma LineAlike.eq {line line' : LogLine} (h : LineAlike Keys line line')
    (hnone : ∀ k k', ¬ Keys k k') : line' = line := by
  rw [LogLine.mk.injEq]
  exact ⟨h.level, h.text.eq hnone⟩

/-- The same handle under keys that go together. -/
structure EntryAlike (Keys : CacheKey → CacheKey → Prop) (e e' : Entry η) : Prop where
  key : Keys e.key e'.key
  handle : e'.handle = e.handle

/-- The same lock under keys that go together. -/
structure PendingAlike (Keys : CacheKey → CacheKey → Prop) (p p' : Pending) : Prop where
  key : Keys p.key p'.key
  lock : p'.lock = p.lock
  users : p'.users = p.users

/-- What callers get to see is the same but for keys. -/
inductive RaisedAlike (Keys : CacheKey → CacheKey → Prop) : Raised → Raised → Prop
  | same (r : Raised) : RaisedAlike Keys r r
  | keyed {k k' : CacheKey} {message message' : String} {cause? : Option ErrorKind}
      (h : Keys k k') (hmessage : Renamed Keys message message') :
      RaisedAlike Keys (.error ⟨message, some k, cause?⟩) (.error ⟨message', some k', cause?⟩)

/-- What calls end with is the same but for keys. -/
inductive ResultAlike (Keys : CacheKey → CacheKey → Prop) : Result η → Result η → Prop
  | same (r : Result η) : ResultAlike Keys r r
  | raised {r r' : Raised} (h : RaisedAlike Keys r r') : ResultAlike Keys (.raised r) (.raised r')
  | found {e? e'? : Option (Entry η)} (h : Option.Rel (EntryAlike Keys) e? e'?) :
      ResultAlike Keys (.found e?) (.found e'?)

inductive EvictionAlike (Keys : CacheKey → CacheKey → Prop) : Eviction → Eviction → Prop
  | same (why : Eviction) : EvictionAlike Keys why why
  | key {k k' : CacheKey} (h : Keys k k') : EvictionAlike Keys (.key k) (.key k')

/-- Calls have come as far as each other, for keys that go together. -/
inductive PhaseAlike (Keys : CacheKey → CacheKey → Prop) : Phase η → Phase η → Prop
  | waiting {k k' : CacheKey} (h : Keys k k') (lock : Nat) :
      PhaseAlike Keys (.waiting k lock) (.waiting k' lock)
  | holding {k k' : CacheKey} (h : Keys k k') (lock : Nat) :
      PhaseAlike Keys (.holding k lock) (.holding k' lock)
  | missed {k k' : CacheKey} (h : Keys k k') (lock : Nat) :
      PhaseAlike Keys (.missed k lock) (.missed k' lock)
  | creating {k k' : CacheKey} (h : Keys k k') (lock : Nat) :
      PhaseAlike Keys (.creating k lock) (.creating k' lock)
  | created {k k' : CacheKey} (h : Keys k k') (lock : Nat) (handle : η) :
      PhaseAlike Keys (.created k lock handle) (.created k' lock handle)
  | failed {k k' : CacheKey} (h : Keys k k') (lock : Nat) (f : Fault) :
      PhaseAlike Keys (.failed k lock f) (.failed k' lock f)
  | unlocking {k k' : CacheKey} {r r' : Result η} (h : Keys k k') (lock : Nat)
      (hr : ResultAlike Keys r r') : PhaseAlike Keys (.unlocking k lock r) (.unlocking k' lock r')
  | leaving {k k' : CacheKey} {r r' : Result η} (h : Keys k k') (lock : Nat)
      (hr : ResultAlike Keys r r') : PhaseAlike Keys (.leaving k lock r) (.leaving k' lock r')
  | releasing {rest rest' : List (Entry η)} {why why' : Eviction}
      (h : List.Forall₂ (EntryAlike Keys) rest rest') (hwhy : EvictionAlike Keys why why') :
      PhaseAlike Keys (.releasing rest why) (.releasing rest' why')
  | done {r r' : Result η} (hr : ResultAlike Keys r r') : PhaseAlike Keys (.done r) (.done r')

namespace State

/-- The caches are the same but for keys. -/
structure Alike (Keys : CacheKey → CacheKey → Prop) (s s' : State η) : Prop where
  entries : List.Forall₂ (EntryAlike Keys) s.entries s'.entries
  pending : List.Forall₂ (PendingAlike Keys) s.pending s'.pending
  stats : s'.stats = s.stats
  held : s'.held = s.held
  lockCount : s'.lockCount = s.lockCount
  calls : List.Forall₂ (PhaseAlike Keys) s.calls s'.calls
  closed : s'.closed = s.closed
  log : List.Forall₂ (LineAlike Keys) s.log s'.log

namespace Alike

variable {s s' : State η}

lemma empty : Alike Keys (.empty : State η) .empty :=
  ⟨.nil, .nil, rfl, rfl, rfl, .nil, rfl, .nil⟩

lemma entry? (h : Alike Keys s s') (hkeys : IsRenaming Keys) (hk : Keys k k') :
    Option.Rel (EntryAlike Keys) (s.entry? k) (s'.entry? k') :=
  rel_find? (fun _ _ he => hkeys.same he.key hk) h.entries

lemma pending? (h : Alike Keys s s') (hkeys : IsRenaming Keys) (hk : Keys k k') :
    Option.Rel (PendingAlike Keys) (s.pending? k) (s'.pending? k') :=
  rel_find? (fun _ _ hp => hkeys.same hp.key hk) h.pending

/-- How far a call has come in the two caches. -/
lemma call? (h : Alike Keys s s') (call : Nat) :
    Option.Rel (PhaseAlike Keys) s.calls[call]? s'.calls[call]? :=
  rel_getElem? h.calls call

/-! ### What steps are made of -/

lemma withLog {lines lines' : List LogLine} (h : Alike Keys s s')
    (hlines : List.Forall₂ (LineAlike Keys) lines lines') :
    Alike Keys { s with log := s.log ++ lines } { s' with log := s'.log ++ lines' } :=
  { h with log := List.rel_append h.log hlines }

lemma say {line line' : LogLine} (h : Alike Keys s s') (hline : LineAlike Keys line line') :
    Alike Keys (s.say line) (s'.say line') :=
  h.withLog (.cons hline .nil)

lemma foldl_say (h : Alike Keys s s') (lines : List LogLine) :
    Alike Keys (lines.foldl State.say s) (lines.foldl State.say s') := by
  induction lines generalizing s s' with
  | nil => exact h
  | cons line lines ih => exact ih (h.say (.refl line))

lemma join {p p' : Phase η} (h : Alike Keys s s') (hp : PhaseAlike Keys p p') :
    Alike Keys (s.join p) (s'.join p') :=
  { h with calls := List.rel_append h.calls (.cons hp .nil) }

lemma move {p p' : Phase η} (h : Alike Keys s s') (call : Nat) (hp : PhaseAlike Keys p p') :
    Alike Keys (s.move call p) (s'.move call p') :=
  { h with calls := rel_set h.calls call hp }

lemma withStats (h : Alike Keys s s') (f : Stats → Stats) :
    Alike Keys { s with stats := f s.stats } { s' with stats := f s'.stats } :=
  { h with stats := congrArg f h.stats }

lemma countHit (h : Alike Keys s s') : Alike Keys s.countHit s'.countHit :=
  h.withStats fun stats => { stats with hits := stats.hits + 1 }

lemma countMiss (h : Alike Keys s s') : Alike Keys s.countMiss s'.countMiss :=
  h.withStats fun stats => { stats with misses := stats.misses + 1 }

lemma countFailure (h : Alike Keys s s') : Alike Keys s.countFailure s'.countFailure :=
  h.withStats fun stats => { stats with failures := stats.failures + 1 }

lemma withHeld (h : Alike Keys s s') (f : List Nat → List Nat) :
    Alike Keys { s with held := f s.held } { s' with held := f s'.held } :=
  { h with held := congrArg f h.held }

lemma store {e e' : Entry η} (h : Alike Keys s s') (hkeys : IsRenaming Keys)
    (he : EntryAlike Keys e e') : Alike Keys (s.store e) (s'.store e') := by
  have hfound := h.entry? hkeys he.key
  refine { h with entries := ?_, stats := ?_ }
  · show List.Forall₂ _ (if (s.entry? e.key).isSome then _ else _)
      (if (s'.entry? e'.key).isSome then _ else _)
    generalize s.entry? e.key = found at hfound
    generalize s'.entry? e'.key = found' at hfound
    cases hfound with
    | none => exact List.rel_append h.entries (.cons he .nil)
    | some _ =>
      refine List.rel_map ?_ h.entries
      intro old old' hold
      dsimp only
      rw [hkeys.same hold.key he.key]
      split_ifs
      · exact he
      · exact hold
  · exact congrArg (fun stats : Stats => { stats with creations := stats.creations + 1 }) h.stats

lemma register (h : Alike Keys s s') (hkeys : IsRenaming Keys) (hk : Keys k k') :
    Alike Keys (s.register k).1 (s'.register k').1 ∧ (s'.register k').2 = (s.register k).2 := by
  have hfound := h.pending? hkeys hk
  rw [State.register, State.register]
  generalize s.pending? k = found at hfound
  generalize s'.pending? k' = found' at hfound
  cases hfound with
  | none =>
    rw [h.lockCount]
    refine ⟨{ h with pending := ?_, lockCount := rfl }, rfl⟩
    exact List.rel_append h.pending (.cons ⟨hk, rfl, rfl⟩ .nil)
  | @some p p' hp =>
    refine ⟨{ h with pending := ?_ }, hp.lock⟩
    refine List.rel_map ?_ h.pending
    intro q q' hq
    dsimp only
    rw [hq.lock, hp.lock]
    split_ifs
    · exact ⟨hq.key, rfl, congrArg (· + 1) hq.users⟩
    · exact hq

lemma deregister (h : Alike Keys s s') (lock : Nat) :
    Alike Keys (s.deregister lock) (s'.deregister lock) := by
  refine { h with pending := List.rel_filterMap (P := PendingAlike Keys) ?_ h.pending }
  intro q q' hq
  dsimp only
  rw [hq.lock, hq.users]
  split_ifs
  · exact .some hq
  · exact .none
  · exact .some ⟨hq.key, rfl, rfl⟩

lemma filter {p : Entry η → Bool} (h : Alike Keys s s')
    (hp : ∀ e e', EntryAlike Keys e e' → p e' = p e) :
    List.Forall₂ (EntryAlike Keys) (s.entries.filter p) (s'.entries.filter p) :=
  List.rel_filter (fun e e' he => (congrArg (· = true) (hp e e' he).symm).to_iff) h.entries

lemma release [Closable η] {e e' : Entry η} (h : Alike Keys s s') (he : EntryAlike Keys e e') :
    Alike Keys (s.release e) (s'.release e') := by
  rw [State.release, State.release, he.handle]
  cases Closable.closing e.handle with
  | absent => exact h
  | succeeds => exact { h with closed := congrArg (· ++ _) h.closed }
  | fails message =>
    refine say { h with closed := congrArg (· ++ _) h.closed } ⟨rfl, ?_⟩
    exact .append (.append (.append (.same _) (.key he.key)) (.same _)) (.same _)

lemma evictionLog {why why' : Eviction} (h : Alike Keys s s') (hwhy : EvictionAlike Keys why why') :
    List.Forall₂ (LineAlike Keys) (s.evictionLog why) (s'.evictionLog why') := by
  cases hwhy with
  | same why =>
    have hsame : s'.evictionLog why = s.evictionLog why := by
      unfold State.evictionLog
      rw [h.stats]
    rw [hsame]
    exact List.forall₂_same.2 fun line _ => .refl line
  | key hk => exact .cons ⟨rfl, .append (.same _) (.key hk)⟩ .nil

/-! ### Steps -/

lemma evictionResult {why why' : Eviction} (hwhy : EvictionAlike Keys why why') :
    ResultAlike Keys (State.evictionResult why : Result η) (State.evictionResult why') := by
  cases hwhy <;> exact .same _

lemma raised (hk : Keys k k') (f : Fault) : RaisedAlike Keys (f.raised k) (f.raised k') := by
  cases f with
  | refused e =>
    obtain ⟨message, key?, cause?⟩ := e
    cases key? with
    | none => exact .keyed hk (.same _)
    | some key => exact .same _
  | failed kind message =>
    exact .keyed hk (.append (.append (.append (.same _) (.key hk)) (.same _)) (.same _))
  | interrupted kind message => exact .same _

/-- A call goes on in both caches, or in none of them. -/
lemma advance [Closable η] (h : Alike Keys s s') (hkeys : IsRenaming Keys) (call : Nat) :
    Option.Rel (Alike Keys) (s.advance call) (s'.advance call) := by
  have hcall := h.call? call
  rw [State.advance, State.advance]
  generalize s.calls[call]? = p? at hcall
  generalize s'.calls[call]? = p'? at hcall
  cases hcall with
  | none => exact .none
  | some hp =>
    cases hp with
    | waiting hk lock =>
      simp only [Option.bind_eq_bind, Option.bind_some]
      have hfree : lock ∈ s'.held ↔ lock ∈ s.held := by rw [h.held]
      simp only [hfree]
      split_ifs
      · exact .none
      · exact .some ((h.withHeld (lock :: ·)).move call (.holding hk lock))
    | @holding k k' hk lock =>
      have hfound := h.entry? hkeys hk
      simp only [Option.bind_eq_bind, Option.bind_some]
      generalize s.entry? k = found at hfound
      generalize s'.entry? k' = found' at hfound
      cases hfound with
      | none => exact .some (h.countMiss.move call (.missed hk lock))
      | some he =>
        refine .some (h.countHit.move call (.unlocking hk lock ?_))
        rw [he.handle]
        exact .same _
    | missed hk lock =>
      refine .some (move (say h ?_) call (.creating hk lock))
      exact ⟨rfl, .append (.same _) (.key hk)⟩
    | creating hk lock => exact .none
    | @created k k' hk lock handle =>
      have he : EntryAlike Keys ⟨k, handle⟩ ⟨k', handle⟩ := ⟨hk, rfl⟩
      refine .some (move (say (h.store hkeys he) ?_) call (.unlocking hk lock (.same _)))
      refine ⟨rfl, ?_⟩
      exact .append (.append (.append (.append (.same _) (.key hk)) (.same _)) (.same _)) (.same _)
    | failed hk lock f =>
      refine .some (move (say h.countFailure ?_) call (.unlocking hk lock (.raised (raised hk f))))
      exact ⟨rfl, .append (.append (.append (.same _) (.key hk)) (.same _)) (.same _)⟩
    | unlocking hk lock hr =>
      exact .some ((h.withHeld (List.erase · lock)).move call (.leaving hk lock hr))
    | leaving hk lock hr => exact .some ((h.deregister lock).move call (.done hr))
    | releasing hrest hwhy =>
      cases hrest with
      | nil =>
        exact .some ((h.withLog (h.evictionLog hwhy)).move call (.done (evictionResult hwhy)))
      | cons he hrest => exact .some ((h.release he).move call (.releasing hrest hwhy))
    | done hr => exact .none

/-- A creation ends in both caches, or in none of them. -/
lemma finish (h : Alike Keys s s') (call : Nat) (outcome : Outcome η) :
    Option.Rel (Alike Keys) (s.finish call outcome) (s'.finish call outcome) := by
  have hcall := h.call? call
  rw [State.finish, State.finish]
  generalize s.calls[call]? = p? at hcall
  generalize s'.calls[call]? = p'? at hcall
  cases hcall with
  | none => exact .none
  | some hp =>
    cases hp with
    | creating hk lock =>
      simp only [Option.bind_eq_bind, Option.bind_some]
      cases outcome with
      | ok handle => exact .some (h.move call (.created hk lock handle))
      | error f =>
        dsimp only
        split_ifs
        · exact .some (h.move call (.failed hk lock f))
        · exact .some (h.move call (.unlocking hk lock (.raised (raised hk f))))
    | _ => exact .none

/-- A call to get or to create a session begins. -/
lemma start_getOrCreate (h : Alike Keys s s') (hkeys : IsRenaming Keys) (hk : Keys k k') :
    Alike Keys (s.start (.getOrCreate k)) (s'.start (.getOrCreate k')) := by
  rw [State.start, State.start, hkeys.isHashable hk]
  split_ifs
  · rw [State.startCreation, State.startCreation]
    have hfound := h.entry? hkeys hk
    generalize s.entry? k = found at hfound
    generalize s'.entry? k' = found' at hfound
    cases hfound with
    | none =>
      obtain ⟨hregistered, hlock⟩ := h.register hkeys hk
      dsimp only
      rw [hlock]
      exact hregistered.join (.waiting hk _)
    | some he =>
      refine join (say h.countHit ?_) (.done ?_)
      · exact ⟨rfl, .append (.same _) (.key hk)⟩
      · rw [he.handle]
        exact .same _
  · refine h.join (.done ?_)
    rw [hkeys.kindName hk]
    exact .same _

/-- The same call that evicts entries begins. -/
lemma start_invalidateActor (h : Alike Keys s s') (hkeys : IsRenaming Keys) (actor : String) :
    Alike Keys (s.start (.invalidateActor actor)) (s'.start (.invalidateActor actor)) := by
  rw [State.start, State.start, State.startActorInvalidation, State.startActorInvalidation]
  have hfound : Option.Rel (EntryAlike Keys) (s.entries.find? fun e => e.key.actor?.isNone)
      (s'.entries.find? fun e => e.key.actor?.isNone) :=
    rel_find? (fun e e' he => by rw [hkeys.actor? he.key]) h.entries
  generalize (s.entries.find? fun e => e.key.actor?.isNone) = found at hfound
  generalize (s'.entries.find? fun e => e.key.actor?.isNone) = found' at hfound
  cases hfound with
  | some he =>
    refine h.join (.done ?_)
    rw [hkeys.kindName he.key]
    exact .same _
  | none =>
    have hgone := h.filter (p := fun e => e.key.actor? == some actor) fun e e' he => by
      rw [hkeys.actor? he.key]
    have hkept := h.filter (p := fun e => !(e.key.actor? == some actor)) fun e e' he => by
      rw [hkeys.actor? he.key]
    refine join { h with entries := hkept } ?_
    rw [hgone.length_eq]
    exact .releasing hgone (.same _)

lemma start_clear (h : Alike Keys s s') :
    Alike Keys (s.start .clear) (s'.start .clear) := by
  rw [State.start, State.start, h.entries.length_eq]
  exact join { h with entries := .nil } (.releasing h.entries (.same _))

/-! ### Whole calls -/

section
variable [Closable η]

lemma advanceUpTo (h : Alike Keys s s') (hkeys : IsRenaming Keys) (call n : Nat) :
    Alike Keys (s.advanceUpTo call n) (s'.advanceUpTo call n) := by
  induction n generalizing s s' with
  | zero => exact h
  | succ n ih =>
    have hstep := h.advance hkeys call
    rw [State.advanceUpTo, State.advanceUpTo]
    generalize s.advance call = t? at hstep
    generalize s'.advance call = t'? at hstep
    cases hstep with
    | none => exact h
    | some ht => exact ih ht

omit [Closable η] in
lemma stepsLeft {p p' : Phase η} (h : PhaseAlike Keys p p') : p'.stepsLeft = p.stepsLeft := by
  cases h with
  | releasing hrest _ => simp only [Phase.stepsLeft, hrest.length_eq]
  | _ => rfl

lemma settle (h : Alike Keys s s') (hkeys : IsRenaming Keys) (call : Nat) :
    Alike Keys (s.settle call) (s'.settle call) := by
  have hcall := h.call? call
  rw [State.settle, State.settle]
  generalize s.calls[call]? = p? at hcall
  generalize s'.calls[call]? = p'? at hcall
  cases hcall with
  | none => exact h
  | some hp =>
    dsimp only
    rw [stepsLeft hp]
    exact h.advanceUpTo hkeys call _

omit [Closable η] in
lemma result? (h : Alike Keys s s') (call : Nat) :
    Option.Rel (ResultAlike Keys) (s.result? call) (s'.result? call) := by
  have hcall := h.call? call
  rw [State.result?, State.result?]
  generalize s.calls[call]? = p? at hcall
  generalize s'.calls[call]? = p'? at hcall
  cases hcall with
  | none => exact .none
  | some hp =>
    cases hp with
    | done hr => exact .some hr
    | _ => exact .none

omit [Closable η] in
lemma isCreating (h : Alike Keys s s') (call : Nat) :
    s'.isCreating call = s.isCreating call := by
  have hcall := h.call? call
  rw [State.isCreating, State.isCreating]
  generalize s.calls[call]? = p? at hcall
  generalize s'.calls[call]? = p'? at hcall
  cases hcall with
  | none => rfl
  | some hp => cases hp <;> rfl

/-- A call runs that begins alike in both caches and creates nothing. -/
lemma request {r r' : Request} (h : Alike Keys s s') (hkeys : IsRenaming Keys)
    (hstart : Alike Keys (s.start r) (s'.start r')) :
    Alike Keys (s.request r).1 (s'.request r').1 ∧
      Option.Rel (ResultAlike Keys) (s.request r).2 (s'.request r').2 := by
  rw [State.request, State.request, ← h.calls.length_eq]
  have hsettled := hstart.settle hkeys s.calls.length
  exact ⟨hsettled, hsettled.result? _⟩

/-- A session is got or created. The creations leave alike what they find alike, and end in the same
way. -/
lemma getOrCreate {α : Type} {Left : α → α → Prop} (h : Alike Keys s s') (hkeys : IsRenaming Keys)
    (hk : Keys k k') {create create' : State η → State η × Outcome η × α}
    (hcreate : ∀ t t', Alike Keys t t' → Alike Keys (create t).1 (create' t').1 ∧
      (create' t').2.1 = (create t).2.1 ∧ Left (create t).2.2 (create' t').2.2) :
    Alike Keys (s.getOrCreate k create).1 (s'.getOrCreate k' create').1 ∧
      Option.Rel (ResultAlike Keys) (s.getOrCreate k create).2.1 (s'.getOrCreate k' create').2.1 ∧
      Option.Rel Left (s.getOrCreate k create).2.2 (s'.getOrCreate k' create').2.2 := by
  have hbegun := (h.start_getOrCreate hkeys hk).settle hkeys s.calls.length
  rw [State.getOrCreate, State.getOrCreate, ← h.calls.length_eq]
  dsimp only
  rw [hbegun.isCreating]
  split_ifs
  · obtain ⟨hleft, houtcome, hvalues⟩ := hcreate _ _ hbegun
    rw [houtcome]
    have hended (outcome : Outcome η) :=
      settle (rel_getD (hleft.finish s.calls.length outcome) hleft) hkeys s.calls.length
    exact ⟨hended _, (hended _).result? _, .some hvalues⟩
  · exact ⟨hbegun, hbegun.result? _, .none⟩

end

end Alike

end State

end TaggedSuite.Session.Cache
