import AsmAtlas.Proofs.SurvivingCandidates
import AsmAtlas.Request.Usage
import Mathlib.Data.List.Basic

/-!
# Shared scope tables

Reductions that come one after the other can share the scope tables that they make. As long as all
documents are told apart by their paths, a cache holds under a path and a form only the table of the
document at that path, and a reduction gives the same result with it as without. So do the requests
that reduce many lists of candidates in the documents of one workspace.
-/

namespace AsmAtlas

namespace Inquiry

open ScopeCache

variable {ds : Set Document} {cache : ScopeCache} {q : Inquiry} {candidates : List Candidate}

/-- What survives, and the names that are compared, are the same with a true cache as with none. -/
theorem compared_of_trueTo (apart : ds.InjOn Document.path) (isTrue : TrueTo ds cache)
    (isOver : q.IsOver ds candidates) :
    q.compared cache candidates = q.compared [] candidates ∧
      q.comparand cache = q.comparand [] := by
  have fresh := trueTo_nil ds
  cases located : q.origin.occurrence? q.boundary q.position with
  | none =>
    refine ⟨?_, ?_⟩
    · rw [compared_of_none q cache candidates located, compared_of_none q [] candidates located]
    · simp [comparand, subject?, located]
  | some found =>
    refine ⟨?_, ?_⟩
    · rw [compared_eq apart isTrue isOver located, compared_eq apart fresh isOver located]
    · rw [comparand_eq isTrue isOver.origin located, comparand_eq fresh isOver.origin located]

/-- A reduction with a cache that is true to the documents is a reduction without one. -/
theorem reduceWith_of_trueTo (apart : ds.InjOn Document.path) (isTrue : TrueTo ds cache)
    (isOver : q.IsOver ds candidates) :
    (q.reduceWith cache candidates).1 = q.reduce candidates := by
  rw [reduce, reduceWith_fst, reduceWith_fst, (compared_of_trueTo apart isTrue isOver).1]

theorem reduceUniqueWith_of_trueTo (apart : ds.InjOn Document.path) (isTrue : TrueTo ds cache)
    (isOver : q.IsOver ds candidates) :
    (q.reduceUniqueWith cache candidates).1 = q.reduceUnique candidates := by
  obtain ⟨survivors, names⟩ := compared_of_trueTo apart isTrue isOver
  rw [reduceUnique, reduceUniqueWith_fst, reduceUniqueWith_fst, survivors, names]

end Inquiry

/-- One of several reductions: a question, its candidates, and whether only the best is wanted. -/
structure ReductionCall where
  inquiry : Inquiry
  candidates : List Candidate
  unique : Bool

namespace ReductionCall

open ScopeCache

/-- What a reduction gives with a cache, and the cache that it leaves. -/
def run (call : ReductionCall) (cache : ScopeCache) : Reduction × ScopeCache :=
  if call.unique then call.inquiry.reduceUniqueWith cache call.candidates
  else call.inquiry.reduceWith cache call.candidates

/-- What reductions give one after the other, each with the cache that the one before left. -/
def runAll (cache : ScopeCache) : List ReductionCall → List Reduction
  | [] => []
  | call :: calls => (call.run cache).1 :: runAll (call.run cache).2 calls

variable {ds : Set Document} {cache : ScopeCache} {call : ReductionCall}
  {calls : List ReductionCall}

/-- A cache that is true to the documents makes no difference to a reduction, and stays true. -/
theorem run_of_trueTo (apart : ds.InjOn Document.path) (isTrue : TrueTo ds cache)
    (isOver : call.inquiry.IsOver ds call.candidates) :
    (call.run cache).1 = (call.run []).1 ∧ TrueTo ds (call.run cache).2 := by
  have after := Inquiry.trueTo_reduceWith apart isTrue isOver
  have fresh := trueTo_nil ds
  unfold run
  split_ifs
  · rw [Inquiry.reduceUniqueWith_of_trueTo apart isTrue isOver,
      Inquiry.reduceUniqueWith_of_trueTo apart fresh isOver, Inquiry.reduceUniqueWith_snd]
    exact ⟨rfl, after⟩
  · rw [Inquiry.reduceWith_of_trueTo apart isTrue isOver,
      Inquiry.reduceWith_of_trueTo apart fresh isOver]
    exact ⟨rfl, after⟩

theorem runAll_of_trueTo (apart : ds.InjOn Document.path) (isTrue : TrueTo ds cache)
    (isOver : ∀ call ∈ calls, call.inquiry.IsOver ds call.candidates) :
    runAll cache calls = calls.map fun call => (call.run []).1 := by
  induction calls generalizing cache with
  | nil => rfl
  | cons call calls ih =>
    obtain ⟨same, after⟩ := run_of_trueTo apart isTrue (isOver call List.mem_cons_self)
    rw [runAll, List.map_cons, same,
      ih after fun other member => isOver other (List.mem_cons_of_mem call member)]

/-- Over documents that their paths tell apart, reductions that share one cache give what each of
    them gives with a cache of its own, whatever they ask for. -/
theorem shared_cache_is_transparent (apart : ds.InjOn Document.path)
    (isOver : ∀ call ∈ calls, call.inquiry.IsOver ds call.candidates) :
    runAll [] calls = calls.map fun call => (call.run []).1 :=
  runAll_of_trueTo apart (trueTo_nil ds) isOver

/-- A source file with a relative label below another. -/
def sharedSource : Document :=
  ⟨⟨["a.asm".toList]⟩, .source, ["go: nop", ".on: jp .on"].map String.toList⟩

/-- A listing that uses it. -/
def sharedListing : Document :=
  ⟨⟨["b.list".toList]⟩, .listing, ["0000 jp go.on"].map String.toList⟩

/-- The places of the word in both. -/
def sharedCandidates : List Candidate :=
  [⟨⟨sharedSource.path, 1, 1, 3⟩, some sharedSource⟩,
    ⟨⟨sharedSource.path, 1, 9, 11⟩, some sharedSource⟩,
    ⟨⟨sharedListing.path, 0, 11, 13⟩, some sharedListing⟩]

/-- The references from the source, the same without labels, and the definition from the listing. -/
def sharedCalls : List ReductionCall :=
  [⟨{ form := .marked, origin := sharedSource, position := ⟨1, 1⟩ }, sharedCandidates, false⟩,
    ⟨{ form := .absent, origin := sharedSource, position := ⟨1, 1⟩ }, sharedCandidates, false⟩,
    ⟨{ form := .marked, origin := sharedListing, position := ⟨0, 11⟩ }, sharedCandidates, true⟩]

/-- All three read the two files, by two forms of labels. -/
theorem sharedCalls_are_transparent :
    runAll [] sharedCalls =
      [⟨[⟨sharedSource.path, 1, 1, 3⟩, ⟨sharedSource.path, 1, 9, 11⟩,
          ⟨sharedListing.path, 0, 11, 13⟩], []⟩,
        ⟨[⟨sharedSource.path, 1, 1, 3⟩, ⟨sharedSource.path, 1, 9, 11⟩], []⟩,
        ⟨[⟨sharedListing.path, 0, 11, 13⟩], []⟩] := by
  have apart := Document.injOn_path_pair (show sharedSource.path ≠ sharedListing.path by decide)
  have isOver : ∀ call ∈ sharedCalls,
      call.inquiry.IsOver {sharedSource, sharedListing} call.candidates := by
    have among : ∀ c ∈ sharedCandidates, c.IsAmong {sharedSource, sharedListing} := by
      simp [sharedCandidates, Candidate.IsAmong]
    intro call member
    simp only [sharedCalls, List.mem_cons, List.not_mem_nil, or_false] at member
    rcases member with rfl | rfl | rfl
    · exact ⟨Set.mem_insert _ _, among⟩
    · exact ⟨Set.mem_insert _ _, among⟩
    · exact ⟨Set.mem_insert_of_mem _ rfl, among⟩
  rw [shared_cache_is_transparent apart isOver]
  decide +kernel

end ReductionCall

/-- The document is the one that the workspace has at its path. -/
def Workspace.Holds (w : Workspace) (d : Document) : Prop :=
  w.load? d.path = some d

theorem Workspace.path_of_load {w : Workspace} {p : Path} {d : Document}
    (loaded : w.load? p = some d) : d.path = p := by
  obtain ⟨text, _, rfl⟩ := Option.map_eq_some_iff.1 loaded
  rfl

theorem Workspace.holds_of_load {w : Workspace} {p : Path} {d : Document}
    (loaded : w.load? p = some d) : w.Holds d := by
  rw [Workspace.Holds, path_of_load loaded]
  exact loaded

/-- The documents of a workspace are told apart by their paths. -/
theorem Workspace.injOn_holds (w : Workspace) : Set.InjOn Document.path {d | w.Holds d} := by
  intro d held e heldOther samePath
  have loaded : w.load? d.path = some e := by
    rw [samePath]
    exact heldOther
  exact Option.some.inj (held.symm.trans loaded)

/-- A candidate whose document, if it has one, is held by the workspace. -/
def Candidate.IsHeld (w : Workspace) (c : Candidate) : Prop :=
  ∀ d, c.document = some d → w.Holds d

namespace ScopeCache

/-- A cache that holds no other tables of the documents of a workspace than they have. -/
def Faithful (w : Workspace) (cache : ScopeCache) : Prop :=
  ∀ d form table, w.Holds d → cache.lookup (d.path, form) = some table → table = d.scopes form

/-- A cache is faithful if it is true to the documents that the workspace holds. -/
theorem faithful_iff {w : Workspace} {cache : ScopeCache} :
    Faithful w cache ↔ TrueTo {d | w.Holds d} cache :=
  Iff.rfl

theorem faithful_nil (w : Workspace) : Faithful w [] :=
  faithful_iff.2 (trueTo_nil _)

end ScopeCache

namespace Inquiry

open ScopeCache

variable {w : Workspace} {cache : ScopeCache} {q : Inquiry} {candidates : List Candidate}

/-- A reduction with a faithful cache is a reduction without one, and keeps it faithful. -/
theorem reduceWith_of_faithful (faithful : Faithful w cache) (held : w.Holds q.origin)
    (heldAll : ∀ c ∈ candidates, c.IsHeld w) :
    (q.reduceWith cache candidates).1 = q.reduce candidates ∧
      Faithful w (q.reduceWith cache candidates).2 := by
  have isOver : q.IsOver {d | w.Holds d} candidates := ⟨held, heldAll⟩
  have isTrue := faithful_iff.1 faithful
  exact ⟨reduceWith_of_trueTo w.injOn_holds isTrue isOver,
    faithful_iff.2 (trueTo_reduceWith w.injOn_holds isTrue isOver)⟩

end Inquiry

namespace Scene

open ScopeCache

/-- The question for the references to a declared label, its declarations not among them. -/
def countInquiry (c : Config) (d : Document) (decl : LabelDeclaration) : Inquiry :=
  { form := c.labelForm d.dialect
    origin := d
    position := ⟨decl.line, decl.column⟩
    includeDeclaration := false }

/-- A declared label with the number of references that a reduction of its own gives. -/
def countAnew (c : Config) (d : Document) (index : WordIndex) (decl : LabelDeclaration) :
    Option Counted :=
  (d.occurrence? isWordChar ⟨decl.line, decl.column⟩).map fun found =>
    ⟨decl.label, ⟨d.path, decl.line, found.start, found.stop⟩,
      ((countInquiry c d decl).reduce (placesOf index found.word)).locations.length⟩

variable {w : Workspace} {cache : ScopeCache} {d : Document} {index : WordIndex}

theorem isHeld_placesOf (held : ∀ entry ∈ index, entry.2.IsHeld w) (word : Text) :
    ∀ c ∈ placesOf index word, c.IsHeld w := by
  intro c member
  obtain ⟨entry, kept, rfl⟩ := List.mem_map.1 member
  exact held entry (List.mem_filter.1 kept).1

theorem count_of_faithful (c : Config) (faithful : Faithful w cache) (held : w.Holds d)
    (heldAll : ∀ entry ∈ index, entry.2.IsHeld w) (decl : LabelDeclaration) :
    (count c d index cache decl).1 = countAnew c d index decl ∧
      Faithful w (count c d index cache decl).2 := by
  rw [count, countAnew]
  cases d.occurrence? isWordChar ⟨decl.line, decl.column⟩ with
  | none => exact ⟨rfl, faithful⟩
  | some found =>
    have reduced := Inquiry.reduceWith_of_faithful (q := countInquiry c d decl) faithful held
      (isHeld_placesOf heldAll found.word)
    exact ⟨by rw [Option.map_some, ← reduced.1]; rfl, reduced.2⟩

/-- Counting with one cache for all labels counts each of them on its own. -/
theorem countAll_of_faithful (c : Config) (faithful : Faithful w cache) (held : w.Holds d)
    (heldAll : ∀ entry ∈ index, entry.2.IsHeld w) (decls : List LabelDeclaration) :
    (countAll c d index cache decls).1 = decls.filterMap (countAnew c d index) := by
  induction decls generalizing cache with
  | nil => rfl
  | cons decl decls ih =>
    obtain ⟨counted, faithful'⟩ := count_of_faithful c faithful held heldAll decl
    have rest := ih faithful'
    simp only [countAll, counted, rest]
    cases anew : countAnew c d index decl <;> simp [anew]

/-- Counting keeps the cache faithful. -/
theorem faithful_countAll (c : Config) (faithful : Faithful w cache) (held : w.Holds d)
    (heldAll : ∀ entry ∈ index, entry.2.IsHeld w) (decls : List LabelDeclaration) :
    Faithful w (countAll c d index cache decls).2 := by
  induction decls generalizing cache with
  | nil => exact faithful
  | cons decl decls ih => exact ih (count_of_faithful c faithful held heldAll decl).2

end Scene
end AsmAtlas
