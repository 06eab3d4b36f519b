import AsmAtlas.Proofs.TaskResults
import AsmAtlas.Reference.Reduction
import Mathlib.Data.Set.Function

/-!
# The candidates that survive

A reduction goes through its candidates once, and carries along the places that it kept and the
scope tables that it made. Over documents that their paths tell apart this comes to a filter: a
candidate survives by what it is and where it stands, whatever was looked at before it, and of the
survivors that start at one place the first is kept. Where two documents have one path, the scope
table of the first that is looked at stands for both.
-/

namespace AsmAtlas

namespace ScopeCache

/-- A cache that has no other tables of the given documents than they have. -/
def TrueTo (ds : Set Document) (cache : ScopeCache) : Prop :=
  ∀ d form table, d ∈ ds → cache.lookup (d.path, form) = some table → table = d.scopes form

theorem trueTo_nil (ds : Set Document) : TrueTo ds [] := by
  intro d form table _ found
  simp at found

variable {ds : Set Document} {cache : ScopeCache} {d : Document}

theorem TrueTo.get_fst (isTrue : TrueTo ds cache) (isIn : d ∈ ds) (form : LabelForm) :
    (cache.get d form).1 = d.scopes form := by
  rw [get]
  cases found : cache.lookup (d.path, form) with
  | none => rfl
  | some table => exact isTrue d form table isIn found

/-- Whatever is put into the cache is the table of the one document at its path. -/
theorem TrueTo.get_snd (apart : ds.InjOn Document.path) (isTrue : TrueTo ds cache) (isIn : d ∈ ds)
    (form : LabelForm) : TrueTo ds (cache.get d form).2 := by
  rw [get]
  cases found : cache.lookup (d.path, form) with
  | some table => exact isTrue
  | none =>
    intro e form' table isInOther foundOther
    by_cases same : (e.path, form') = (d.path, form)
    · obtain ⟨samePath, rfl⟩ := Prod.mk.inj same
      obtain rfl : e = d := apart isInOther isIn samePath
      simpa using foundOther.symm
    · rw [List.lookup_cons, beq_eq_false_iff_ne.2 same] at foundOther
      exact isTrue e form' table isInOther foundOther

end ScopeCache

/-- Two documents at different paths are told apart by them. -/
theorem Document.injOn_path_pair {d e : Document} (differ : d.path ≠ e.path) :
    ({d, e} : Set Document).InjOn path := by
  rw [Set.injOn_pair]
  exact fun same => absurd same differ

theorem Document.getElem_of_lineAt {d : Document} {n : Int} {line : Text}
    (isLine : d.lineAt? n = some line) : d.lines[n.toNat]? = some line := by
  rw [lineAt?] at isLine
  split_ifs at isLine
  exact isLine

/-- The names of a label on a line of a document in which labels have the given form. -/
def Document.names (d : Document) (form : LabelForm) (line : Nat) (label : Text) : Qualified :=
  Qualified.of (Inquiry.scopeAt (d.scopes form) line) label

namespace Candidate

/-- A candidate whose document, if it has one, is among the given ones. -/
def IsAmong (ds : Set Document) (c : Candidate) : Prop :=
  ∀ d, c.document = some d → d ∈ ds

/-- The label that ends with a candidate in a document. -/
def labelIn (c : Candidate) (d : Document) : Text :=
  Inquiry.labelAt (d.line c.location.line) c.location

/-- The names of that label. -/
def namesIn (c : Candidate) (d : Document) (form : LabelForm) : Qualified :=
  d.names form c.location.line (c.labelIn d)

/-- A candidate as a survivor: its location and the names of its label. -/
def named (form : LabelForm) (c : Candidate) : Option (Location × Qualified) :=
  c.document.map fun d => (c.location, c.namesIn d form)

/-- Whether two candidates start at the same place. -/
def samePlace (a b : Candidate) : Bool :=
  Inquiry.sameStart a.location b.location

end Candidate

namespace Inquiry

open ScopeCache

theorem sameStart_iff {a b : Location} :
    sameStart a b ↔ a.path = b.path ∧ a.line = b.line ∧ a.start = b.start := by
  simp [sameStart, and_assoc]

theorem sameStart_comm (a b : Location) : sameStart a b = sameStart b a := by
  rw [Bool.eq_iff_iff, sameStart_iff, sameStart_iff]
  constructor <;> rintro ⟨path, line, start⟩ <;> exact ⟨path.symm, line.symm, start.symm⟩

/-- Whether a candidate is kept next to the given names, when its place is new. -/
def accepts (q : Inquiry) (found : Occurrence) (name : Qualified) (c : Candidate) : Bool :=
  c.document.any fun d =>
    q.admits found (d.line c.location.line) c.location && (c.namesIn d q.form).meets name

/-- The candidates that are accepted at new places, of each place the first. -/
def newcomers (q : Inquiry) (found : Occurrence) (name : Qualified)
    (kept : List (Location × Qualified)) (candidates : List Candidate) : List Candidate :=
  (candidates.filter fun c =>
    q.accepts found name c && !kept.any fun k => sameStart k.1 c.location).eraseDupsBy
      Candidate.samePlace

variable {q : Inquiry} {ds : Set Document} {cache : ScopeCache} {found : Occurrence}
  {name : Qualified} {kept : List (Location × Qualified)} {c : Candidate}
  {candidates : List Candidate}

theorem newcomers_cons_of_known (known : kept.any fun k => sameStart k.1 c.location) :
    q.newcomers found name kept (c :: candidates) = q.newcomers found name kept candidates := by
  rw [newcomers, List.filter_cons_of_neg (by simp [known])]
  rfl

theorem newcomers_cons_of_not_accepts (refused : q.accepts found name c = false) :
    q.newcomers found name kept (c :: candidates) = q.newcomers found name kept candidates := by
  rw [newcomers, List.filter_cons_of_neg (by simp [refused])]
  rfl

/-- Behind a candidate that is accepted its place is no longer new. -/
theorem newcomers_cons_of_accepts (accepted : q.accepts found name c)
    (new : kept.any (fun k => sameStart k.1 c.location) = false) (names : Qualified) :
    q.newcomers found name kept (c :: candidates) =
      c :: q.newcomers found name ((c.location, names) :: kept) candidates := by
  rw [newcomers, List.filter_cons_of_pos (by simp [accepted, new]), List.eraseDupsBy_cons,
    List.filter_filter, newcomers]
  refine congrArg (fun rest => c :: List.eraseDupsBy Candidate.samePlace rest) ?_
  refine List.filter_congr fun other _ => ?_
  simp only [Candidate.samePlace, sameStart_comm other.location, List.any_cons, Bool.not_or]
  cases sameStart c.location other.location <;> simp

/-- One candidate in a document that the cache is true to. -/
theorem survivors_cons {d : Document} (isTrue : TrueTo ds cache) (document : c.document = some d)
    (isIn : d ∈ ds) :
    q.survivors found name kept cache (c :: candidates) =
      if kept.any (fun k => sameStart k.1 c.location) ||
          !q.admits found (d.line c.location.line) c.location then
        q.survivors found name kept cache candidates
      else if (c.namesIn d q.form).meets name then
        q.survivors found name ((c.location, c.namesIn d q.form) :: kept) (cache.get d q.form).2
          candidates
      else q.survivors found name kept (cache.get d q.form).2 candidates := by
  simp only [survivors, document, isTrue.get_fst isIn]
  rfl

/-- The loop over the candidates: those that are accepted at new places follow the ones that were
    kept before, and the cache stays true to the documents. -/
theorem survivors_eq (apart : ds.InjOn Document.path) (isTrue : TrueTo ds cache)
    (among : ∀ c ∈ candidates, c.IsAmong ds) (found : Occurrence) (name : Qualified)
    (kept : List (Location × Qualified)) :
    (q.survivors found name kept cache candidates).1 =
        kept.reverse ++
          (q.newcomers found name kept candidates).filterMap (Candidate.named q.form) ∧
      TrueTo ds (q.survivors found name kept cache candidates).2 := by
  induction candidates generalizing kept cache with
  | nil => exact ⟨(List.append_nil _).symm, isTrue⟩
  | cons c candidates ih =>
    have amongRest : ∀ c ∈ candidates, c.IsAmong ds := fun other member =>
      among other (List.mem_cons_of_mem c member)
    cases document : c.document with
    | none =>
      have refused : q.accepts found name c = false := by simp [accepts, document]
      rw [survivors, document, newcomers_cons_of_not_accepts refused]
      exact ih isTrue amongRest kept
    | some d =>
      have isIn : d ∈ ds := among c List.mem_cons_self d document
      have isTrueNext := isTrue.get_snd apart isIn q.form
      have isAccepted : q.accepts found name c =
          (q.admits found (d.line c.location.line) c.location &&
            (c.namesIn d q.form).meets name) := by
        rw [accepts, document, Option.any_some]
      rw [survivors_cons isTrue document isIn]
      split_ifs with dropped meets
      · have unchanged : q.newcomers found name kept (c :: candidates) =
            q.newcomers found name kept candidates := by
          rcases Bool.or_eq_true_iff.1 dropped with known | refused
          · exact newcomers_cons_of_known known
          · have inadmissible : q.admits found (d.line c.location.line) c.location = false := by
              simpa using refused
            exact newcomers_cons_of_not_accepts (by rw [isAccepted, inadmissible, Bool.false_and])
        rw [unchanged]
        exact ih isTrue amongRest kept
      · obtain ⟨new, admitted⟩ := Bool.or_eq_false_iff.1 (eq_false_of_ne_true dropped)
        have accepted : q.accepts found name c := by
          rw [isAccepted, meets, Bool.and_true]
          simpa using admitted
        have isNamed : c.named q.form = some (c.location, c.namesIn d q.form) := by
          rw [Candidate.named, document, Option.map_some]
        obtain ⟨later, isTrueAfter⟩ :=
          ih isTrueNext amongRest ((c.location, c.namesIn d q.form) :: kept)
        refine ⟨?_, isTrueAfter⟩
        rw [later, newcomers_cons_of_accepts accepted new (c.namesIn d q.form),
          List.filterMap_cons_some isNamed, List.reverse_cons, List.append_assoc,
          List.singleton_append]
      · have refused : q.accepts found name c = false := by
          rw [isAccepted, eq_false_of_ne_true meets, Bool.and_false]
        rw [newcomers_cons_of_not_accepts refused]
        exact ih isTrueNext amongRest kept

/-! What a question asks of a candidate. -/

/-- The survivors of a reduction with the names that they are compared by. -/
def compared (q : Inquiry) (cache : ScopeCache) (candidates : List Candidate) :
    List (Location × Qualified) :=
  match q.subject? cache with
  | none => []
  | some (found, name, cache) => (q.survivors found name [] cache candidates).1

/-- The names of the label under the cursor that survivors are compared with. -/
def comparand (q : Inquiry) (cache : ScopeCache) : Qualified :=
  ((q.subject? cache).map fun subject => subject.2.1).getD ⟨[], []⟩

theorem reduceWith_fst (q : Inquiry) (cache : ScopeCache) (candidates : List Candidate) :
    (q.reduceWith cache candidates).1 = ⟨(q.compared cache candidates).map (·.1), []⟩ := by
  rw [reduceWith, compared]
  cases q.subject? cache <;> rfl

theorem reduceUniqueWith_fst (q : Inquiry) (cache : ScopeCache) (candidates : List Candidate) :
    (q.reduceUniqueWith cache candidates).1 =
      q.choose (q.comparand cache) (q.compared cache candidates) := by
  rw [reduceUniqueWith, compared, comparand]
  cases q.subject? cache <;> rfl

theorem reduceUniqueWith_snd (q : Inquiry) (cache : ScopeCache) (candidates : List Candidate) :
    (q.reduceUniqueWith cache candidates).2 = (q.reduceWith cache candidates).2 := by
  rw [reduceUniqueWith, reduceWith]
  cases q.subject? cache <;> rfl

/-- A question, with its candidates, about a set of documents. -/
structure IsOver (q : Inquiry) (ds : Set Document) (candidates : List Candidate) : Prop where
  origin : q.origin ∈ ds
  among : ∀ c ∈ candidates, c.IsAmong ds

theorem IsOver.mono {q : Inquiry} {ds : Set Document} {candidates others : List Candidate}
    (isOver : q.IsOver ds candidates) (subset : others ⊆ candidates) : q.IsOver ds others :=
  ⟨isOver.origin, fun c member => isOver.among c (subset member)⟩

/-- The names of the label found under the cursor. -/
def names (q : Inquiry) (found : Occurrence) : Qualified :=
  q.origin.names q.form q.position.line.toNat found.label

end Inquiry

/-- The names as a list. -/
def Qualified.toList (a : Qualified) : List Text :=
  [a.plain, a.full]

theorem Qualified.meets_iff {a b : Qualified} :
    a.meets b ↔ ∃ name ∈ a.toList, name ∈ b.toList := by
  simp [meets, toList, or_assoc]

namespace Inquiry

open ScopeCache

/-- A candidate that refers to the label found under the cursor: it has a document, where no
    boundary character touches it; unless declarations are included, it is neither where the cursor
    is nor a declaration; and its label has a name in common with the one under the cursor. -/
def Survives (q : Inquiry) (found : Occurrence) (c : Candidate) : Prop :=
  ∃ d, c.document = some d ∧
    ¬isTouched q.boundary (d.line c.location.line) c.location.start c.location.stop ∧
    (q.includeDeclaration = false →
      ¬q.isOrigin found c.location ∧
        ¬isDeclaration q.form (d.line c.location.line) c.location.start c.location.stop) ∧
    ∃ name ∈ (c.namesIn d q.form).toList, name ∈ (q.names found).toList

theorem accepts_iff {q : Inquiry} {found : Occurrence} {c : Candidate} :
    q.accepts found (q.names found) c ↔ q.Survives found c := by
  rw [accepts, Option.any_eq_true, Survives]
  refine exists_congr fun d => and_congr_right fun _ => ?_
  rw [Bool.and_eq_true, Qualified.meets_iff, admits, Bool.and_eq_true, and_assoc]
  cases q.includeDeclaration <;> simp

instance (q : Inquiry) (found : Occurrence) : DecidablePred (q.Survives found) := fun _ =>
  decidable_of_iff _ accepts_iff

/-- The candidates that survive, of each place the first. -/
def firstSurvivors (q : Inquiry) (found : Occurrence) (candidates : List Candidate) :
    List Candidate :=
  (candidates.filter fun c => q.Survives found c).eraseDupsBy Candidate.samePlace

variable {q : Inquiry} {ds : Set Document} {cache : ScopeCache} {found : Occurrence}
  {candidates : List Candidate}

theorem newcomers_nil :
    q.newcomers found (q.names found) [] candidates = q.firstSurvivors found candidates := by
  rw [newcomers, firstSurvivors]
  refine congrArg (List.eraseDupsBy Candidate.samePlace) (List.filter_congr fun c _ => ?_)
  rw [Bool.eq_iff_iff]
  simp [accepts_iff]

theorem survives_of_mem {c : Candidate} (member : c ∈ q.firstSurvivors found candidates) :
    q.Survives found c :=
  of_decide_eq_true (List.mem_filter.1 (eraseDupsBy_subset _ _ member)).2

theorem firstSurvivors_sublist (q : Inquiry) (found : Occurrence) (candidates : List Candidate) :
    (q.firstSurvivors found candidates).Sublist candidates :=
  (eraseDupsBy_sublist _ _).trans List.filter_sublist

/-- No two of them start at one place. -/
theorem pairwise_firstSurvivors (q : Inquiry) (found : Occurrence) (candidates : List Candidate) :
    (q.firstSurvivors found candidates).Pairwise fun a b =>
      sameStart a.location b.location = false := by
  refine (pairwise_eraseDupsBy _ _).imp ?_
  intro a b differ
  rw [sameStart_comm]
  exact differ

/-- Among themselves all of them are first survivors. -/
theorem firstSurvivors_firstSurvivors (q : Inquiry) (found : Occurrence)
    (candidates : List Candidate) :
    q.firstSurvivors found (q.firstSurvivors found candidates) =
      q.firstSurvivors found candidates := by
  have all : (q.firstSurvivors found candidates).filter (fun c => q.Survives found c) =
      q.firstSurvivors found candidates :=
    List.filter_eq_self.2 fun c member => decide_eq_true (survives_of_mem member)
  rw [firstSurvivors, all]
  exact eraseDupsBy_of_pairwise (pairwise_eraseDupsBy _ _)

/-- More candidates take nothing away from the first survivors, and add to them what survives at
    other places. -/
theorem firstSurvivors_append (q : Inquiry) (found : Occurrence) (before after : List Candidate) :
    q.firstSurvivors found (before ++ after) =
      q.firstSurvivors found before ++
        ((after.filter fun c => q.Survives found c).filter fun c =>
          !(q.firstSurvivors found before).any c.samePlace).eraseDupsBy Candidate.samePlace := by
  rw [firstSurvivors, List.filter_append, eraseDupsBy_append]
  rfl

/-- Survivors have a document, and so a name. -/
theorem map_named (q : Inquiry) (found : Occurrence) (candidates : List Candidate) :
    ((q.firstSurvivors found candidates).filterMap (Candidate.named q.form)).map (·.1) =
      (q.firstSurvivors found candidates).map (·.location) := by
  rw [List.map_filterMap, ← List.filterMap_eq_map]
  refine List.filterMap_congr fun c member => ?_
  obtain ⟨d, document, _⟩ := survives_of_mem member
  simp [Candidate.named, document]

/-- With a cache that is true to the documents the label under the cursor has its own names. -/
theorem comparand_eq (isTrue : TrueTo ds cache) (isIn : q.origin ∈ ds)
    (located : q.origin.occurrence? q.boundary q.position = some found) :
    q.comparand cache = q.names found := by
  simp only [comparand, subject?, located, Option.map_some, Option.getD_some,
    isTrue.get_fst isIn]
  rfl

/-- And so have the first survivors, which are what a reduction is left with. -/
theorem compared_eq (apart : ds.InjOn Document.path) (isTrue : TrueTo ds cache)
    (isOver : q.IsOver ds candidates)
    (located : q.origin.occurrence? q.boundary q.position = some found) :
    q.compared cache candidates =
      (q.firstSurvivors found candidates).filterMap (Candidate.named q.form) := by
  have isTrueNext := isTrue.get_snd apart isOver.origin q.form
  have loop := (survivors_eq (q := q) apart isTrueNext isOver.among found (q.names found) []).1
  rw [newcomers_nil, List.reverse_nil, List.nil_append] at loop
  simp only [compared, subject?, located, Option.map_some, isTrue.get_fst isOver.origin]
  exact loop

theorem compared_of_none (q : Inquiry) (cache : ScopeCache) (candidates : List Candidate)
    (nowhere : q.origin.occurrence? q.boundary q.position = none) :
    q.compared cache candidates = [] := by
  rw [compared, subject?, nowhere]
  rfl

/-- A reduction leaves the cache true to the documents. -/
theorem trueTo_reduceWith (apart : ds.InjOn Document.path) (isTrue : TrueTo ds cache)
    (isOver : q.IsOver ds candidates) : TrueTo ds (q.reduceWith cache candidates).2 := by
  cases located : q.origin.occurrence? q.boundary q.position with
  | none =>
    rw [reduceWith, subject?, located]
    exact isTrue
  | some found =>
    rw [reduceWith, subject?, located]
    exact (survivors_eq apart (isTrue.get_snd apart isOver.origin q.form) isOver.among _ _ []).2

theorem reduce_eq (apart : ds.InjOn Document.path) (isOver : q.IsOver ds candidates)
    (located : q.origin.occurrence? q.boundary q.position = some found) :
    q.reduce candidates = ⟨(q.firstSurvivors found candidates).map (·.location), []⟩ := by
  rw [reduce, reduceWith_fst, compared_eq apart (trueTo_nil ds) isOver located, map_named]

/-- What is left of some candidates is left of them with others behind them, and comes first. -/
theorem reduce_prefix {before after : List Candidate} (apart : ds.InjOn Document.path)
    (isOver : q.IsOver ds (before ++ after))
    (located : q.origin.occurrence? q.boundary q.position = some found) :
    (q.reduce before).locations <+: (q.reduce (before ++ after)).locations := by
  have left := reduce_eq apart (isOver.mono (List.subset_append_left before after)) located
  rw [reduce_eq apart isOver located, left, firstSurvivors_append]
  exact (List.prefix_append _ _).map _

/-- One more candidate is left if it survives and nothing is left at its place yet. -/
theorem reduce_concat {before : List Candidate} {c : Candidate} (apart : ds.InjOn Document.path)
    (isOver : q.IsOver ds (before ++ [c]))
    (located : q.origin.occurrence? q.boundary q.position = some found) :
    (q.reduce (before ++ [c])).locations =
      (q.reduce before).locations ++
        if q.Survives found c ∧ ∀ l ∈ (q.reduce before).locations, ¬sameStart l c.location then
          [c.location]
        else [] := by
  have left := reduce_eq apart (isOver.mono (List.subset_append_left before [c])) located
  have isNew : (∀ l ∈ (q.reduce before).locations, ¬sameStart l c.location) ↔
      (q.firstSurvivors found before).any c.samePlace = false := by
    rw [left]
    simp [Candidate.samePlace, sameStart_comm c.location]
  simp only [isNew]
  rw [reduce_eq apart isOver located, firstSurvivors_append, List.map_append, left]
  by_cases survives : q.Survives found c
  · by_cases new : (q.firstSurvivors found before).any c.samePlace = false
    · simp [survives, new, List.eraseDupsBy_cons]
    · simp [survives, new]
  · simp [survives]

/-- Candidates that lie in their documents are no strays. -/
theorem hasStray_eq_false (inside : ∀ c ∈ candidates, c.isInside) :
    q.hasStray candidates = false := by
  rw [hasStray, Bool.and_eq_false_iff]
  right
  rw [List.any_eq_false]
  rintro ⟨c, n⟩ member
  have isInside := inside c (List.fst_mem_of_mem_zipIdx member)
  simp [isInside]

/-- What is left of candidates in documents that their paths tell apart are exactly those that
    survive, of each place the first, in the order of the candidates. So it is a part of the
    candidates that has no place twice, what is left stays when it is reduced again, and without
    declarations the place under the cursor is never left. Candidates inside their documents are all
    looked at. -/
theorem reduce_keeps_first_survivors (apart : ds.InjOn Document.path)
    (isOver : q.IsOver ds candidates)
    (located : q.origin.occurrence? q.boundary q.position = some found) :
    q.reduce candidates = ⟨(q.firstSurvivors found candidates).map (·.location), []⟩ ∧
      (q.firstSurvivors found candidates).Sublist candidates ∧
      (q.reduce candidates).locations.Pairwise (fun a b => ¬sameStart a b) ∧
      q.reduce (q.firstSurvivors found candidates) = q.reduce candidates ∧
      (q.includeDeclaration = false →
        ∀ l ∈ (q.reduce candidates).locations, ¬q.isOrigin found l) ∧
      ((∀ c ∈ candidates, c.isInside) → q.hasStray candidates = false) := by
  have left := reduce_eq apart isOver located
  have sublist := q.firstSurvivors_sublist found candidates
  have overAgain := isOver.mono sublist.subset
  refine ⟨left, sublist, ?_, ?_, ?_, hasStray_eq_false⟩
  · rw [left]
    refine List.pairwise_map.2 ((q.pairwise_firstSurvivors found candidates).imp ?_)
    intro a b differ
    rw [differ]
    exact Bool.false_ne_true
  · rw [left, reduce_eq apart overAgain located, firstSurvivors_firstSurvivors]
  · intro without l member
    rw [left] at member
    obtain ⟨c, isLeft, rfl⟩ := List.mem_map.1 member
    obtain ⟨_, _, _, elsewhere, _⟩ := survives_of_mem isLeft
    exact (elsewhere without).1

/-- A file with a label, its use under the cursor, and another use. -/
def usedTwice : Document :=
  ⟨⟨["a.asm".toList]⟩, .source, ["x: jp x", " jp x"].map String.toList⟩

/-- The references to the label from its first use, its declaration not among them. -/
def usedTwiceInquiry : Inquiry :=
  { form := .marked, origin := usedTwice, position := ⟨0, 6⟩, includeDeclaration := false }

/-- A place in that file. -/
def usedTwiceAt (line start : Nat) : Candidate :=
  ⟨⟨usedTwice.path, line, start, start + 1⟩, some usedTwice⟩

/-- Only the other use is left, however often it is a candidate. -/
theorem usedTwice_keeps_other_use :
    usedTwiceInquiry.reduce
        [usedTwiceAt 0 0, usedTwiceAt 0 6, usedTwiceAt 1 4, ⟨⟨usedTwice.path, 1, 1, 3⟩, none⟩,
          usedTwiceAt 1 4] = ⟨[⟨usedTwice.path, 1, 4, 5⟩], []⟩ ∧
      usedTwiceInquiry.reduce [usedTwiceAt 1 4] = ⟨[⟨usedTwice.path, 1, 4, 5⟩], []⟩ := by
  have apart : ({usedTwice} : Set Document).InjOn Document.path := Set.injOn_singleton _ _
  have isOver : usedTwiceInquiry.IsOver {usedTwice}
      [usedTwiceAt 0 0, usedTwiceAt 0 6, usedTwiceAt 1 4, ⟨⟨usedTwice.path, 1, 1, 3⟩, none⟩,
        usedTwiceAt 1 4] := by
    refine ⟨rfl, ?_⟩
    simp [Candidate.IsAmong, usedTwiceAt]
  have located : usedTwiceInquiry.origin.occurrence? usedTwiceInquiry.boundary
      usedTwiceInquiry.position = some ⟨"x".toList, "x".toList, 6, 7⟩ := by decide +kernel
  obtain ⟨left, _, _, again, _⟩ := reduce_keeps_first_survivors apart isOver located
  have survivors : usedTwiceInquiry.firstSurvivors ⟨"x".toList, "x".toList, 6, 7⟩
      [usedTwiceAt 0 0, usedTwiceAt 0 6, usedTwiceAt 1 4, ⟨⟨usedTwice.path, 1, 1, 3⟩, none⟩,
        usedTwiceAt 1 4] = [usedTwiceAt 1 4] := by
    decide +kernel
  rw [survivors] at left again
  exact ⟨left, again.trans left⟩

/-- A file with a relative label in use below `x`. -/
def ownedUse : Document :=
  ⟨⟨["o.asm".toList]⟩, .source, ["x:", " jp .l"].map String.toList⟩

/-- Another file, before and after it was written anew. -/
def writtenAnew (lines : List String) : Document :=
  ⟨⟨["p.asm".toList]⟩, .source, lines.map String.toList⟩

/-- The references to the relative label. -/
def ownedUseInquiry : Inquiry :=
  { form := .marked, origin := ownedUse, position := ⟨1, 5⟩ }

/-- Of a file that was read twice, the candidates in the second state are judged by the scopes of
    the first. So a relative label without an owner is left, which does not survive in its document,
    and which is not left when what was left is reduced again. -/
theorem writtenAnew_left_by_stale_scopes :
    let found : Occurrence := ⟨".l".toList, "l".toList, 5, 6⟩
    let use : Candidate := ⟨⟨ownedUse.path, 1, 5, 6⟩, some ownedUse⟩
    let before : Candidate :=
      ⟨⟨⟨["p.asm".toList]⟩, 1, 6, 7⟩, some (writtenAnew ["x:", " jp y.l"])⟩
    let after : Candidate := ⟨⟨⟨["p.asm".toList]⟩, 1, 5, 6⟩, some (writtenAnew [" nop", " jp .l"])⟩
    ownedUse.occurrence? isWordChar ⟨1, 5⟩ = some found ∧
      (ownedUseInquiry.reduce [use, before, after]).locations = [use.location, after.location] ∧
      ¬ownedUseInquiry.Survives found after ∧
      (ownedUseInquiry.reduce [use, after]).locations = [use.location] := by
  decide +kernel

end Inquiry
end AsmAtlas
