import AsmAtlas.Reference.Occurrence
import AsmAtlas.Reference.Scope

/-!
# From occurrences to references

A search only finds where a word occurs. Reduction rebuilds the complete label around each
candidate, qualifies it by its scope, and keeps the candidates that can mean the same label as the
one under the cursor.
-/

namespace AsmAtlas

/-- The names that a label goes by. -/
structure Qualified where
  /-- The label as written, completed by its owner if it is relative. -/
  plain : Text
  /-- The same with the modules around it. -/
  full : Text
deriving DecidableEq

namespace Qualified

/-- The names of a label on a line with the given scope. -/
def of (scope : LineScope) (label : Text) : Qualified :=
  let folded := foldCase label
  let plain := if ScopeState.isRelative folded then scope.owner.getD [] ++ folded else folded
  ⟨plain, if scope.modules.isEmpty then plain else scope.modules ++ '.' :: plain⟩

/-- Whether two labels share a name. -/
def meets (a b : Qualified) : Bool :=
  a.plain == b.plain || a.plain == b.full || a.full == b.plain || a.full == b.full

end Qualified

/-- A place where the searched word was found. Without a document nothing is known about it. -/
structure Candidate where
  location : Location
  document : Option Document
deriving DecidableEq

/-- Whether a candidate lies in its document: the line is there and reaches up to the start. -/
def Candidate.isInside (c : Candidate) : Bool :=
  c.document.all fun d => d.lines[c.location.line]?.any fun line => c.location.start ≤ line.length

/-- The question that candidates are reduced for. -/
structure Inquiry where
  /-- The form of label declarations. -/
  form : LabelForm
  /-- The document with the cursor. -/
  origin : Document
  position : Position
  /-- Whether declarations, and the word under the cursor, are kept. -/
  includeDeclaration : Bool := true
  /-- The characters that a word must not touch. -/
  boundary : Char → Bool := isWordChar

/-- What is left of the candidates. -/
structure Reduction where
  locations : List Location := []
  /-- For a unique result, the others that are just as good. -/
  ambiguous : List Location := []
deriving DecidableEq

namespace Inquiry

/-- Whether the stretch of a line is the end of the label that the line declares. -/
def isDeclaration (form : LabelForm) (line : Text) (start stop : Nat) : Bool :=
  (form.find? line).any fun hit => hit.span.start ≤ start && hit.span.stop == stop

/-- Whether a boundary character touches the stretch of a line. -/
def isTouched (boundary : Char → Bool) (text : Text) (start stop : Nat) : Bool :=
  (0 < start && text[start - 1]?.any boundary) || text[stop]?.any boundary

/-- Whether a location is where the cursor is. -/
def isOrigin (q : Inquiry) (found : Occurrence) (l : Location) : Bool :=
  l.path == q.origin.path && (l.line : Int) == q.position.line && l.start == found.start

/-- Whether a candidate in the given line can be kept, before names are compared. -/
def admits (q : Inquiry) (found : Occurrence) (line : Text) (l : Location) : Bool :=
  !isTouched q.boundary line l.start l.stop &&
    (q.includeDeclaration ||
      !(q.isOrigin found l || isDeclaration q.form line l.start l.stop))

/-- The label that ends where the location does. -/
def labelAt (line : Text) (l : Location) : Text :=
  line.slice (Occurrence.tokenStart line l.start) l.stop

/-- The scope of a line in a table. -/
def scopeAt (table : ScopeTable) (line : Nat) : LineScope :=
  table[line]?.getD ⟨[], none⟩

/-- Whether two locations start at the same place. -/
def sameStart (a b : Location) : Bool :=
  a.path == b.path && a.line == b.line && a.start == b.start

/-- The candidates that share a name with the label under the cursor, in their order and each
    place once, with their names. `kept` holds the ones before, the latest first. -/
def survivors (q : Inquiry) (found : Occurrence) (name : Qualified)
    (kept : List (Location × Qualified)) (cache : ScopeCache) :
    List Candidate → List (Location × Qualified) × ScopeCache
  | [] => (kept.reverse, cache)
  | c :: rest =>
    match c.document with
    | none => q.survivors found name kept cache rest
    | some d =>
      let line := d.line c.location.line
      if kept.any (fun k => sameStart k.1 c.location) || !q.admits found line c.location then
        q.survivors found name kept cache rest
      else
        let (table, cache) := cache.get d q.form
        let names := Qualified.of (scopeAt table c.location.line) (labelAt line c.location)
        if names.meets name then
          q.survivors found name ((c.location, names) :: kept) cache rest
        else q.survivors found name kept cache rest

/-- The label under the cursor with its names, and the cache with the table they come from. -/
def subject? (q : Inquiry) (cache : ScopeCache) : Option (Occurrence × Qualified × ScopeCache) :=
  (q.origin.occurrence? q.boundary q.position).map fun found =>
    let (table, cache) := cache.get q.origin q.form
    (found, Qualified.of (scopeAt table q.position.line.toNat) found.label, cache)

/-- The candidates that refer to the label under the cursor, and the cache afterwards. -/
def reduceWith (q : Inquiry) (cache : ScopeCache) (candidates : List Candidate) :
    Reduction × ScopeCache :=
  match q.subject? cache with
  | none => ({}, cache)
  | some (found, name, cache) =>
    let (kept, cache) := q.survivors found name [] cache candidates
    (⟨kept.map (·.1), []⟩, cache)

end Inquiry

/-- How well a survivor answers the question where a label is declared; less is better. -/
structure Rank where
  /-- Zero for the same full name. -/
  scope : Nat
  /-- Zero for the same file. -/
  file : Nat
  /-- The distance in lines within the same file. -/
  distance : Nat
deriving DecidableEq

namespace Rank

/-- Whether `a` is better than `b`. -/
def lt (a b : Rank) : Bool :=
  a.scope < b.scope ||
    (a.scope == b.scope && (a.file < b.file || (a.file == b.file && a.distance < b.distance)))

/-- The best of a rank and some others. -/
def least (r : Rank) (others : List Rank) : Rank :=
  others.foldl (fun best other => if other.lt best then other else best) r

end Rank

namespace Inquiry

/-- The rank of a survivor. -/
def rank (q : Inquiry) (name : Qualified) (l : Location) (names : Qualified) : Rank :=
  let scope := if names.full == name.full then 0 else 1
  if l.path == q.origin.path then
    ⟨scope, 0, ((l.line : Int) - q.position.line).natAbs⟩
  else ⟨scope, 1, 0⟩

/-- The first of the best survivors, with the others that are as good. -/
def choose (q : Inquiry) (name : Qualified) : List (Location × Qualified) → Reduction
  | [] => {}
  | first :: rest =>
    let rankOf (k : Location × Qualified) := q.rank name k.1 k.2
    let best := (rankOf first).least (rest.map rankOf)
    match ((first :: rest).filter fun k => rankOf k == best).map (·.1) with
    | [] => {}
    | location :: ties => ⟨[location], ties⟩

/-- The single best of the candidates that refer to the label under the cursor, and the cache
    afterwards. -/
def reduceUniqueWith (q : Inquiry) (cache : ScopeCache) (candidates : List Candidate) :
    Reduction × ScopeCache :=
  match q.subject? cache with
  | none => ({}, cache)
  | some (found, name, cache) =>
    let (kept, cache) := q.survivors found name [] cache candidates
    (q.choose name kept, cache)

/-- The candidates that refer to the label under the cursor. -/
def reduce (q : Inquiry) (candidates : List Candidate) : Reduction :=
  (q.reduceWith [] candidates).1

/-- Whether the question comes upon a candidate that lies outside its document. Candidates at a
    place that was kept before are not looked at. -/
def hasStray (q : Inquiry) (candidates : List Candidate) : Bool :=
  (q.origin.occurrence? q.boundary q.position).isSome &&
    candidates.zipIdx.any fun (c, n) =>
      !c.isInside && !(q.reduce (candidates.take n)).locations.any fun l => sameStart l c.location

/-- The single best of the candidates that refer to the label under the cursor. -/
def reduceUnique (q : Inquiry) (candidates : List Candidate) : Reduction :=
  (q.reduceUniqueWith [] candidates).1

end Inquiry

end AsmAtlas
