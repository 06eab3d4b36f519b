import AsmAtlas.Path.Basic

/-!
# File trees

The files and folders that requests read from, with the rights to read them. Names within a folder
are distinct; the first entry of a name is the one that counts. There are no links: every path leads
to the place that its names spell once each `..` is resolved. Neither are there sockets, devices, or
anything else that is no file and no folder, and rights to write are left out. Names are texts, so
there is no name that cannot be decoded.
-/

namespace AsmAtlas

/-- What may be done with a folder. -/
structure Rights where
  /-- The names in it may be listed. -/
  lists : Bool := true
  /-- What is in it may be reached. -/
  enters : Bool := true
deriving DecidableEq

/-- A file with its bytes, which may be withheld, or a folder with its entries. -/
inductive FileTree where
  | file (content : ByteArray) (readable : Bool := true)
  | folder (entries : List (Text × FileTree)) (rights : Rights := {})

namespace FileTree

/-- What stands at the end of a chain of names. -/
def get? : FileTree → List Text → Option FileTree
  | t, [] => some t
  | folder entries _, name :: rest =>
    match entries.lookup name with
    | some t => t.get? rest
    | none => none
  | file _ _, _ :: _ => none

/-- Whether a file stands at a place. -/
def isFile (t : FileTree) (p : Path) : Bool :=
  match t.get? p.parts with
  | some (file _ _) => true
  | _ => false

/-- Whether a folder stands at a place. -/
def isFolder (t : FileTree) (p : Path) : Bool :=
  match t.get? p.parts with
  | some (folder _ _) => true
  | _ => false

/-- The entries of a folder; a file has none. -/
def entries : FileTree → List (Text × FileTree)
  | file _ _ => []
  | folder entries _ => entries

/-- What may be done with a folder. -/
def rights : FileTree → Rights
  | file _ _ => {}
  | folder _ rights => rights

/-- Entries with one of them set. -/
def setEntry (name : Text) (t : FileTree) : List (Text × FileTree) → List (Text × FileTree)
  | [] => [(name, t)]
  | (other, u) :: rest =>
    if other == name then (name, t) :: rest else (other, u) :: setEntry name t rest

/-- Puts something at the end of a chain of names, making folders on the way. -/
def put (new : FileTree → FileTree) : List Text → FileTree → FileTree
  | [], t => new t
  | name :: rest, t =>
    let inner := (t.entries.lookup name).getD (folder [])
    folder (setEntry name (put new rest inner) t.entries) t.rights

/-- Writes a file, making the folders above it. -/
def write (t : FileTree) (p : Path) (content : ByteArray) : FileTree :=
  put (fun _ => file content) p.parts t

/-- Makes a folder and those above it. What is there already stays. -/
def makeFolder (t : FileTree) (p : Path) : FileTree :=
  put (fun found => folder found.entries found.rights) p.parts t

/-- Removes what stands at the end of a chain of names. -/
def eraseParts : List Text → FileTree → FileTree
  | [], t => t
  | [name], t => folder (t.entries.filter fun entry => entry.1 != name) t.rights
  | name :: rest, t =>
    match t.entries.lookup name with
    | none => t
    | some inner => folder (setEntry name (eraseParts rest inner) t.entries) t.rights

/-- Removes the file at a place. -/
def erase (t : FileTree) (p : Path) : FileTree :=
  eraseParts p.parts t

/-! ## Reaching files -/

/-- Why there is no file to read, or none can be written. -/
inductive AccessError where
  | missing
  | isFolder
  /-- Something on the way is a file. -/
  | notFolder
  /-- A folder on the way may not be entered. -/
  | denied
  /-- A file stands where a folder is to be made. -/
  | taken
  /-- A name that is longer than names can be, or a path that is longer than paths can be. -/
  | tooLong
deriving DecidableEq

/-- The most bytes of a name in a folder. -/
def maxName : Nat := 255

/-- The most bytes of a written path. -/
def maxPath : Nat := 4095

/-- What a chain of names leads to from folder to folder. -/
def reach : FileTree → List Text → Except AccessError FileTree
  | t, [] => .ok t
  | folder entries rights, name :: rest =>
    if !rights.enters then .error .denied
    else if maxName < name.byteLength then .error .tooLong
    else
      match entries.lookup name with
      | some t => t.reach rest
      | none => .error .missing
  | file _ _, _ :: _ => .error .notFolder

/-- What the path to a place leads to. -/
def visit (t : FileTree) (p : Path) : Except AccessError FileTree :=
  if maxPath < p.absoluteText.byteLength then .error .tooLong else t.reach p.parts

/-- The bytes of the file at a place, if it may be read. -/
def read? (t : FileTree) (p : Path) : Option ByteArray :=
  match t.visit p with
  | .ok (file content true) => some content
  | _ => none

/-- Whether the names in the folder at a place may be listed. -/
def mayList (t : FileTree) (p : Path) : Bool :=
  match t.visit p with
  | .ok (folder _ rights) => rights.lists
  | _ => false

/-- What walking through names, one folder after the other, leads to. `..` leads back to the folder
    above, and everything before the last name has to be a folder. -/
def travel (t : FileTree) (here : Path) : List Text → Except AccessError FileTree
  | [] => t.reach here.parts
  | name :: rest =>
    match t.reach here.parts with
    | .ok (folder _ rights) =>
      if !rights.enters then .error .denied
      else if maxName < name.byteLength then .error .tooLong
      else t.travel (WrittenPath.follow here name) rest
    | .ok (file _ _) => .error .notFolder
    | .error e => .error e

/-- Makes the folders that names lead through, one after the other. `..` leads back to the folder
    above, but the folder it leads back from is made too. -/
def pave (t : FileTree) (here : Path) : List Text → Except AccessError FileTree
  | [] => .ok t
  | name :: rest =>
    let next := WrittenPath.follow here name
    match t.get? next.parts with
    | some (file _ _) => .error (if rest.isEmpty then .taken else .notFolder)
    | _ =>
      if maxName < name.byteLength then .error .tooLong else (t.makeFolder next).pave next rest

/-! ## Walking through folders -/

/-- The places of the files among the entries of a folder. -/
def filesAmong (place : Path) (entries : List (Text × FileTree)) : List Path :=
  (entries.filter fun entry => entry.2 matches file _ _).map fun entry => place.child entry.1

mutual

/-- What a walk through the folder at `place` meets: its own files, then those of its folders,
    without the ones that `prunes` picks out. A folder whose names may not be listed is passed over.
    The walk stops, which is marked by `none`, where folders are nested deeper than `calls`. -/
def seenAt (t : FileTree) (prunes : Path → Bool) (calls : Nat) (place : Path) :
    FileTree → List (Option Path)
  | file _ _ => []
  | folder entries _ =>
    match calls with
    | 0 => [none]
    | calls + 1 =>
      if t.mayList place then
        (filesAmong place entries).map some ++ seenIn t prunes calls place entries
      else []

/-- What a walk meets in the folders among the entries of a folder. -/
def seenIn (t : FileTree) (prunes : Path → Bool) (calls : Nat) (place : Path) :
    List (Text × FileTree) → List (Option Path)
  | [] => []
  | (name, u) :: rest =>
    (if prunes (place.child name) then [] else seenAt t prunes calls (place.child name) u) ++
      seenIn t prunes calls place rest

end

/-- What a walk through the folder at `root` meets. The folder itself is not picked out. -/
def seenBelow (t : FileTree) (prunes : Path → Bool) (calls : Nat) (root : Path) :
    List (Option Path) :=
  match t.get? root.parts with
  | some found => seenAt t prunes calls root found
  | none => []

end FileTree

namespace WrittenPath

/-- Where a written path starts from, when the present folder is `here`. -/
def start (here : Path) (w : WrittenPath) : Path :=
  if w.slashes == 0 then here else ⟨[]⟩

/-- Makes the folders that a written path leads through. -/
def makeFolder (t : FileTree) (here : Path) (w : WrittenPath) :
    Except FileTree.AccessError FileTree :=
  t.pave (w.start here) w.parts

/-- Writes a file at a written path, making the folders that the path leads through. -/
def write (t : FileTree) (here : Path) (w : WrittenPath) (content : ByteArray) :
    Except FileTree.AccessError FileTree := do
  let t ← t.pave (w.start here) w.parts.dropLast
  let place := w.resolve here
  if t.isFolder place then throw .isFolder
  if FileTree.maxName < (place.parts.getLast?.getD []).byteLength then throw .tooLong
  return t.write place content

/-- What stands at a written path, when the present folder is `here`. Nothing does if the path has a
    null character. -/
def visit (t : FileTree) (here : Path) (w : WrittenPath) : Except FileTree.AccessError FileTree :=
  if w.text.contains '\x00' then .error .missing
  else if FileTree.maxPath < w.text.byteLength then .error .tooLong
  else t.travel (w.start here) w.parts

/-- The bytes of the file at a written path. -/
def access (t : FileTree) (here : Path) (w : WrittenPath) :
    Except FileTree.AccessError ByteArray :=
  match w.visit t here with
  | .ok (.file content true) => .ok content
  | .ok (.file _ false) => .error .denied
  | .ok (.folder _ _) => .error .isFolder
  | .error e => .error e

end WrittenPath

end AsmAtlas
