import AsmAtlas.Text.Basic
import AsmAtlas.Text.Digit

/-!
# Arguments

What the words of a command line ask for. Options of the program stand before the command, those
of the command anywhere behind it. An option may be shortened as long as it stays clear which one
is meant, and its value may follow behind an equals sign. Words behind `--` are no options, and
another `--` among them leaves the place of an argument open.
-/

namespace AsmAtlas
namespace CommandLine

/-- An option. -/
structure OptionSpec where
  name : Text
  takesValue : Bool := false
deriving DecidableEq

/-- What a word is. -/
inductive Word where
  /-- An argument, not an option. -/
  | argument
  | option (spec : OptionSpec) (value : Option Text)
  /-- An option that does not exist, or one that could be several. -/
  | unknown
deriving DecidableEq

/-- A minus, then digits with at most one point among or before them. -/
def isNegativeNumber (t : Text) : Bool :=
  match t with
  | '-' :: rest =>
    let rest := if rest.getLast? == some '\n' then rest.dropLast else rest
    let whole := rest.takeWhile isDecimal
    match rest.drop whole.length with
    | [] => !whole.isEmpty
    | '.' :: fraction => !fraction.isEmpty && fraction.all isDecimal
    | _ => false
  | _ => false

/-- A word split at its first equals sign. -/
def splitValue (t : Text) : Text × Option Text :=
  match t.dropWhile (· != '=') with
  | [] => (t, none)
  | _ :: value => (t.takeWhile (· != '='), some value)

/-- The options that a word may stand for, with their values. -/
def candidates (options : List OptionSpec) (t : Text) : List (OptionSpec × Option Text) :=
  if t.startsWith ['-', '-'] then
    let (name, value) := splitValue t
    (options.filter fun o => o.name.startsWith name).map (·, value)
  else
    options.filterMap fun o => if o.name == t.take 2 then some (o, some (t.drop 2)) else none

/-- What a word is, given the options that there are. -/
def Word.of (options : List OptionSpec) (t : Text) : Word :=
  if t.head? != some '-' then argument
  else
    match options.find? (·.name == t) with
    | some o => option o none
    | none =>
      if t.length == 1 then argument
      else
        let (name, value) := splitValue t
        match value, options.find? (·.name == name) with
        | some v, some o => option o (some v)
        | _, _ =>
          match candidates options t with
          | [(o, value)] => option o value
          | _ :: _ :: _ => unknown
          | [] => if isNegativeNumber t || t.contains ' ' then argument else unknown

/-- Why there is nothing to do. -/
inductive Refusal where
  /-- The words are not understood. -/
  | usage
  /-- Help is asked for. -/
  | help
deriving DecidableEq

/-- The two ways to ask for help. -/
def helpOptions : List OptionSpec :=
  [⟨"-h".toList, false⟩, ⟨"--help".toList, false⟩]

/-- Whether an option asks for help. -/
def asksHelp (o : OptionSpec) : Bool :=
  helpOptions.contains o

/-- The options of the program. -/
def programOptions : List OptionSpec :=
  helpOptions ++
    [⟨"--root".toList, true⟩, ⟨"--style".toList, true⟩, ⟨"--no-color".toList, false⟩,
      ⟨"--log-level".toList, true⟩]

/-- The end of the options. -/
def separator : Text :=
  ['-', '-']

/-- The words from the command on, and the roots named before it. Other options of the program have
    no effect on what is printed here. -/
def readProgram (roots : List Text) : List Text → Except Refusal (List Text × List Text)
  | [] => .error .usage
  | word :: rest =>
    if word == separator then .error .usage
    else
      match Word.of programOptions word with
      | .argument => .ok (roots, word :: rest)
      | .unknown => .error .usage
      | .option o (some value) =>
        if o.takesValue then
          readProgram (if o.name == "--root".toList then roots ++ [value] else roots) rest
        else .error .usage
      | .option o none =>
        if asksHelp o then .error .help
        else if !o.takesValue then readProgram roots rest
        else
          match rest with
          | [] => .error .usage
          | value :: rest =>
            if value == separator || Word.of programOptions value != .argument then .error .usage
            else readProgram (if o.name == "--root".toList then roots ++ [value] else roots) rest

/-- An argument behind the separator. Another separator leaves its place open. -/
def argumentOf (word : Text) : Option Text :=
  if word == separator then none else some word

/-- The arguments behind the separator. The separator belongs to the argument directly before it,
    and if there is none to the one behind it, which it then has to have and which is taken as it
    is. -/
def behindSeparator (argumentBefore : Bool) : List Text → Except Refusal (List (Option Text))
  | [] => if argumentBefore then .ok [] else .error .usage
  | word :: rest =>
    .ok ((if argumentBefore then argumentOf word else some word) :: rest.map argumentOf)

/-- The arguments behind a command, none for a place left open, and the options that stand among
    them. `argumentBefore` says that an argument stands directly before. -/
def readCommand (options : List OptionSpec) (argumentBefore : Bool) :
    List Text → Except Refusal (List (Option Text) × List OptionSpec)
  | [] => .ok ([], [])
  | word :: rest =>
    if word == separator then (behindSeparator argumentBefore rest).map (·, [])
    else
      match Word.of options word with
      | .unknown => .error .usage
      | .option _ (some _) => .error .usage
      | .option o none =>
        if asksHelp o then .error .help
        else (readCommand options false rest).map fun (arguments, found) => (arguments, o :: found)
      | .argument =>
        (readCommand options true rest).map fun (arguments, found) =>
          (some word :: arguments, found)

/-- A blank around a number; information separators are none. -/
def isNumberBlank (c : Char) : Bool :=
  isBlank c && !(0x1C ≤ c.toNat && c.toNat ≤ 0x1F)

/-- The values of digits of any script, with single underscores between them allowed. -/
def digitValues? : Text → Option (List Nat)
  | [] => none
  | [c] => (digitValue? c).map ([·])
  | c :: '_' :: rest => (digitValue? c).bind fun d => (digitValues? rest).map (d :: ·)
  | c :: rest => (digitValue? c).bind fun d => (digitValues? rest).map (d :: ·)

/-- The longest numbers that are read. -/
def maxDigits : Nat := 4300

/-- A number that counts something, from one on. A plus may stand in front. -/
def positive? (t : Text) : Option Nat :=
  let trimmed := Text.dropEndWhile isNumberBlank (t.dropWhile isNumberBlank)
  let digits :=
    match trimmed with
    | '+' :: rest => rest
    | t => t
  (digitValues? digits).bind fun values =>
    let n := values.foldl (fun n d => 10 * n + d) 0
    if maxDigits < values.length || n == 0 then none else some n

/-- What is asked for, about a file or about the whole workspace. -/
inductive Query where
  | outline
  | lenses
  | folding
  | references (line column : Nat) (includeDeclaration : Bool)
  | definition (line column : Nat)
  | complete (line column : Nat)
  | hover (line column : Nat)
  | rename (line column : Nat) (name : Text)
  | symbols (query : Text)
  | unreferenced
deriving DecidableEq

/-- What a command line asks for. -/
structure Arguments where
  roots : List Text
  /-- The file that the query is about. -/
  file : Option Text
  /-- The query, unless a value that it needs was left open. -/
  query : Option Query

/-- A number that may be left open; none if it is no number. -/
def number? : Option Text → Option (Option Nat)
  | none => some none
  | some t => (positive? t).map some

/-- A line and a column. The place is open if one of them is; there is none if one of them is no
    number. -/
def place? (line column : Option Text) : Option (Option (Nat × Nat)) :=
  (number? line).bind fun l => (number? column).map fun c => l.bind fun l => c.map (l, ·)

/-- The option of the command that finds references. -/
def includeDeclaration : OptionSpec :=
  ⟨"--include-declaration".toList, false⟩

/-- The options of a command. -/
def commandOptions (command : Text) : List OptionSpec :=
  helpOptions ++ if command == "references".toList then [includeDeclaration] else []

/-- The commands that there are. -/
def commands : List Text :=
  ["outline", "lenses", "folding", "references", "definition", "complete", "hover", "rename",
    "symbols", "unreferenced"].map String.toList

namespace Arguments

/-- What is asked about a place in a file, given by line and column. -/
def atPlace? (roots : List Text) (file : Text) (line column : Option Text)
    (query : Nat × Nat → Option Query) : Option Arguments :=
  (place? line column).map fun place => ⟨roots, some file, place.bind query⟩

/-- What a command with its arguments asks for; none unless their number is right and those that
    have to be numbers are. -/
def ofCommand? (roots : List Text) (command : Text) (arguments : List (Option Text))
    (included : Bool) : Option Arguments :=
  match String.ofList command, arguments with
  | "outline", [some file] => some ⟨roots, some file, some .outline⟩
  | "lenses", [some file] => some ⟨roots, some file, some .lenses⟩
  | "folding", [some file] => some ⟨roots, some file, some .folding⟩
  | "references", [some file, l, c] =>
    atPlace? roots file l c fun (line, column) => some (.references line column included)
  | "definition", [some file, l, c] =>
    atPlace? roots file l c fun (line, column) => some (.definition line column)
  | "complete", [some file, l, c] =>
    atPlace? roots file l c fun (line, column) => some (.complete line column)
  | "hover", [some file, l, c] =>
    atPlace? roots file l c fun (line, column) => some (.hover line column)
  | "rename", [some file, l, c, name] =>
    atPlace? roots file l c fun (line, column) => name.map (.rename line column)
  | "symbols", [some query] => some ⟨roots, none, some (.symbols query)⟩
  | "unreferenced", [] => some ⟨roots, none, some .unreferenced⟩
  | _, _ => none

/-- Reads the words of a command line. -/
def read (words : List Text) : Except Refusal Arguments :=
  match readProgram [] words with
  | .error e => .error e
  | .ok (_, []) => .error .usage
  | .ok (roots, command :: rest) =>
    if !commands.contains command then .error .usage
    else
      match readCommand (commandOptions command) false rest with
      | .error e => .error e
      | .ok (arguments, options) =>
        match ofCommand? roots command arguments (options.contains includeDeclaration) with
        | none => .error .usage
        | some found => .ok found

end Arguments

end CommandLine
end AsmAtlas
