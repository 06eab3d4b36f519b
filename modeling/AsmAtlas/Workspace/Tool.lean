import AsmAtlas.Path.Basic
import AsmAtlas.Text.CodePoint

/-!
# Programs that help to collect files

`rg` lists files and `git` lists what is ignored. Neither is needed.
-/

namespace AsmAtlas

/-- What a program answers when it is run. -/
structure ToolReply where
  /-- Whether it could not be started. That need not be its own fault: nothing can be started with a
      null character in a word, or in a folder that may not be entered. -/
  fails : Bool := false
  output : ByteArray := ByteArray.empty
  status : Int := 0

/-- The programs that are installed, with what they answer. -/
structure Tools where
  /-- `rg`, which lists files. -/
  lister : Option ToolReply := none
  /-- `git`, which lists ignored files and folders. -/
  ignorer : Option ToolReply := none

/-- Which files are wanted. -/
structure FileFilter where
  wanted : LooseText
  unwanted : LooseText := []
  skipIgnored : Bool := false

/-- A program that was run. -/
inductive Command where
  | listFiles (filter : FileFilter)
  | listIgnored (root : Path)

namespace Command

/-- A fixed word of a command line. -/
def word (w : String) : LooseText :=
  LooseText.ofText w.toList

/-- The words of a command line, with paths written by `render`. -/
def words (render : Path → Text) : Command → List LooseText
  | listFiles filter =>
    ["rg", "--files", "--glob"].map word ++ [filter.wanted] ++
      (if filter.unwanted.isBlankText then [] else [word "--glob", .char '!' :: filter.unwanted]) ++
      (if filter.skipIgnored then [] else [word "--no-ignore"])
  | listIgnored root =>
    ["git", "-C"].map word ++ [LooseText.ofText (render root)] ++
      ["ls-files", "-z", "--others", "-i", "--exclude-standard", "--directory"].map word

end Command

end AsmAtlas
