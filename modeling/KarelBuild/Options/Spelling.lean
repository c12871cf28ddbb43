import KarelBuild.Text

/-!
# Spellings of options

Two older spellings are brought to the common form before a command line is read: `/IDIR` stands
for `-IDIR`, and the compiler's `-M` family is written with two dashes. The program's name and
everything from `--` on stay as they are.
-/

namespace KarelBuild

namespace Spelling

def separator : Text := "--".toList

def includeMark : Text := "/I".toList

/-- The `-M` options that have no value of their own in the same word. -/
def familyWords : List Text := ["-M", "-MM", "-MG", "-MP", "-MT", "-MF"].map String.toList

/-- The `-M` options whose value may be attached. -/
def valuedWords : List Text := ["-MT", "-MF"].map String.toList

/-- `-MTv` and `-MFv` with the value apart. -/
def attached? (word : Text) : Option (Text × Text) :=
  valuedWords.findSome? fun option => (option.isPrefixOf? word).map fun value => (option, value)

/-- The common spelling of one word. -/
def canonical (word : Text) : Text :=
  match includeMark.isPrefixOf? word with
  | some dir => "-I".toList ++ dir
  | none =>
    if familyWords.contains word then '-' :: word
    else match attached? word with
      | some (option, value) => '-' :: option ++ '=' :: value
      | none => word

/-- The common spelling of all words before the separator. -/
def canonicalWords : List Text → List Text
  | [] => []
  | w :: ws => if w = separator then w :: ws else canonical w :: canonicalWords ws

/-- The common spelling of a command line, which begins with the program's name. -/
def canonicalLine : List Text → List Text
  | [] => []
  | program :: words => program :: canonicalWords words

end Spelling

end KarelBuild
