import KarelBuild.Text.Utf8

/-!
# Program images

What the contents of an executable file say about how to run it: a script names its interpreter in
the first line, and a native program begins with a magic number. Only the first bytes of a file are
looked at.
-/

namespace KarelBuild

inductive Image where
  | native (name : Text)
  | script (interpreter : Text) (argument : Option Bytes)
  deriving DecidableEq, Repr

namespace Image

def magic : Bytes := 0x7F :: Utf8.encode "ELF".toList

/-- A native program is known by name. -/
def bytes : Image → Bytes
  | native name => magic ++ Utf8.encode name
  | script interpreter argument =>
    Utf8.encode ("#!".toList ++ interpreter) ++ (argument.map (0x20 :: ·)).getD [] ++ [0x0A]

def isSpace (b : UInt8) : Bool := b == 0x20 || b == 0x09

/-- Whether a byte ends the path of an interpreter. -/
def isTerminator (b : UInt8) : Bool := isSpace b || b == 0

def dropSpaces (b : Bytes) : Bytes := b.dropWhile isSpace

/-- How many bytes of a file say what it is. -/
def headSize : Nat := 256

/-- Blanks around the interpreter are passed over; all that follows it is one argument. A zero byte
ends either. -/
def ofLine? (line : Bytes) : Option Image :=
  let line := dropSpaces line
  let interpreter := line.takeWhile (!isTerminator ·)
  let rest := line.drop interpreter.length
  let argument := if rest.head? = some 0 then [] else dropSpaces rest
  if line = [] then none
  else some (.script (Utf8.decode interpreter)
    (if argument = [] then none else some (argument.takeWhile (· != 0))))

/-- The line behind the mark of a script. Blanks at its end go; a line that goes on beyond the head of the
file is cut, but an interpreter must not be. -/
def ofScript? (rest : Bytes) (head : Bytes) : Option Image :=
  if head.contains 0x0A then
    ofLine? (dropSpaces (head.takeWhile (· != 0x0A)).reverse).reverse
  else
    let isWhole := rest.length < headSize - 2
    let line := head.take (headSize - 3)
    if !isWhole && !(dropSpaces head).any isTerminator then none
    else ofLine? (if isWhole then line ++ [0] else (dropSpaces line.reverse).reverse)

def ofBytes? (b : Bytes) : Option Image :=
  match magic.isPrefixOf? b, (Utf8.encode "#!".toList).isPrefixOf? b with
  | some name, _ => some (.native (Utf8.decode name))
  | none, some rest => ofScript? (rest.take headSize) (rest.take (headSize - 2))
  | none, none => none

end Image

end KarelBuild
