import KarelBuild.Path

/-!
# Headers

A header is included by the name written in the source. A `Dependency` is such a name with the
path of the file it stands for. `SystemHeaders` lists the names that come with a release of the
translator; names are compared letter by letter.
-/

namespace KarelBuild

/-- A name that was included and what it stands for. A header that is assumed to be generated later
stands for its own name. -/
structure Dependency where
  reference : Text
  path : Path
  isSystem : Bool
  assumedGenerated : Bool
  deriving DecidableEq, Repr

namespace Dependency

def found (reference : Text) (path : Path) (isSystem : Bool) : Dependency :=
  ⟨reference, path, isSystem, false⟩

def generated (reference : Text) (isSystem : Bool) : Dependency :=
  ⟨reference, reference, isSystem, true⟩

end Dependency

/-! ## System headers -/

structure SystemHeaders where
  release : Text
  names : List Text
  deriving DecidableEq, Repr

namespace SystemHeaders

/-- A name given twice counts once. -/
def ofNames (release : Text) (names : List Text) : SystemHeaders :=
  ⟨release, Text.distinct names⟩

def contains (h : SystemHeaders) (name : Text) : Bool := h.names.contains name

def size (h : SystemHeaders) : Nat := h.names.length

def isEmpty (h : SystemHeaders) : Bool := h.names.isEmpty

/-- The headers of release V7.70-1. -/
def standard : SystemHeaders :=
  ofNames "V7.70-1".toList
    (["iosetup.kl", "kldctptx.kl", "kldcutil.kl", "klersys.kl", "klerxmlf.kl", "klevaxdf.kl",
      "klevccdf.kl", "klevkeys.kl", "klevkmsk.kl", "klevksp.kl", "klevtpe.kl", "klevutil.kl",
      "kliosop.kl", "kliotyps.kl", "kliouop.kl", "klrdread.kl", "klrdutil.kl", "kluifdir.kl",
      "passcons.kl", "ppedef.kl", "runform.kl", "sledef.kl"].map String.toList)

end SystemHeaders

end KarelBuild
