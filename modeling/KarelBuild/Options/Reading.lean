import KarelBuild.Options

/-!
# Reading a command line

Words are read from left to right. A setting waits for its value, and takes it over only when the
next word has been recognised: so a setting without a value is found before an option that follows
it takes effect. After `--` every word is an argument.
-/

namespace KarelBuild

/-- Why a command line gives no options. -/
inductive Stop where
  | unknownOption
  | badValue
  | conflict
  | surplusValue
  | help
  | version
  deriving DecidableEq, Repr

namespace Stop

/-- To ask for help or the version is no error. -/
def exitCode : Stop → Int
  | help => 0
  | version => 0
  | _ => 2

end Stop

/-- What an option's name stands for. -/
inductive Meaning where
  | switch (s : Switch)
  | setting (s : Setting)
  | stop (s : Stop)
  deriving DecidableEq, Repr

namespace Meaning

def ofName? (name : Text) : Option Meaning :=
  [ ("verbose", switch .verbose), ("quiet", switch .quiet), ("dry-run", switch .dryRun),
    ("M", switch .dependencies), ("MM", switch .userDependencies),
    ("MG", switch .tolerateMissing), ("MP", switch .phonyTargets),
    ("MT", setting .target), ("MF", setting .dependencyFile), ("ktrans", setting .translator),
    ("gpp", setting .preprocessor), ("config", setting .config),
    ("help", stop .help), ("version", stop .version) ].lookup (String.ofList name)

def ofLetter? (letter : Char) : Option Meaning :=
  [ ('v', switch .verbose), ('q', switch .quiet), ('d', switch .dryRun),
    ('I', setting .includeDir), ('h', stop .help), ('V', stop .version) ].lookup letter

end Meaning

/-- Options read so far, and the setting that waits with the value it will get. -/
structure Reading where
  options : Options := {}
  waiting : Option (Setting × Option Text) := none
  deriving DecidableEq, Repr

namespace Options

/-- A path must not be empty, and only a repeatable setting may be given twice. -/
def give (o : Options) (s : Setting) (value : Text) : Except Stop Options :=
  if !s.isRepeatable && (o.value? s).isSome then .error .conflict
  else if s.isPath && value = [] then .error .badValue
  else .ok { o with values := o.values ++ [(s, value)] }

def turnOn (o : Options) (s : Switch) : Except Stop Options :=
  if o.isOn s then .error .conflict else .ok { o with switches := o.switches ++ [s] }

def addArg (o : Options) (arg : Text) : Options := { o with args := o.args ++ [arg] }

end Options

namespace Reading

def of (o : Options) : Reading := ⟨o, none⟩

/-- Give the waiting setting its value. -/
def settle (r : Reading) : Except Stop Options :=
  match r.waiting with
  | none => .ok r.options
  | some (_, none) => .error .badValue
  | some (s, some value) => r.options.give s value

/-- A word that is no option: the value that is waited for, or else an argument. -/
def plain (r : Reading) (word : Text) : Except Stop Reading :=
  match r.waiting with
  | some (s, none) => .ok { r with waiting := some (s, some word) }
  | _ => r.settle.map fun o => .of (o.addArg word)

def await (r : Reading) (s : Setting) : Except Stop Reading :=
  r.settle.map fun o => ⟨o, some (s, none)⟩

def give (r : Reading) (s : Setting) (value : Text) : Except Stop Reading := do
  return .of (← (← r.settle).give s value)

def turnOn (r : Reading) (s : Switch) : Except Stop Reading := do
  return .of (← (← r.settle).turnOn s)

def stop (r : Reading) (s : Stop) : Except Stop Reading := do
  let _ ← r.settle
  throw s

/-! ## Words -/

/-- A long option; its value may follow an `=`. -/
def long (r : Reading) (word : Text) : Except Stop Reading :=
  let (name, value) := Text.cut '=' word
  match Meaning.ofName? name, value with
  | none, _ => .error .unknownOption
  | some (.setting s), some value => r.give s value
  | some (.setting s), none => r.await s
  | some _, some _ => .error .surplusValue
  | some (.switch s), none => r.turnOn s
  | some (.stop s), none => r.stop s

def dropEquals : Text → Text
  | '=' :: value => value
  | value => value

/-- Letters after one dash; a setting takes the rest of the word if there is any. -/
def letters (r : Reading) : Text → Except Stop Reading
  | [] => .ok r
  | c :: rest =>
    match Meaning.ofLetter? c with
    | none => .error .unknownOption
    | some (.switch s) => r.turnOn s >>= fun r => letters r rest
    | some (.stop s) => r.stop s
    | some (.setting s) => if rest = [] then r.await s else r.give s (dropEquals rest)

def word (r : Reading) : Text → Except Stop Reading
  | '-' :: '-' :: w => r.long w
  | '-' :: c :: w => r.letters (c :: w)
  | w => r.plain w

/-- After the separator no value is waited for any more. -/
def argument (r : Reading) (w : Text) : Except Stop Reading :=
  r.settle.map fun o => .of (o.addArg w)

def words (r : Reading) : List Text → Except Stop Reading
  | [] => .ok r
  | w :: ws => if w = "--".toList then ws.foldlM argument r else r.word w >>= fun r => words r ws

end Reading

/-! ## The whole line -/

namespace Options

/-- Take a value from the environment for a setting that the command line leaves open. -/
def orElseGive (o : Options) (s : Setting) (value : Option Text) : Except Stop Options :=
  match o.value? s, value with
  | none, some value => o.give s value
  | _, _ => .ok o

def refuseConflict (o : Options) : Except Stop Options :=
  if o.isOn .verbose && o.isOn .quiet then .error .conflict else .ok o

/-- The options of a command line in common spelling, the program's name included. -/
def ofLine (var? : String → Option Text) (line : List Text) : Except Stop Options := do
  let reading ← Reading.words {} line.tail
  let o ← reading.settle
  let o ← o.orElseGive .translator (var? "KTRANSW_KTRANS")
  let o ← o.orElseGive .preprocessor (var? "KTRANSW_GPP")
  o.refuseConflict

end Options

end KarelBuild
