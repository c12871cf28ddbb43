import KarelBuild.Shell.Process

/-!
# Switches

The options of a shell, which a letter or a name turns on and off, and the habits that only the rich
dialect has.
-/

namespace KarelBuild.Shell

/-- An option: the letter that it is kept under, its name, and whether it is on while the letter is not there. -/
structure Switch where
  code : Char
  name : String
  /-- Whether the letter may be used for it. -/
  hasLetter : Bool := true
  isUsual : Bool := false

namespace Switch

/-- The options of the plain dialect in the order in which they are listed. -/
def plain : List Switch :=
  [⟨'e', "errexit", true, false⟩, ⟨'f', "noglob", true, false⟩, ⟨'I', "ignoreeof", true, false⟩,
    ⟨'i', "interactive", true, false⟩, ⟨'m', "monitor", true, false⟩, ⟨'n', "noexec", true, false⟩,
    ⟨'s', "stdin", true, false⟩, ⟨'x', "xtrace", true, false⟩, ⟨'v', "verbose", true, false⟩,
    ⟨'V', "vi", true, false⟩, ⟨'E', "emacs", true, false⟩, ⟨'C', "noclobber", true, false⟩,
    ⟨'a', "allexport", true, false⟩, ⟨'b', "notify", true, false⟩, ⟨'u', "nounset", true, false⟩,
    ⟨'p', "privileged", true, false⟩, ⟨'\x00', "nolog", false, false⟩, ⟨'\x01', "debug", false, false⟩]

/-- What a pipeline of which a stage fails does. -/
def pipefail : Char := '\x02'

/-- Braces are left alone. -/
def noBraces : Char := '\x03'

/-- Calls take over the trap for failures. -/
def errtrace : Char := '\x04'

/-- Calls take over the traps for commands and for the end of calls. -/
def functrace : Char := '\x05'

/-- Links are followed when the directory changes. -/
def physical : Char := 'P'

/-- The options of the rich dialect. -/
def rich : List Switch :=
  [⟨'a', "allexport", true, false⟩, ⟨noBraces, "braceexpand", false, true⟩, ⟨'\x06', "emacs", false, false⟩,
    ⟨'e', "errexit", true, false⟩, ⟨errtrace, "errtrace", false, false⟩,
    ⟨functrace, "functrace", false, false⟩, ⟨'\x07', "hashall", false, true⟩,
    ⟨'\x08', "histexpand", false, false⟩, ⟨'\x0e', "history", false, false⟩,
    ⟨'\x0f', "ignoreeof", false, false⟩, ⟨'\x10', "interactive-comments", false, true⟩,
    ⟨'k', "keyword", true, false⟩, ⟨'m', "monitor", true, false⟩, ⟨'C', "noclobber", true, false⟩,
    ⟨'n', "noexec", true, false⟩, ⟨'f', "noglob", true, false⟩, ⟨'\x11', "nolog", false, false⟩,
    ⟨'b', "notify", true, false⟩, ⟨'u', "nounset", true, false⟩, ⟨'t', "onecmd", true, false⟩,
    ⟨physical, "physical", true, false⟩, ⟨pipefail, "pipefail", false, false⟩,
    ⟨'\x12', "posix", false, false⟩, ⟨'p', "privileged", true, false⟩, ⟨'v', "verbose", true, false⟩,
    ⟨'\x13', "vi", false, false⟩, ⟨'x', "xtrace", true, false⟩]

/-- Letters of the rich dialect for options that are kept under others. -/
def otherLetters : List (Char × Char) :=
  [('B', noBraces), ('E', errtrace), ('T', functrace), ('h', '\x07'), ('H', '\x08')]

def all (d : Dialect) : List Switch :=
  match d with
  | .plain => plain
  | .rich => rich

def named? (d : Dialect) (name : Text) : Option Switch := (all d).find? (·.name.toList == name)

def ofLetter? (d : Dialect) (c : Char) : Option Switch :=
  match d, otherLetters.lookup c with
  | .rich, some code => rich.find? (·.code == code)
  | d, _ => (all d).find? fun o => o.hasLetter && o.code == c

def isOn (o : Switch) (p : Process) : Bool := p.options.contains o.code != o.isUsual

/-- The process with an option turned on or off. -/
def put (o : Switch) (on : Bool) (p : Process) : Process :=
  let others := p.options.filter (· != o.code)
  { p with options := if on != o.isUsual then o.code :: others else others }

/-- Letters of the options that are on, in the order in which they are told. -/
def letters (p : Process) : Octets :=
  match p.dialect with
  | .plain => (plain.reverse.filter fun o => o.hasLetter && o.isOn p).map (·.code)
  | .rich => "abefhkmnptuvxBCEHPTcs".toList.filter fun c =>
      if c = 'c' ∨ c = 's' then p.options.contains c else (ofLetter? .rich c).any (·.isOn p)

/-- Habits of the rich dialect by their names, and whether they are usual. -/
def habits : List (String × Bool) :=
  [("autocd", false), ("assoc_expand_once", false), ("cdable_vars", false), ("cdspell", false),
    ("checkhash", false), ("checkjobs", false), ("checkwinsize", true), ("cmdhist", true),
    ("compat31", false), ("compat32", false), ("compat40", false), ("compat41", false), ("compat42", false),
    ("compat43", false), ("compat44", false), ("complete_fullquote", true), ("direxpand", false),
    ("dirspell", false), ("dotglob", false), ("execfail", false), ("expand_aliases", false),
    ("extdebug", false), ("extglob", false), ("extquote", true), ("failglob", false),
    ("force_fignore", true), ("globasciiranges", true), ("globskipdots", true), ("globstar", false),
    ("gnu_errfmt", false), ("histappend", false), ("histreedit", false), ("histverify", false),
    ("hostcomplete", true), ("huponexit", false), ("inherit_errexit", false), ("interactive_comments", true),
    ("lastpipe", false), ("lithist", false), ("localvar_inherit", false), ("localvar_unset", false),
    ("login_shell", false), ("mailwarn", false), ("no_empty_cmd_completion", false), ("nocaseglob", false),
    ("nocasematch", false), ("noexpand_translation", false), ("nullglob", false),
    ("patsub_replacement", true), ("progcomp", true), ("progcomp_alias", false), ("promptvars", true),
    ("restricted_shell", false), ("shift_verbose", false), ("sourcepath", true), ("varredir_close", false),
    ("xpg_echo", false)]

def usualHabits : List Text := (habits.filter (·.2)).map (·.1.toList)

/-- Names with colons in between. -/
def joined (names : List String) : Octets := Text.join [':'] (names.map String.toList)

def namesOn (p : Process) : Octets := joined ((rich.filter (·.isOn p)).map (·.name))

def habitsOn (p : Process) : Octets :=
  joined ((habits.filter fun h => p.habits.contains h.1.toList).map (·.1))

end Switch

end KarelBuild.Shell
