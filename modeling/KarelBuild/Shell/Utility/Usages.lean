import KarelBuild.Text.Utf8

/-!
# What utilities say of themselves

A utility that is asked for its version or for help names itself, or shows how it is called.
-/

namespace KarelBuild.Shell.Utility

/-- Utilities that belong to other collections than most, each with its collection and version. -/
def collections : List (String × String) :=
  [("sed", "(GNU sed) 4.9"), ("grep", "(GNU grep) 3.8"), ("find", "(GNU findutils) 4.9.0"),
    ("xargs", "(GNU findutils) 4.9.0"), ("cmp", "(GNU diffutils) 3.8"), ("diff", "(GNU diffutils) 3.8"),
    ("diff3", "(GNU diffutils) 3.8"), ("sdiff", "(GNU diffutils) 3.8"), ("dd", "(coreutils) 9.1"),
    ("tar", "(GNU tar) 1.34"), ("gzip", "1.12"), ("rev", "from util-linux 2.38.1"), ("getopt", "from util-linux 2.38.1"),
    ("flock", "from util-linux 2.38.1"), ("setsid", "from util-linux 2.38.1"), ("kill", "from procps-ng 4.0.2"),
    ("hostname", "3.23")]

def versionLine (name : Octets) : Octets :=
  let place := ((collections.map fun (n, c) => (n.toList, c)).lookup name).getD "(GNU coreutils) 9.1"
  name ++ ' ' :: place.toList ++ ['\n']

/-- What may follow the names of utilities that take something else than options and files. -/
def usages : List (String × String) :=
  [("arch", "[OPTION]..."), ("base32", "[OPTION]... [FILE]"), ("base64", "[OPTION]... [FILE]"),
    ("basenc", "[OPTION]... [FILE]"), ("basename", "NAME [SUFFIX]"), ("chgrp", "[OPTION]... GROUP FILE..."),
    ("chmod", "[OPTION]... MODE[,MODE]... FILE..."), ("chown", "[OPTION]... [OWNER][:[GROUP]] FILE..."),
    ("cmp", "[OPTION]... FILE1 [FILE2 [SKIP1 [SKIP2]]]"), ("comm", "[OPTION]... FILE1 FILE2"),
    ("cp", "[OPTION]... [-T] SOURCE DEST"), ("csplit", "[OPTION]... FILE PATTERN..."),
    ("cut", "OPTION... [FILE]..."), ("date", "[OPTION]... [+FORMAT]"), ("dd", "[OPERAND]..."),
    ("diff", "[OPTION]... FILES"), ("dirname", "[OPTION] NAME..."), ("echo", "[SHORT-OPTION]... [STRING]..."),
    ("env", "[OPTION]... [-] [NAME=VALUE]... [COMMAND [ARG]...]"), ("expr", "EXPRESSION"),
    ("factor", "[OPTION] [NUMBER]..."), ("false", "[ignored command line arguments]"),
    ("find", "[-H] [-L] [-P] [-Olevel] [-D debugopts] [path...] [expression]"),
    ("grep", "[OPTION]... PATTERNS [FILE]..."), ("groups", "[OPTION]... [USERNAME]..."),
    ("id", "[OPTION]... [USER]..."), ("install", "[OPTION]... [-T] SOURCE DEST"),
    ("join", "[OPTION]... FILE1 FILE2"), ("link", "FILE1 FILE2"), ("ln", "[OPTION]... [-T] TARGET LINK_NAME"),
    ("logname", "[OPTION]"), ("mkdir", "[OPTION]... DIRECTORY..."), ("mkfifo", "[OPTION]... NAME..."),
    ("mktemp", "[OPTION]... [TEMPLATE]"), ("mv", "[OPTION]... [-T] SOURCE DEST"),
    ("nice", "[OPTION] [COMMAND [ARG]...]"), ("nohup", "COMMAND [ARG]..."), ("nproc", "[OPTION]..."),
    ("numfmt", "[OPTION]... [NUMBER]..."), ("pathchk", "[OPTION]... NAME..."),
    ("printenv", "[OPTION]... [VARIABLE]..."), ("printf", "FORMAT [ARGUMENT]..."), ("pwd", "[OPTION]..."),
    ("readlink", "[OPTION]... FILE..."), ("realpath", "[OPTION]... FILE..."), ("rev", "[options] [file ...]"),
    ("rmdir", "[OPTION]... DIRECTORY..."), ("seq", "[OPTION]... LAST"), ("shred", "[OPTION]... FILE..."),
    ("sed", "[OPTION]... \x7bscript-only-if-no-other-script\x7d [input-file]..."), ("shuf", "[OPTION]... [FILE]"),
    ("sleep", "NUMBER[SUFFIX]..."), ("split", "[OPTION]... [FILE [PREFIX]]"), ("stat", "[OPTION]... FILE..."),
    ("stdbuf", "OPTION... COMMAND"), ("sync", "[OPTION] [FILE]..."), ("tar", "[OPTION...] [FILE]..."),
    ("timeout", "[OPTION] DURATION COMMAND [ARG]..."), ("touch", "[OPTION]... FILE..."),
    ("tr", "[OPTION]... STRING1 [STRING2]"), ("true", "[ignored command line arguments]"),
    ("truncate", "OPTION... FILE..."), ("tsort", "[OPTION] [FILE]"), ("tty", "[OPTION]..."),
    ("uname", "[OPTION]..."), ("uniq", "[OPTION]... [INPUT [OUTPUT]]"), ("unlink", "FILE"),
    ("users", "[OPTION]... [FILE]"), ("who", "[OPTION]... [ FILE | ARG1 ARG2 ]"), ("whoami", "[OPTION]..."),
    ("xargs", "[OPTION]... COMMAND [INITIAL-ARGS]..."), ("yes", "[STRING]...")]

def usageLine (name : Octets) : Octets :=
  let shown := if name = ['['] then "test".toList else name
  let rest := if name = ['['] then "EXPRESSION"
    else ((usages.map fun (n, u) => (n.toList, u)).lookup name).getD "[OPTION]... [FILE]..."
  "Usage: ".toList ++ shown ++ ' ' :: rest.toList ++ ['\n']

end KarelBuild.Shell.Utility
