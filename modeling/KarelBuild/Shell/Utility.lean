import KarelBuild.Shell.Utility.Archiving
import KarelBuild.Shell.Utility.Arranging
import KarelBuild.Shell.Utility.Blocks
import KarelBuild.Shell.Utility.Collecting
import KarelBuild.Shell.Utility.Comparing
import KarelBuild.Shell.Utility.Compressing
import KarelBuild.Shell.Utility.Dividing
import KarelBuild.Shell.Utility.Edit
import KarelBuild.Shell.Utility.Calculating
import KarelBuild.Shell.Utility.Facts
import KarelBuild.Shell.Utility.Filling
import KarelBuild.Shell.Utility.Finding
import KarelBuild.Shell.Utility.Joining
import KarelBuild.Shell.Utility.Measuring
import KarelBuild.Shell.Utility.Ordering
import KarelBuild.Shell.Utility.Records
import KarelBuild.Shell.Utility.Scaling
import KarelBuild.Shell.Utility.Search
import KarelBuild.Shell.Utility.Sorting
import KarelBuild.Shell.Utility.Checksums
import KarelBuild.Shell.Utility.Dumping
import KarelBuild.Shell.Utility.Encoding
import KarelBuild.Shell.Utility.Unpacking

/-!
# The utilities by name

The shells apart, these are the programs that are installed on a host and can be run.
-/

namespace KarelBuild.Shell.Utility

def all : List (String × Utility) :=
  [("[", introducing bracket), ("arch", saying "x86_64"), ("awk", Records.awk), ("b2sum", Checksums.b2sum),
    ("base32", Encoding.base32), ("base64", Encoding.base64), ("basename", basename),
    ("basenc", Encoding.basenc), ("cat", cat), ("chgrp", chgrp), ("chmod", chmod), ("chown", chown),
    ("cksum", Checksums.cksum), ("cmp", cmp), ("comm", comm), ("cp", cp), ("csplit", Dividing.csplit),
    ("cut", cut), ("date", date),
    ("dd", introducing dd), ("diff", Comparing.diff), ("dir", listColumns), ("dirname", dirname), ("du", Measuring.du),
    ("echo", introducing echo), ("egrep", Search.egrep), ("env", env), ("expand", expandUtility),
    ("expr", introducing expr), ("factor", factor), ("false", failing), ("fgrep", Search.fgrep), ("find", find),
    ("flock", flock), ("fmt", Filling.fmt), ("fold", fold),
    ("getopt", Arranging.getopt), ("grep", Search.grep), ("groups", groups_),
    ("gunzip", Compressing.gunzip), ("gzip", Compressing.gzip), ("head", head), ("hostname", hostname),
    ("id", accountNumbers), ("install", install), ("join", Joining.join), ("kill", kill),
    ("link", link), ("ln", ln), ("logname", logname), ("ls", ls), ("mawk", Records.awk),
    ("md5sum", Checksums.digestWith Checksums.md5), ("mkdir", mkdir), ("mkfifo", mkfifo), ("mktemp", mktemp),
    ("mv", mv), ("nice", nice), ("nl", nl), ("nohup", nohup), ("nproc", nproc), ("numfmt", Scaling.numfmt),
    ("od", Dumping.od),
    ("paste", paste), ("pathchk", pathchk), ("printenv", printenv), ("printf", introducing printf), ("pwd", pwd),
    ("readlink", readlink), ("realpath", realpath), ("rev", introducing rev), ("rm", rm), ("rmdir", rmdir),
    ("sed", Edit.sed), ("seq", seq), ("setsid", setsid), ("sha1sum", Checksums.digestWith Checksums.sha1),
    ("sha224sum", Checksums.digestWith Checksums.sha224), ("sha256sum", Checksums.digestWith Checksums.sha256),
    ("sha384sum", Checksums.digestWith Checksums.sha384), ("sha512sum", Checksums.digestWith Checksums.sha512),
    ("shuf", Ordering.shuf), ("sleep", sleep), ("sort", sort), ("split", Dividing.split), ("stat", stat),
    ("stdbuf", stdbuf),
    ("sum", Checksums.sum), ("sync", sync), ("tac", tac), ("tail", tail), ("tar", Archiving.tar), ("tee", tee),
    ("test", test), ("timeout", timeout), ("touch", touch), ("tr", tr), ("true", introducing nothing),
    ("truncate", truncate), ("tsort", Ordering.tsort), ("tty", tty), ("uname", uname),
    ("uncompress", Compressing.gunzip), ("unexpand", unexpand), ("uniq", uniq), ("unlink", unlink),
    ("vdir", listLong), ("wc", wc), ("which", which), ("whoami", whoami), ("xargs", Collecting.xargs),
    ("yes", introducing yes), ("zcat", Compressing.zcat), ("zcmp", Unpacking.compareWith "cmp"),
    ("zdiff", Unpacking.compareWith "diff"), ("zegrep", Unpacking.zgrepWith ["-E".toList]),
    ("zfgrep", Unpacking.zgrepWith ["-F".toList]), ("zgrep", Unpacking.zgrepWith [])]

def find? (name : Text) : Option Utility := (all.find? (·.1.toList == name)).map (·.2)

end KarelBuild.Shell.Utility
