import KarelBuild.Host
import KarelBuild.Image

/-!
# A standard host

The files that every host has: the installed programs, the devices, what describes the system, and the
directories for temporary files.
-/

namespace KarelBuild.Host

/-- The programs in `/usr/bin`, which `/bin` leads to. -/
def installedPrograms : List Text :=
  ["[", "addpart", "arch", "b2sum", "base32", "base64", "basename", "basenc", "bash", "cat", "chage", "chattr",
   "chcon", "chfn", "chgrp", "chmod", "choom", "chown", "chrt", "chsh", "cksum", "clear", "cmp", "comm", "cp",
   "csplit", "cut", "dash", "date", "dd", "debconf", "df", "diff", "diff3", "dir", "dircolors", "dirname",
   "dmesg", "dpkg", "dpkg-deb", "dpkg-query", "dpkg-split", "du", "echo", "egrep", "env", "expand", "expiry",
   "expr", "factor", "fallocate", "false", "fgrep", "fincore", "find", "findmnt", "flock", "fmt", "fold",
   "getconf", "getent", "getopt", "gpasswd", "grep", "groups", "gunzip", "gzexe", "gzip", "hardlink", "head",
   "hostid", "hostname", "iconv", "id", "infocmp", "install", "ionice", "ipcmk", "ipcrm", "ipcs", "ischroot",
   "join", "kill", "last", "ldd", "link", "ln", "locale", "localedef", "logger", "login", "logname", "ls",
   "lsattr", "lsblk", "lscpu", "lsipc", "lslocks", "lslogins", "lsmem", "lsns", "mawk", "mcookie", "md5sum",
   "mesg", "mkdir", "mkfifo", "mknod", "mktemp", "more", "mount", "mountpoint", "mv", "namei", "newgrp", "nice",
   "nl", "nohup", "nproc", "nsenter", "numfmt", "od", "partx", "passwd", "paste", "pathchk", "perl",
   "pidof", "pinky", "pr", "printenv", "printf", "prlimit", "ps", "ptx", "pwd", "readlink", "realpath",
   "renice", "rev", "rgrep", "rm", "rmdir", "run-parts", "runcon", "savelog", "script", "sdiff", "sed", "seq",
   "setpriv", "setsid", "setterm", "sha1sum", "sha224sum", "sha256sum", "sha384sum", "sha512sum", "shred",
   "shuf", "sleep", "sort", "split", "stat", "stdbuf", "stty", "su", "sum", "sync", "tabs", "tac", "tail",
   "tar", "taskset", "tee", "test", "tic", "timeout", "toe", "touch", "tput", "tr", "true", "truncate", "tset",
   "tsort", "tty", "tzselect", "umount", "uname", "uncompress", "unexpand", "uniq", "unlink", "unshare",
   "users", "vdir", "wall", "wc", "wdctl", "whereis", "which", "who", "whoami", "xargs", "yes", "zcat",
   "zcmp", "zdiff", "zdump", "zegrep", "zfgrep", "zforce", "zgrep", "zless", "zmore", "znew"].map String.toList

/-- Names in `/usr/bin` that lead to other programs. -/
def programLinks : List (Text × Path) :=
  [("sh", "dash"), ("rbash", "bash"), ("awk", "/etc/alternatives/awk"), ("nawk", "/etc/alternatives/nawk"),
   ("dnsdomainname", "hostname"), ("domainname", "hostname"), ("lastb", "last"), ("reset", "tset"),
   ("sg", "newgrp")].map fun ((a : String), (b : String)) => (a.toList, b.toList)

def placeOf (path : String) : Place := Path.pieces path.toList

def directories : List Place :=
  ["/tmp", "/dev", "/usr", "/usr/bin", "/usr/games", "/usr/include", "/usr/lib", "/usr/lib64", "/usr/libexec",
   "/usr/local", "/usr/local/bin", "/usr/local/etc", "/usr/local/games", "/usr/local/include",
   "/usr/local/lib", "/usr/local/sbin", "/usr/local/share", "/usr/local/src", "/usr/sbin", "/usr/share",
   "/usr/src", "/boot", "/etc", "/etc/alternatives", "/etc/default", "/etc/profile.d", "/etc/skel", "/home",
   "/media", "/mnt", "/opt", "/proc", "/proc/self", "/proc/self/fd", "/root", "/run", "/run/lock", "/srv",
   "/sys", "/var", "/var/backups", "/var/cache", "/var/lib", "/var/local", "/var/log", "/var/mail", "/var/opt",
   "/var/spool", "/var/tmp", "/dev/shm", "/dev/pts"].map placeOf

def accounts : List String :=
  ["root:x:0:0:root:/root:/bin/bash", "daemon:x:1:1:daemon:/usr/sbin:/usr/sbin/nologin",
   "bin:x:2:2:bin:/bin:/usr/sbin/nologin", "sys:x:3:3:sys:/dev:/usr/sbin/nologin",
   "sync:x:4:65534:sync:/bin:/bin/sync", "games:x:5:60:games:/usr/games:/usr/sbin/nologin",
   "man:x:6:12:man:/var/cache/man:/usr/sbin/nologin", "lp:x:7:7:lp:/var/spool/lpd:/usr/sbin/nologin",
   "mail:x:8:8:mail:/var/mail:/usr/sbin/nologin", "news:x:9:9:news:/var/spool/news:/usr/sbin/nologin",
   "uucp:x:10:10:uucp:/var/spool/uucp:/usr/sbin/nologin", "proxy:x:13:13:proxy:/bin:/usr/sbin/nologin",
   "www-data:x:33:33:www-data:/var/www:/usr/sbin/nologin",
   "backup:x:34:34:backup:/var/backups:/usr/sbin/nologin",
   "list:x:38:38:Mailing List Manager:/var/list:/usr/sbin/nologin",
   "irc:x:39:39:ircd:/run/ircd:/usr/sbin/nologin", "_apt:x:42:65534::/nonexistent:/usr/sbin/nologin",
   "nobody:x:65534:65534:nobody:/nonexistent:/usr/sbin/nologin"]

/-- Accounts and groups by name and number. -/
def accountNumbers : List (Text × Nat) :=
  [("root", 0), ("daemon", 1), ("bin", 2), ("sys", 3), ("sync", 4), ("games", 5), ("man", 6), ("lp", 7),
   ("mail", 8), ("news", 9), ("uucp", 10), ("proxy", 13), ("www-data", 33), ("backup", 34), ("list", 38),
   ("irc", 39), ("_apt", 42), ("nobody", 65534)].map fun ((n : String), k) => (n.toList, k)

def groupNumbers : List (Text × Nat) :=
  [("root", 0), ("daemon", 1), ("bin", 2), ("sys", 3), ("adm", 4), ("tty", 5), ("disk", 6), ("lp", 7),
   ("mail", 8), ("news", 9), ("uucp", 10), ("man", 12), ("proxy", 13), ("kmem", 15), ("dialout", 20),
   ("fax", 21), ("voice", 22), ("cdrom", 24), ("floppy", 25), ("tape", 26), ("sudo", 27), ("audio", 29),
   ("dip", 30), ("www-data", 33), ("backup", 34), ("operator", 37), ("list", 38), ("irc", 39), ("src", 40),
   ("shadow", 42), ("utmp", 43), ("video", 44), ("sasl", 45), ("plugdev", 46), ("staff", 50), ("games", 60),
   ("users", 100), ("nogroup", 65534)].map fun ((n : String), k) => (n.toList, k)

/-- Text files of the system, by their lines. -/
def systemFiles : List (String × List Text) :=
  [("/etc/passwd", accounts.map String.toList),
   ("/etc/group", groupNumbers.map fun (n, k) => n ++ ":x:".toList ++ Text.ofNat k ++ [':']),
   ("/etc/shadow", accountNumbers.map fun (n, _) => n ++ ":*:19700:0:99999:7:::".toList),
   ("/etc/hosts", ["127.0.0.1\tlocalhost", "::1\tlocalhost ip6-localhost ip6-loopback"].map String.toList),
   ("/etc/hostname", ["localhost".toList]),
   ("/etc/shells", ["# /etc/shells: valid login shells", "/bin/sh", "/usr/bin/sh", "/bin/bash",
     "/usr/bin/bash", "/bin/rbash", "/usr/bin/rbash", "/bin/dash", "/usr/bin/dash"].map String.toList),
   ("/etc/resolv.conf", ["nameserver 127.0.0.1".toList]),
   ("/etc/nsswitch.conf", ["passwd:         files", "group:          files"].map String.toList),
   ("/etc/fstab", ["# UNCONFIGURED FSTAB FOR BASE SYSTEM".toList]),
   ("/etc/issue", ["Debian GNU/Linux 12 \\n \\l".toList, []]),
   ("/etc/debian_version", ["12.5".toList]),
   ("/etc/os-release", ["PRETTY_NAME=\"Debian GNU/Linux 12 (bookworm)\"", "NAME=\"Debian GNU/Linux\"",
     "VERSION_ID=\"12\"", "VERSION=\"12 (bookworm)\"", "VERSION_CODENAME=bookworm", "ID=debian"].map
     String.toList),
   ("/etc/profile", ["# /etc/profile: system-wide .profile file".toList]),
   ("/etc/bash.bashrc", ["# System-wide .bashrc file for interactive shells.".toList]),
   ("/etc/environment", []), ("/etc/login.defs", ["UMASK\t\t022".toList]),
   ("/proc/version", ["Linux version 6.1.0".toList]), ("/proc/uptime", ["1000.00 1000.00".toList]),
   ("/proc/self/status", ["Name:\tcat".toList]), ("/proc/self/comm", ["cat".toList]),
   ("/proc/filesystems", ["nodev\tproc".toList]), ("/proc/mounts", ["overlay / overlay rw 0 0".toList])]

/-- Links outside the directory of the programs. -/
def systemLinks : List (String × String) :=
  [("/bin", "usr/bin"), ("/sbin", "usr/sbin"), ("/lib", "usr/lib"), ("/lib64", "usr/lib64"),
   ("/var/run", "/run"), ("/var/lock", "/run/lock"), ("/etc/mtab", "/proc/mounts"),
   ("/etc/alternatives/awk", "/usr/bin/mawk"), ("/etc/alternatives/nawk", "/usr/bin/mawk"),
   ("/dev/fd", "/proc/self/fd"), ("/dev/stdin", "/proc/self/fd/0"), ("/dev/stdout", "/proc/self/fd/1"),
   ("/dev/stderr", "/proc/self/fd/2")]

/-- How many descriptors can be reached by a name. -/
def namedDescriptors : Nat := 64

def devices : List (Place × Device) :=
  [("/dev/null", .null), ("/dev/zero", .zero), ("/dev/full", .full), ("/dev/random", .zero),
   ("/dev/urandom", .zero), ("/dev/tty", .terminal)].map (fun ((p : String), d) => (placeOf p, d)) ++
    (List.range namedDescriptors).map fun n =>
      (placeOf "/proc/self/fd" ++ [Text.ofNat n], Device.descriptor n)

def standardTree : FileTree :=
  let bin := placeOf "/usr/bin"
  let file (lines : List Text) : Entry := .file (Utf8.encode (lines.flatMap (· ++ ['\n']))) false
  ⟨directories.map (·, .dir) ++
    installedPrograms.map (fun n => (bin ++ [n], .file (Image.native n).bytes true)) ++
    programLinks.map (fun (n, target) => (bin ++ [n], .link target)) ++
    systemFiles.map (fun (p, lines) => (placeOf p, file lines)) ++
    systemLinks.map (fun (p, target) => (placeOf p, .link target.toList)) ++
    devices.map fun (p, d) => (p, .device d)⟩

def standardPath : Text :=
  "/usr/local/sbin:/usr/local/bin:/usr/sbin:/usr/bin:/sbin:/bin".toList

end KarelBuild.Host
