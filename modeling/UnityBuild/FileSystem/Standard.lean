import UnityBuild.FileSystem.Write

/-!
# The standard tree

The directories, links and devices that a system has before anything else is put into it. The
descriptors of a program are devices of their own, to which the usual names of its streams lead.

Main definition: `FileSystem.standard`.
-/

namespace UnityBuild.FileSystem

/-- The directories that are always there, each behind the one that it is in. -/
def standardDirectories : List Location :=
  [["boot"], ["dev"], ["dev", "pts"], ["dev", "shm"], ["etc"], ["etc", "default"], ["home"],
    ["media"], ["mnt"], ["opt"], ["proc"], ["proc", "self"], ["proc", "self", "fd"], ["root"],
    ["run"], ["srv"], ["sys"], ["tmp"], ["usr"], ["usr", "bin"], ["usr", "games"],
    ["usr", "include"], ["usr", "lib"], ["usr", "lib64"], ["usr", "libexec"], ["usr", "local"],
    ["usr", "local", "bin"], ["usr", "local", "etc"], ["usr", "local", "games"],
    ["usr", "local", "include"], ["usr", "local", "lib"], ["usr", "local", "sbin"],
    ["usr", "local", "share"], ["usr", "local", "src"], ["usr", "sbin"], ["usr", "share"],
    ["usr", "src"], ["var"], ["var", "backups"], ["var", "cache"], ["var", "lib"],
    ["var", "local"], ["var", "log"], ["var", "mail"], ["var", "opt"], ["var", "spool"],
    ["var", "tmp"]]

/-- The links that are always there. -/
def standardLinks : List (Location × String) :=
  [(["bin"], "usr/bin"), (["sbin"], "usr/sbin"), (["lib"], "usr/lib"), (["lib64"], "usr/lib64"),
    (["var", "run"], "/run"), (["var", "lock"], "/run/lock"), (["dev", "fd"], "/proc/self/fd"),
    (["dev", "stdin"], "/proc/self/fd/0"), (["dev", "stdout"], "/proc/self/fd/1"),
    (["dev", "stderr"], "/proc/self/fd/2"), (["usr", "local", "man"], "share/man")]

/-- The devices that are always there. -/
def standardDevices : List (Location × Device) :=
  [(["dev", "null"], .null), (["dev", "zero"], .zero), (["dev", "random"], .zero),
    (["dev", "urandom"], .zero), (["dev", "full"], .full), (["dev", "tty"], .terminal),
    (["proc", "self", "fd", "0"], .descriptor 0), (["proc", "self", "fd", "1"], .descriptor 1),
    (["proc", "self", "fd", "2"], .descriptor 2)]

/-- The files that are always there, by their texts. -/
def standardFiles : List (Location × String) :=
  [(["etc", "passwd"], "root:x:0:0:root:/root:/bin/bash\n"), (["etc", "group"], "root:x:0:\n"),
    (["etc", "hostname"], "localhost\n"), (["etc", "hosts"], "127.0.0.1\tlocalhost\n"),
    (["etc", "shells"], "/bin/sh\n"), (["etc", "profile"], "")]

/-- The file system in which nothing but the standard tree is. -/
def standard : FileSystem :=
  { entries :=
      standardDirectories.map (fun place => (place, .directory)) ++
        standardLinks.map (fun (place, target) => (place, .link target)) ++
        standardDevices.map (fun (place, device) => (place, .device device)) ++
        standardFiles.map (fun (place, text) => (place, .file (Text.encode text) .ofNew))
    workingDirectory := [] }

end UnityBuild.FileSystem
