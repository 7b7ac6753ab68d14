import Suite.Host.FileTree
import Suite.Text.Utf8

/-!
# What stands on every machine

Before anything else is put there, a machine has the directories of its system, names that lead
from old places to new ones, devices, and programs: `FileTree.furnished`. Its own files are texts
that say how it is set up, which `FileTree.base` has too.
-/

namespace Suite.Host

/-- The place that a path from the root names. -/
def Location.ofText (path : String) : Location := Location.follow [] ⟨path⟩

/-- The directories of the system. -/
def baseDirectories : List String :=
  ["boot", "dev", "etc", "home", "media", "mnt", "opt", "proc", "proc/1", "proc/self",
   "proc/self/fd", "root", "run", "srv", "sys", "tmp", "usr", "usr/bin", "usr/lib", "usr/lib64",
   "usr/local", "usr/local/bin", "usr/sbin", "usr/share", "var", "var/lib", "var/log", "var/tmp"]

/-- Names that lead elsewhere. -/
def baseLinks : List (String × String) :=
  [("bin", "usr/bin"), ("lib", "usr/lib"), ("lib64", "usr/lib64"), ("sbin", "usr/sbin"),
   ("usr/bin/sh", "usr/bin/dash"), ("var/run", "run"), ("dev/fd", "proc/self/fd"),
   ("dev/stdin", "dev/null"), ("dev/stdout", "dev/null"), ("dev/stderr", "dev/null"),
   ("proc/self/fd/0", "dev/null"), ("proc/self/fd/1", "dev/null"),
   ("proc/self/fd/2", "dev/null")]

/-- The devices. -/
def baseDevices : List (String × Device) :=
  [("dev/null", .null), ("dev/zero", .null), ("dev/random", .null), ("dev/urandom", .null),
   ("dev/full", .full), ("dev/tty", .terminal)]

/-- The programs that the machine runs by itself. -/
def basePrograms : List String :=
  ["basename", "cat", "dash", "echo", "env", "false", "ls", "printf", "pwd", "true"]

/-- The program whose process starts all others. -/
def firstProgram : String := "bf-suite"

/-- The files with texts that say how the machine is set up, as lines. -/
def baseTexts : List (String × List String) :=
  [("etc/passwd", ["root:x:0:0:root:/root:/bin/bash"]), ("etc/group", ["root:x:0:"]),
   ("etc/hosts", ["127.0.0.1\tlocalhost"]), ("etc/hostname", ["localhost"])]

namespace FileTree

/-- A tree with the directories, links, devices and programs of the system. -/
def furnished : FileTree :=
  let t := baseDirectories.foldl (fun t d => t.makeDirectories (Location.ofText d)) empty
  let t := baseDevices.foldl (fun t (p, d) => t.put (Location.ofText p) (.device d)) t
  let t := basePrograms.foldl (fun t p => t.put ["usr", "bin", p] (.program p)) t
  let t := t.put ["proc", "1", "exe"] (.program firstProgram)
  let links := baseLinks.map fun (p, q) => (Location.ofText p, Location.ofText q)
  { t with links, sealed := [["proc"]] }

/-- A tree with all that stands on every machine. -/
def base : FileTree :=
  baseTexts.foldl
    (fun t (p, lines) =>
      t.put (Location.ofText p) (.file (Text.encode (String.join (lines.map (· ++ "\n")))) false))
    furnished

end FileTree

end Suite.Host
