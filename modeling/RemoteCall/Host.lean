/-!
# The machine on which a client runs

Places on a machine are named from its root: each name leads from a directory to what stands in it.
A path is a list of names to follow, from the root or from where the client runs.  Along the way an
empty name and a single dot stay at a place, and two dots go back; all of them, too, can only be
followed from a directory.
-/

namespace RemoteCall

/-- What can stand at a place. -/
inductive Occupant
  | directory
  /-- Something on which nobody can listen. -/
  | file
  /-- A server listens there. -/
  | server
  deriving DecidableEq, Repr

/-- What a path leads to. -/
inductive PathEnd
  | missing
  /-- Something on which nobody listens. -/
  | silent
  /-- The path goes through something that is no directory. -/
  | notDirectory
  | listening
  deriving DecidableEq, Repr

/-- A machine.  A place is the list of names that lead to it from the root, the last one first. -/
structure Host where
  /-- Whether numeric addresses can be reached at all. -/
  hasRoute : Bool
  occupant : (place : List String) → Option Occupant
  /-- The place at which paths begin that do not begin at the root. -/
  home : List String

namespace Host

/-- Follows names from a place. -/
def follow (host : Host) (place : List String) : List String → PathEnd
  | [] =>
    match host.occupant place with
    | none => .missing
    | some .server => .listening
    | some _ => .silent
  | name :: rest =>
    match host.occupant place with
    | none => .missing
    | some .directory =>
      if name = "" ∨ name = "." then follow host place rest
      else if name = ".." then follow host (place.drop 1) rest
      else follow host (name :: place) rest
    | some _ => .notDirectory

/-- Follows a path, whose names have slashes between them. -/
def resolve (host : Host) (path : String) : PathEnd :=
  host.follow (if path.startsWith "/" then [] else host.home) (path.splitOn "/")

/-- The directories that stand on every machine. -/
def usualDirectories : List String :=
  ["/bin", "/boot", "/dev", "/dev/fd", "/dev/pts", "/dev/shm", "/etc", "/etc/ssl", "/home", "/lib",
   "/lib64", "/media", "/mnt", "/opt", "/proc", "/proc/1", "/proc/self", "/proc/self/fd",
   "/proc/sys", "/root", "/run", "/sbin", "/srv", "/sys", "/tmp", "/usr", "/usr/bin",
   "/usr/include", "/usr/lib", "/usr/local", "/usr/local/bin", "/usr/sbin", "/usr/share",
   "/usr/src", "/var", "/var/cache", "/var/lib", "/var/log", "/var/tmp"]

/-- The files that stand on every machine. -/
def usualFiles : List String :=
  ["/bin/cat", "/bin/ls", "/bin/sh", "/dev/fd/0", "/dev/fd/1", "/dev/fd/2", "/dev/full",
   "/dev/null", "/dev/ptmx", "/dev/random", "/dev/stderr", "/dev/stdin", "/dev/stdout", "/dev/tty",
   "/dev/urandom", "/dev/zero", "/etc/fstab", "/etc/group", "/etc/hostname", "/etc/hosts",
   "/etc/os-release", "/etc/passwd", "/etc/resolv.conf", "/etc/shadow", "/proc/cpuinfo",
   "/proc/meminfo", "/proc/self/exe", "/proc/self/maps", "/proc/self/status", "/proc/uptime",
   "/proc/version", "/usr/bin/env"]

/-- The path from the root to a place. -/
def pathOf (place : List String) : String :=
  String.join (place.reverse.map fun name => "/" ++ name)

/-- A machine without a network and without servers. -/
def isolated : Host where
  hasRoute := false
  occupant place :=
    let path := pathOf place
    if place.isEmpty || usualDirectories.contains path then some .directory
    else if usualFiles.contains path then some .file
    else none
  home := ["tmp"]

end Host

end RemoteCall
