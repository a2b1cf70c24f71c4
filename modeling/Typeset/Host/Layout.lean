import Typeset.FileSystem.Change
import Typeset.Host
import Typeset.Path.Posix

/-!
Layouts: the files of a host, laid out before anything runs on it. A plain host has the usual tools and
nothing else; a listing adds directories, files and links below a directory.
-/

namespace Typeset

open Text Utf8

/-- Entries that are to be made below a directory, in the order of the fields. -/
structure Listing where
  directories : List String
  files : List (String × Bytes × Nat)
  links : List (String × String)

namespace FileSystem

def usualTools : List String :=
  ["sh", "dash", "bash", "sleep", "cat", "rm", "env", "printenv", "true", "false", "ls", "touch",
    "mkdir", "rmdir", "mv", "cp", "ln", "readlink", "seq", "basename", "dirname", "printf", "echo", "test",
    "[", "pwd", "kill", "head", "tail", "wc", "sort", "uniq", "tr", "tee"]

/-- The files of a plain host: the tools in `/usr/bin`, which is also `/bin`, the empty device, and a
directory for temporary files. -/
def plain : FileSystem :=
  let fs := usualTools.foldl (fun fs t => fs.place ["usr", "bin", t] (.tool t)) empty
  ((fs.place ["bin"] (.link "usr/bin")).place ["dev", "null"] .device).makeDirectories ["tmp"]

def below (base : PosixPath) (path : String) : Location :=
  (PosixPath.absolute base (.ofText path)).names

/-- Where a new entry goes: links on the way to it are followed. -/
def placeFor (fs : FileSystem) (loc : Location) : Location :=
  match fs.locate [] ("/" ++ join '/' loc.dropLast) with
  | .ok dir => dir ++ loc.drop (loc.length - 1)
  | .error _ => loc

def add (fs : FileSystem) (base : PosixPath) (path : String) (e : Entry) : FileSystem :=
  fs.place (fs.placeFor (below base path)) e

/-- Makes the entries of a listing below a directory, which is made too. -/
def lay (fs : FileSystem) (base : PosixPath) (l : Listing) : FileSystem :=
  let fs := fs.makeDirectories base.names
  let fs := l.directories.foldl (fun fs d => fs.makeDirectories (below base d)) fs
  let fs := l.files.foldl (fun fs f => fs.add base f.1 (.file f.2.1 f.2.2)) fs
  l.links.foldl (fun fs k => fs.add base k.1 (.link k.2)) fs

end FileSystem

namespace Host

/-- Accounts that every host has, with their home directories. -/
def usualAccounts : List (String × String) :=
  [("root", "/root"), ("daemon", "/usr/sbin"), ("bin", "/bin"), ("sys", "/dev"), ("sync", "/bin"),
    ("games", "/usr/games"), ("man", "/var/cache/man"), ("lp", "/var/spool/lpd"),
    ("mail", "/var/mail"), ("news", "/var/spool/news"), ("uucp", "/var/spool/uucp"),
    ("proxy", "/bin"), ("www-data", "/var/www"), ("backup", "/var/backups"), ("list", "/var/list"),
    ("irc", "/run/ircd"), ("_apt", "/nonexistent"), ("nobody", "/nonexistent")]

def usualVariables (home : String) : Variables := .ofList [("HOME", home), ("COLUMNS", "80")]

def inDirectory (files : FileSystem) (directory : String) (environment : Variables) (scripts : PosixPath) :
    Host :=
  { files := files
    workingDirectory := (files.locate [] directory).toOption.getD (PosixPath.ofText directory).names
    environment := environment
    accounts := usualAccounts
    scripts := scripts }

end Host
end Typeset
