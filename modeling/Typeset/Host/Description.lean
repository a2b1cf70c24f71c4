import Typeset.Host.Layout
import Typeset.Json.Reader

/-!
Descriptions of hosts. A description is a JSON object: the `directory` that the process works in, its
`variables`, and below that directory `directories`, `files` and `programs` with their texts, and
`links` with their targets. Whatever is missing is empty.
-/

namespace Typeset.Host

open Config Text

/-- The directory that a process works in if none is described. -/
def usualDirectory : String := "/work"

def usualScripts : PosixPath := .ofText "/usr/share/typeset/scripts"

def textAt (m : Mapping) (key : String) : Option String :=
  match m.lookup key with
  | some (.text s) => some s
  | _ => none

def textsAt (m : Mapping) (key : String) : List String :=
  match m.lookup key with
  | some (.list vs) => vs.filterMap fun v => match v with
    | .text s => some s
    | _ => none
  | _ => []

def pairsAt (m : Mapping) (key : String) : List (String × String) :=
  match m.lookup key with
  | some (.map ps) => ps.filterMap fun p => match p with
    | (.text k, .text v) => some (k, v)
    | _ => none
  | _ => []

def listingOf (m : Mapping) : Listing :=
  let contents (key : String) (mode : Nat) : List (String × Utf8.Bytes × Nat) :=
    (pairsAt m key).map fun p => (p.1, Utf8.encode p.2.toList, mode)
  { directories := textsAt m "directories"
    files := contents "files" 0o644 ++ contents "programs" 0o755
    links := pairsAt m "links" }

def ofDescription (m : Mapping) : Host :=
  let directory := (textAt m "directory").getD usualDirectory
  let environment := (usualVariables "/root").overlay
    ((Variables.ofList [("PATH", "/usr/bin:/bin")]).overlay (.ofList (pairsAt m "variables")))
  inDirectory (FileSystem.plain.lay (.ofText directory) (listingOf m)) directory environment usualScripts

/-- The host that a text describes; a blank text describes a plain one. -/
def ofText (s : String) : Except ReadError Host :=
  if isBlankText s then .ok (ofDescription [])
  else do
    match ← Json.read s with
    | .map m => pure (ofDescription m)
    | _ => throw .malformed

end Typeset.Host
