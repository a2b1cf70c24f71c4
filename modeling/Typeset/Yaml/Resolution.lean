import Typeset.Config.Calendar
import Typeset.Text.Digit

/-!
Which kind of value a plain scalar is. Truth values, null, integers, floating point numbers, times
and the marks for merging are recognised by their form; everything else is text.
-/

namespace Typeset.Yaml

open Text Config

inductive Tag
  | null
  | bool
  | int
  | float
  | binary
  | timestamp
  | omap
  | pairs
  | set
  | text
  | list
  | map
  | merge
  | value
  | unknown
  deriving DecidableEq

namespace Tag

def base : String := "tag:yaml.org,2002:"

def names : List (String × Tag) :=
  [("null", null), ("bool", bool), ("int", int), ("float", float), ("binary", binary),
    ("timestamp", timestamp), ("omap", omap), ("pairs", pairs), ("set", set), ("str", text),
    ("seq", list), ("map", map), ("merge", merge), ("value", value)]

def ofUri (uri : String) : Tag :=
  ((names.find? fun p => base ++ p.1 == uri).map (·.2)).getD unknown

end Tag

def boolWords : List String :=
  ["yes", "Yes", "YES", "no", "No", "NO", "true", "True", "TRUE", "false", "False", "FALSE", "on",
    "On", "ON", "off", "Off", "OFF"]

def nullWords : List String := ["~", "null", "Null", "NULL", ""]

/-- Words that are marks of the language; they have a tag of their own, but stand for no value. -/
def markWords : List String := ["!", "&", "*"]

def afterSign : List Char → List Char
  | '-' :: s => s
  | '+' :: s => s
  | s => s

def isDigitOrGap (c : Char) : Bool := isDigit c || c = '_'

/-- The text after a digit and more digits and underscores. -/
def afterDigits? (s : List Char) : Option (List Char) :=
  match s with
  | c :: rest => if isDigit c then some (rest.dropWhile isDigitOrGap) else none
  | [] => none

def isExponent (s : List Char) : Bool :=
  match s with
  | [] => true
  | e :: g :: d :: rest =>
    (e = 'e' || e = 'E') && (g = '-' || g = '+') && isDigit d && rest.all isDigit
  | _ => false

/-- The text after groups of base 60, each with a colon in front, and whether there is any. -/
def afterSixties : (fuel : Nat) → List Char → Bool × List Char
  | 0, s => (false, s)
  | fuel + 1, s =>
    match s with
    | ':' :: rest =>
      let ds := rest.takeWhile isDigit
      let fits := match ds with
        | [_] => true
        | [a, _] => decide (a ≤ '5')
        | _ => false
      if fits then (true, (afterSixties fuel (rest.dropWhile isDigit)).2) else (false, s)
    | _ => (false, s)

/-- Whether a text has the form of a floating point number. -/
def isFloat (s : List Char) : Bool :=
  let t := afterSign s
  let decimal := match afterDigits? t with
    | some ('.' :: rest) => isExponent (rest.dropWhile isDigitOrGap)
    | _ => false
  let fraction := match s with
    | '.' :: rest => (afterDigits? rest).any isExponent
    | _ => false
  let sixties := match afterDigits? t with
    | some rest => match afterSixties rest.length rest with
      | (true, '.' :: rest) => rest.all isDigitOrGap
      | _ => false
    | none => false
  decimal || fraction || sixties || String.ofList t ∈ [".inf", ".Inf", ".INF"] ||
    String.ofList s ∈ [".nan", ".NaN", ".NAN"]

/-- Whether there is at least one character, and all satisfy `p`. -/
def allOf (p : Char → Bool) (s : List Char) : Bool := !s.isEmpty && s.all p

def isInt (s : List Char) : Bool :=
  match afterSign s with
  | '0' :: rest =>
    rest.isEmpty || allOf (fun c => ('0' ≤ c && c ≤ '7') || c = '_') rest ||
      (match rest with
        | 'b' :: ds => allOf (fun c => c = '0' || c = '1' || c = '_') ds
        | 'x' :: ds => allOf (fun c => isHexDigit c || c = '_') ds
        | _ => false)
  | t => match afterDigits? t with
    | some rest => rest.isEmpty || afterSixties rest.length rest == (true, [])
    | none => false

structure Stamp where
  date : Date
  time : Option TimeOfDay
  offset : Option Int
  deriving DecidableEq

def someDigits? (n : Nat) (s : List Char) : Option (Nat × List Char) :=
  let ds := (s.take n).takeWhile isDigit
  if ds.isEmpty then none else some (ofDigits 10 (ds.filterMap asciiDigit?), s.drop ds.length)

def exactDigits? (n : Nat) (s : List Char) : Option (Nat × List Char) :=
  let ds := (s.take n).takeWhile isDigit
  if ds.length = n then some (ofDigits 10 (ds.filterMap asciiDigit?), s.drop n) else none

def after? (c : Char) : List Char → Option (List Char)
  | d :: s => if c = d then some s else none
  | [] => none

def isBlankChar (c : Char) : Bool := c = ' ' || c = '\t'

def secondFraction (s : List Char) : Nat × List Char :=
  match s with
  | '.' :: rest =>
    let ds := (rest.takeWhile isDigit).filterMap asciiDigit?
    (ofDigits 10 ((ds ++ List.replicate 6 0).take 6), rest.dropWhile isDigit)
  | _ => (0, s)

def stampOffset? (s : List Char) : Option (Option Int) :=
  match s.dropWhile isBlankChar with
  | [] => if s.isEmpty then some none else none
  | ['Z'] => some (some 0)
  | c :: rest =>
    if c = '+' ∨ c = '-' then do
      let (hours, rest) ← someDigits? 2 rest
      let minutes ← match rest with
        | [] => some 0
        | ':' :: rest => (exactDigits? 2 rest).bind fun (m, rest) =>
          if rest.isEmpty then some m else none
        | _ => none
      let total : Int := hours * 60 + minutes
      some (some (if c = '-' then -total else total))
    else none

def afterDay? (s : List Char) : Option (List Char) :=
  match s with
  | c :: rest =>
    if c = 'T' ∨ c = 't' then some rest
    else if isBlankChar c then some (s.dropWhile isBlankChar)
    else none
  | [] => none

def dropLineEnd (s : List Char) : List Char := if s.getLast? = some '\n' then s.dropLast else s

def stampLine? (s : List Char) : Option Stamp := do
  let (year, s) ← exactDigits? 4 s
  let (month, s) ← someDigits? 2 (← after? '-' s)
  let (day, s) ← someDigits? 2 (← after? '-' s)
  let date : Date := ⟨year, month, day⟩
  if s.isEmpty then some ⟨date, none, none⟩
  else
    let (hour, s) ← someDigits? 2 (← afterDay? s)
    let (minute, s) ← exactDigits? 2 (← after? ':' s)
    let (second, s) ← exactDigits? 2 (← after? ':' s)
    let (microsecond, s) := secondFraction s
    let offset ← stampOffset? s
    some ⟨date, some ⟨hour, minute, second, microsecond⟩, offset⟩

/-- A time that a text writes, perhaps with a line end behind it. -/
def stamp? (s : List Char) : Option Stamp := stampLine? (dropLineEnd s)

/-- Whether a line has the form of a time: a day of ten characters, or a day with a time. -/
def isStamp (s : List Char) : Bool :=
  match stampLine? s with
  | some t => t.time.isSome || s.length == 10
  | none => false

def Tag.ofLine (s : List Char) : Tag :=
  let text := String.ofList s
  if text ∈ boolWords then .bool
  else if isFloat s then .float
  else if isInt s then .int
  else if text = "<<" then .merge
  else if text ∈ nullWords then .null
  else if isStamp s then .timestamp
  else if text = "=" then .value
  else if text ∈ markWords then .unknown
  else .text

/-- The tag of a plain scalar. A line end at its end does not count, unless there is nothing else. -/
def Tag.ofPlain (text : String) : Tag :=
  if text = "\n" then .text else .ofLine (dropLineEnd text.toList)

end Typeset.Yaml
