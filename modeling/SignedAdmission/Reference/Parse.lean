import SignedAdmission.Error
import SignedAdmission.Reference.Basic

/-! Reading references: `[domain[:port]/]path[:tag][@sha256:digest]`, where the path has one or
more components. The first component names the registry only if it looks like a host. -/
namespace SignedAdmission.Reference

def defaultRegistry : String := "docker.io"
def defaultRepository : String := "library"
def defaultTag : String := "latest"

/-- The greatest length of registry, repository and name together. -/
def maxNameLength : Nat := 255
def maxTagLength : Nat := 128
def digestLength : Nat := 64

def isLowerAlnum (c : Char) : Bool :=
  c.isLower || c.isDigit

/-- How a path component stands after some of its characters. -/
inductive Progress where
  | start
  | run
  | dot
  | underscore
  | twoUnderscores
  | hyphens
deriving DecidableEq, Repr

def Progress.next? (progress : Progress) (c : Char) : Option Progress :=
  if isLowerAlnum c then some run
  else
    match progress, c with
    | run, '.' => some dot
    | run, '_' => some underscore
    | underscore, '_' => some twoUnderscores
    | run, '-' => some hyphens
    | hyphens, '-' => some hyphens
    | _, _ => none

/-- Runs of lowercase letters and digits, set apart by `.`, `_`, `__` or hyphens. -/
def isComponent (cs : List Char) : Bool :=
  cs.foldlM Progress.next? .start == some .run

/-- Letters, digits and inner hyphens. -/
def isLabel (cs : List Char) : Bool :=
  cs.all (fun c => c.isAlphanum || c == '-') &&
    cs.head?.any Char.isAlphanum && cs.getLast?.any Char.isAlphanum

def isPort (cs : List Char) : Bool :=
  !cs.isEmpty && cs.all Char.isDigit

/-- Labels with dots between them, and possibly a port after a colon. -/
def isDomain (cs : List Char) : Bool :=
  let (host, port) := Text.cut ':' cs
  (Text.split '.' host).all isLabel && port.all isPort

/-- A first component with a dot, a port or a capital letter, or `localhost`, names a registry. -/
def isRegistryHost (cs : List Char) : Bool :=
  cs.contains '.' || cs.contains ':' || cs == "localhost".toList || cs.any Char.isUpper

def isTag (cs : List Char) : Bool :=
  cs.head?.any Text.isWord && cs.all (fun c => Text.isWord c || c == '.' || c == '-') &&
    cs.length ≤ maxTagLength

def isDigest (cs : List Char) : Bool :=
  cs.length == digestLength && cs.all fun c => c.isDigit || ('a' ≤ c && c ≤ 'f')

/-- The digits of a digest part that begins with its algorithm. -/
def digestPart? (cs : List Char) : Option (List Char) := do
  let digits ← Text.dropStart? digestStart.toList cs
  guard (isDigest digits)
  return digits

/-- All components but the last, and the tag cut off the last one. -/
def nameParts (cs : List Char) : List (List Char) × List Char × Option (List Char) :=
  let segments := Text.split '/' cs
  let (name, tag) := Text.cut ':' (segments.getLast?.getD [])
  (segments.dropLast, name, tag)

/-- Only the first of several components may be a domain. -/
def isName (path : List (List Char)) (name : List Char) : Bool :=
  isComponent name &&
    match path with
    | [] => true
    | first :: rest => (isComponent first || isDomain first) && rest.all isComponent

/-- Registry and repository of a path, with the defaults filled in. -/
def locate (path : List (List Char)) : String × String :=
  let (registry, path) :=
    match path with
    | first :: rest => if isRegistryHost first then (String.ofList first, rest) else
        (defaultRegistry, first :: rest)
    | [] => (defaultRegistry, [])
  let repository := String.ofList (Text.join '/' path)
  (registry,
    if repository = "" && registry = defaultRegistry then defaultRepository else repository)

def ofText? (text : String) : Option Reference := do
  let (left, digestText) := Text.cut '@' text.toList
  let digest ←
    match digestText with
    | none => some none
    | some cs => (digestPart? cs).map some
  let (path, name, tag) := nameParts left
  guard (isName path name)
  guard (tag.all isTag)
  guard ((Text.join '/' (path ++ [name])).length ≤ maxNameLength)
  let (registry, repository) := locate path
  return {
    registry, repository, name := String.ofList name
    tag :=
      match tag, digest with
      | none, none => some defaultTag
      | tag, _ => tag.map String.ofList
    digest := digest.map String.ofList }

def parse (text : String) : Except TrustError Reference :=
  match ofText? text with
  | some r => .ok r
  | none => .error (.reference text)

end SignedAdmission.Reference
