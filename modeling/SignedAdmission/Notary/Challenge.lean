import SignedAdmission.Error
import SignedAdmission.Text.Split
import SignedAdmission.Text.Word

/-! Authentication challenges: `Bearer realm="…",name="value",…`. The realm is the address of a
token endpoint, and the other parameters make up its query. -/
namespace SignedAdmission.Challenge

/-- The names of authentication schemes. -/
def schemes : List String :=
  ["Basic", "Bearer", "Digest", "HOBA", "Mutual", "Negotiate", "OAuth", "SCRAM-SHA-1",
    "SCRAM-SHA-256", "vapid"]

/-- The scheme whose name is followed by ` realm` first. -/
def scheme? : List Char → Option String
  | [] => none
  | c :: cs =>
    (schemes.find? fun name => (name ++ " realm").toList.isPrefixOf (c :: cs)).or (scheme? cs)

def isValueChar (c : Char) : Bool :=
  Text.isWord c || c == '.' || c == '/' || c == ':' || c == '-'

/-- The value that follows an equals sign, with or without quotes around it. -/
def value? (cs : List Char) : Option (List Char × List Char) :=
  let cs :=
    match cs with
    | '"' :: rest => rest
    | rest => rest
  let value := cs.takeWhile isValueChar
  if value.isEmpty then none
  else
    match cs.dropWhile isValueChar with
    | '"' :: rest => some (value, rest)
    | rest => some (value, rest)

/-- The parameters in the order they are found; `fuel` bounds the steps. A name is a word right
before an equals sign. -/
def parametersWith : Nat → List Char → List (List Char × List Char)
  | 0, _ => []
  | _, [] => []
  | fuel + 1, c :: cs =>
    if !Text.isWord c then parametersWith fuel cs
    else
      let name := (c :: cs).takeWhile Text.isWord
      match (c :: cs).dropWhile Text.isWord with
      | '=' :: rest =>
        match value? rest with
        | some (value, rest) => (name, value) :: parametersWith fuel rest
        | none => parametersWith fuel rest
      | rest => parametersWith fuel rest

def parameters (header : List Char) : List (List Char × List Char) :=
  parametersWith header.length header

/-- A parameter that comes again keeps its first place and takes the new value. -/
def setParameter (name value : List Char) :
    List (List Char × List Char) → List (List Char × List Char)
  | [] => [(name, value)]
  | (other, old) :: rest =>
    if other = name then (name, value) :: rest else (other, old) :: setParameter name value rest

def merged (header : List Char) : List (List Char × List Char) :=
  (parameters header).foldl (fun merged (name, value) => setParameter name value merged) []

def realmName : List Char := "realm".toList

/-- The address of a realm with the other parameters as its query. -/
def url (realm : List Char) (parameters : List (List Char × List Char)) : List Char :=
  realm ++ '?' :: ['&'].intercalate (parameters.map fun (name, value) => name ++ '=' :: value)

/-- The address that a token is requested from. -/
def tokenUrl (notary : String) (header : String) : Except TrustError String := do
  let cs := header.toList
  match scheme? cs with
  | some "Bearer" => pure ()
  | some other => throw (.authenticationType other)
  | none => throw (.authenticationType header)
  let found := merged cs
  let realm ←
    match found.lookup realmName with
    | some realm => pure realm
    | none => throw (.missing (.realm notary))
  let address := url realm (found.filter fun (name, _) => name != realmName)
  if !"https".toList.isPrefixOf address then throw (.format (.insecureRealm notary))
  if Text.contains "..".toList address || 1 < Text.occurrences "//".toList address then
    throw (.pathTraversal (String.ofList address))
  return String.ofList address

end SignedAdmission.Challenge
