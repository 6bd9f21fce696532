import DocSql.Query.Basic
import DocSql.Storage.Codec

/-!
Queries from their JSON form. Every member of a condition has to be known; the
operators of one condition come out in a fixed order, whatever the order of
the members, each with the modifiers that stand beside it.
-/
namespace DocSql

namespace Operator

abbrev Reader := Entries Json → Json → Except Error Operator

def items (key : String) (value : Json) : Except Error (List Json) :=
  match value with
  | .arr items => .ok items
  | _ => .error (.invalidQuery ("bad " ++ key ++ " value"))

def misplacedRelativeTime : Error := .invalidQuery
  "$relativeTime can only be used with the $lt, $lte, $gt, and $gte operators"

def readPresent (value : Json) : Except Error Operator :=
  match value with
  | .bool b => .ok (present b)
  | _ =>
    if value.has "$relativeTime" then .error misplacedRelativeTime
    else .error (.invalidQuery ("bad $exists value: " ++ value.text))

def readContainedBy (value : Json) : Except Error Operator :=
  match value with
  | .arr items => .ok (containedBy items)
  | _ => .error (.invalidQuery "bad $containedBy: should be an array")

def readFlag (search : Json) (key : String) (only : Bool) (refusal : String) : Except Error Unit :=
  match search.get? key with
  | none => .ok ()
  | some (.bool b) =>
    if b = only then .ok () else .error (.invalidQuery ("bad $text: " ++ refusal))
  | some _ => .error (.invalidQuery ("bad $text: " ++ key ++ ", should be boolean"))

def readSearch (value : Json) : Except Error Operator := do
  let some (.obj members) := value.get? "$search"
    | throw (.invalidQuery "bad $text: $search, should be object")
  let members := Json.obj members
  let some term := members.getStr? "$term"
    | throw (.invalidQuery "bad $text: $term, should be string")
  let language ← match members.get? "$language" with
    | none => pure none
    | some (.str language) => pure (some language)
    | some _ => throw (.invalidQuery "bad $text: $language, should be string")
  readFlag members "$caseSensitive" false
    "$caseSensitive not supported, please use $regex or create a separate lower case column."
  readFlag members "$diacriticSensitive" true
    "$diacriticSensitive - false not supported, install Postgres Unaccent Extension"
  return search { term, language }

def distance? (value : Json) : Option Double :=
  value.toDouble?.filter fun d => d.isFinite && Double.le .zero d

/-- The distance modifiers and the factor of each to radians; the first one wins. -/
def distanceFactors : List (String × Double) :=
  [("$maxDistance", .ofNat 1), ("$maxDistanceInRadians", .ofNat 1),
    ("$maxDistanceInKilometers", .ofNat 1 / GeoPoint.earthKilometers),
    ("$maxDistanceInMiles", .ofNat 1 / GeoPoint.earthMiles)]

def maxDistance (condition : Entries Json) : Except Error (Option Double) :=
  match distanceFactors.findSome? fun (key, factor) =>
      (Entries.find? condition key).map (key, factor, ·) with
  | none => .ok none
  | some (key, factor, value) =>
    match distance? value with
    | some d => .ok (some (d * factor))
    | none => .error (.invalidQuery ("bad " ++ key ++ " value: " ++ value.text))

def readNear (condition : Entries Json) (value : Json) : Except Error Operator := do
  return near (← GeoPoint.ofJson value) (← maxDistance condition)

def readWithin (value : Json) : Except Error Operator :=
  match value.get? "$box" with
  | some (.arr [southWest, northEast]) =>
    return withinBox (← GeoPoint.ofJson southWest) (← GeoPoint.ofJson northEast)
  | some (.arr _) =>
    .error (.invalidQuery "bad $within value; $box should contain exactly two GeoPoints")
  | _ => .error (.unsupported ("bad $within value: " ++ value.text))

def geoWithin (info : String) : Error := .invalidQuery ("bad $geoWithin value; " ++ info)

def readCenterSphere (center : Json) : Except Error Operator :=
  match center with
  | .arr (first :: second :: _) =>
    match GeoPoint.ofJson first, distance? second with
    | .error _, _ => .error (geoWithin "$centerSphere geo point invalid")
    | .ok _, none => .error (geoWithin "$centerSphere distance invalid")
    | .ok point, some radius => .ok (withinSphere point radius)
  | _ => .error (geoWithin "$centerSphere should be an array of GeoPoint and distance")

def polygonPoints (polygon : Json) : Except Error (List GeoPoint) :=
  match polygon with
  | .arr items => items.mapM GeoPoint.ofJson
  | _ =>
    if polygon.typeTag? = some "Polygon" then do
      let vertices ← Ring.verticesOfJson ((polygon.get? "coordinates").getD .null)
      vertices.mapM fun (latitude, longitude) => GeoPoint.make latitude longitude
    else .error (geoWithin "$polygon should be Polygon object or Array of GeoPoints")

def readPolygon (polygon : Json) : Except Error Operator := do
  let points ← polygonPoints polygon
  if points.length < 3 then
    throw (.geometry "bad $geoWithin value; $polygon should contain at least 3 GeoPoints")
  return withinPolygon points

def readGeoWithin (value : Json) : Except Error Operator :=
  match value.get? "$centerSphere", value.get? "$polygon" with
  | some center, _ => readCenterSphere center
  | none, some polygon => readPolygon polygon
  | none, none => .error (.unsupported ("bad $geoWithin value: " ++ value.text))

def readGeoIntersects (value : Json) : Except Error Operator :=
  match value.get? "$point" with
  | none => .error (.unsupported ("bad $geoIntersects value: " ++ value.text))
  | some point =>
    if point.typeTag? = some "GeoPoint" then covers <$> GeoPoint.ofJson point
    else .error (.invalidQuery "bad $geoIntersect value; $point should be GeoPoint")

def readRegex (condition : Entries Json) (value : Json) : Except Error Operator := do
  let some pattern := value.str? | throw (.invalidQuery ("bad $regex: " ++ value.text))
  let badOptions (given : Json) : Error :=
    .invalidQuery ("bad $options value for query: " ++ given.text)
  match Entries.find? condition "$options" with
  | none => return regex pattern ""
  | some (.str options) =>
    if options.toList.all ['i', 'm', 'x', 's'].contains then return regex pattern options
    else throw (badOptions (.str options))
  | some other => throw (badOptions other)

/-- Every operator with its key, in the order in which tests are made. -/
def readers : List (String × Reader) :=
  [("$ne", fun _ value => .ok (ne value)),
    ("$eq", fun _ value => .ok (eq value)),
    ("$in", fun _ value => isIn <$> items "$in" value),
    ("$nin", fun _ value => notIn <$> items "$nin" value),
    ("$all", fun _ value => all <$> items "$all" value),
    ("$exists", fun _ => readPresent),
    ("$containedBy", fun _ => readContainedBy),
    ("$text", fun _ => readSearch),
    ("$nearSphere", readNear),
    ("$within", fun _ => readWithin),
    ("$geoWithin", fun _ => readGeoWithin),
    ("$geoIntersects", fun _ => readGeoIntersects),
    ("$regex", readRegex),
    ("$gt", fun _ value => .ok (compare .gt value)),
    ("$gte", fun _ value => .ok (compare .gte value)),
    ("$lt", fun _ value => .ok (compare .lt value)),
    ("$lte", fun _ value => .ok (compare .lte value))]

def modifiers : List String :=
  ["$options", "$maxDistance", "$maxDistanceInRadians", "$maxDistanceInKilometers",
    "$maxDistanceInMiles"]

def isKnown (key : String) : Bool := readers.any (·.1 == key) || modifiers.contains key

def readKnown (condition : Entries Json) : Except Error (List Operator) :=
  (readers.filterMap fun (key, reader) =>
    (Entries.find? condition key).map (reader condition)).mapM id

def ofJson (condition : Entries Json) : Except Error (List Operator) := do
  if let some key := (Entries.keys condition).find? (!isKnown ·) then
    throw (.unsupported
      ("unsupported operator " ++ key ++ " in " ++ (Json.obj condition).text))
  match ← readKnown condition with
  | [] => throw (.invalidQuery
      ("modifiers without an operator: " ++ (Json.obj condition).text))
  | tests => return tests

end Operator

def Condition.ofJson (value : Json) : Except Error Condition :=
  match value with
  | .null => .ok null
  | .str s => .ok (scalar (.string s))
  | .num n => .ok (scalar (.number n))
  | .bool b => .ok (scalar (.bool b))
  | .arr _ => .error (.unsupported ("array equality is not supported: " ++ value.text))
  | .obj members =>
    match value.typeTag? with
    | some "Pointer" => do
      let _ ← Datum.pointerId value
      return pointer value
    | some "Date" => date <$> Timestamp.ofJson value
    | some "GeoPoint" => geoPoint <$> GeoPoint.ofJson value
    | some "Polygon" => .ok (polygon value)
    | some other => .error (.unsupported ("cannot query by " ++ other ++ " value"))
    | none => operators <$> Operator.ofJson members

def Clause.ofField (name : String) (value : Json) : Except Error Clause :=
  if name.startsWith "$" then .error (.unsupported ("unsupported query operator: " ++ name))
  else if name.startsWith "_auth_data_" then .error (.unsupported
    ("cannot query on '" ++ name ++ "'; query authData.<provider> instead"))
  else field name <$> Condition.ofJson value

namespace Query

mutual

def ofJson : Json → Except Error Query
  | .obj members => ofMembers members
  | value => .error (.invalidQuery ("query must be an object: " ++ value.text))

def ofMembers : List (String × Json) → Except Error Query
  | [] => .ok []
  | (key, value) :: rest => do
    let clause ← match Group.ofKey? key with
      | some kind => Clause.group kind <$> ofItems key value
      | none => Clause.ofField key value
    return clause :: (← ofMembers rest)

def ofItems (key : String) : Json → Except Error (List Query)
  | .arr (item :: items) => ofList (item :: items)
  | _ => .error (.invalidQuery (key ++ " must be a non-empty array"))

def ofList : List Json → Except Error (List Query)
  | [] => .ok []
  | item :: rest => do
    let query ← ofJson item
    return query :: (← ofList rest)

end

end Query
end DocSql
