import DocSql.Error
import DocSql.Json.Printer

/-!
Points on the globe and closed rings. Documents name latitude before longitude,
columns hold x = longitude and y = latitude; only `GeoPoint.toPoint` and
`GeoPoint.ofPoint` cross over. A ring is stored closed and shown open.
-/
namespace DocSql

structure Point where
  x : Double
  y : Double
deriving DecidableEq, Inhabited

namespace Point

/-- Equality of coordinates as values, so that both zeros are one coordinate. -/
def same (p q : Point) : Bool := p.x.same q.x && p.y.same q.y

def text (p : Point) : String := "(" ++ p.x.plainText ++ ", " ++ p.y.plainText ++ ")"

end Point

structure GeoPoint where
  latitude : Double
  longitude : Double
deriving DecidableEq, Inhabited

namespace GeoPoint

def earthMeters : Double := .ofNat 6371000
def earthKilometers : Double := .ofNat 6371
def earthMiles : Double := .ofDecimal false 39588 (-1)

def within (bound : Nat) (x : Double) : Bool :=
  x.isFinite && Double.le (.ofInt (-bound)) x && Double.le x (.ofNat bound)

def make (latitude longitude : Double) : Except Error GeoPoint :=
  if !within 90 latitude then
    .error (.geometry ("GeoPoint latitude out of bounds: " ++ latitude.plainText))
  else if !within 180 longitude then
    .error (.geometry ("GeoPoint longitude out of bounds: " ++ longitude.plainText))
  else .ok ⟨latitude, longitude⟩

def expected (value : Json) : Error := .invalidQuery ("expected a GeoPoint, got " ++ value.text)

def ofJson (value : Json) : Except Error GeoPoint :=
  match value with
  | .obj _ =>
    if value.typeTag? = some "GeoPoint" then
      match (value.get? "latitude").bind Json.toDouble?,
          (value.get? "longitude").bind Json.toDouble? with
      | some latitude, some longitude => make latitude longitude
      | _, _ => .error (.invalidQuery
          ("GeoPoint requires numeric latitude and longitude: " ++ value.text))
    else .error (expected value)
  | .arr [.num longitude, .num latitude] => make latitude.toDouble longitude.toDouble
  | _ => .error (expected value)

def toJson (p : GeoPoint) : Json :=
  .object [("__type", .str "GeoPoint"), ("latitude", .ofDouble p.latitude),
    ("longitude", .ofDouble p.longitude)]

def toPoint (p : GeoPoint) : Point := ⟨p.longitude, p.latitude⟩

def ofPoint (p : Point) : GeoPoint := ⟨p.y, p.x⟩

def literal (p : GeoPoint) : String := p.toPoint.text

def boxLiteral (southWest northEast : GeoPoint) : String :=
  "(" ++ southWest.literal ++ ", " ++ northEast.literal ++ ")"

end GeoPoint

abbrev Ring := List Point

namespace Ring

def literal (ring : Ring) : String :=
  "(" ++ String.intercalate ", " (ring.map Point.text) ++ ")"

/-- A vertex of a document: its latitude, then its longitude. -/
abbrev Vertex := Double × Double

def vertexOfJson (value : Json) : Except Error Vertex :=
  match value with
  | .arr [.num a, .num b] => .ok (a.toDouble, b.toDouble)
  | _ => .error (.geometry ("bad polygon vertex: " ++ value.text))

def verticesOfJson (value : Json) : Except Error (List Vertex) :=
  match value with
  | .arr items => items.mapM vertexOfJson
  | _ => .error (.geometry ("Polygon coordinates must be an array: " ++ value.text))

def distinctCount (ring : Ring) : Nat := ring.eraseDups.length

/-- The ring through the given vertices. Its first vertex is repeated as the
last one unless the vertices end where they start. -/
def close (vertices : List Vertex) : Except Error Ring := do
  let ring ← vertices.mapM fun (latitude, longitude) =>
    return (← GeoPoint.make latitude longitude).toPoint
  if distinctCount ring < 3 then
    throw (.geometry "GeoJSON: Loop must have at least 3 different vertices")
  match ring.head?, ring.getLast? with
  | some first, some last => return if first.same last then ring else ring ++ [first]
  | _, _ => return ring

/-- The vertices a document shows: without the last one where it closes the ring. -/
def opened (ring : Ring) : List Vertex :=
  let kept := match ring.head?, ring.getLast? with
    | some first, some last =>
      if 1 < ring.length && first.same last then ring.dropLast else ring
    | _, _ => ring
  kept.map fun p => (p.y, p.x)

def vertexToJson (vertex : Vertex) : Json := .arr [.ofDouble vertex.1, .ofDouble vertex.2]

def ofJson (value : Json) : Except Error Ring :=
  match value.get? "coordinates" with
  | none => .error (.geometry ("Polygon requires coordinates: " ++ value.text))
  | some coordinates => do close (← verticesOfJson coordinates)

def toJson (ring : Ring) : Json :=
  .object [("__type", .str "Polygon"), ("coordinates", .arr (ring.opened.map vertexToJson))]

end Ring
end DocSql
