import SignalLab.Payload.Basic

/-!
# Series — the points of a plot

A series has its two coordinates, a kind and perhaps a label.  Series that are computed here hold
doubles; one that is read from a payload holds whatever items the payload has.  `toPayload` writes
a series and `ofPayload` reads one, also in the notation of plotting services, which carry `type`
and `mode` in place of a kind and `name` in place of a label.
-/

namespace SignalLab

/-- The kinds of series. -/
inductive SeriesKind where
  | line | marker | heatmap
  deriving DecidableEq, Repr

namespace SeriesKind

/-- The name of a kind. -/
def label : SeriesKind → Text
  | .line => "line"
  | .marker => "marker"
  | .heatmap => "heatmap"

/-- The kind with the given name. -/
def ofLabel? (name : Text) : Option SeriesKind :=
  [line, marker, heatmap].find? fun kind => kind.label = name

/-- The kind a payload names. -/
def ofPayload (p : Payload) : Except Payload.Fault SeriesKind :=
  let kind? := match p with
    | .text name => ofLabel? name
    | _ => none
  match kind? with
  | some kind => .ok kind
  | none => .error (.unknownSeriesKind p.display)

end SeriesKind

/-- The points of a plot; a label of null is none. -/
structure Series where
  x : List Payload
  y : List Payload
  kind : SeriesKind
  label : Payload

/-- Series under their names. -/
abbrev Dataset := Keyed Series

namespace Series

/-- A line through points with double coordinates. -/
def line (x y : List Float) (label : String) : Series :=
  ⟨x.map .real, y.map .real, .line, .text label⟩

/-- The entry of a label. -/
def labelEntry (label : Payload) : Keyed Payload :=
  if label.isNull then [] else [("label".toList, label)]

/-- A series as a payload. -/
def toPayload (s : Series) : Payload :=
  .object ([("x".toList, .list s.x), ("y".toList, .list s.y),
    ("kind".toList, .text s.kind.label)] ++ labelEntry s.label)

/-- The kind of a series in the notation of plotting services. -/
def impliedKind (entries : Keyed Payload) : SeriesKind :=
  let is (key value : String) : Bool :=
    (Keyed.find? key entries).any (Payload.isText value)
  if is "type" "heatmap" then .heatmap
  else if is "mode" "markers" then .marker
  else .line

/-- The items under a key; none if the key is missing. -/
def itemsAt (entries : Keyed Payload) (key : String) : Except Payload.Fault (List Payload) :=
  match Keyed.find? key entries with
  | some p => p.items
  | none => .ok []

/-- The payload under a key, or else under another one, or else null. -/
def entryOr (entries : Keyed Payload) (key other : String) : Payload :=
  ((Keyed.find? key entries).or (Keyed.find? other entries)).getD .null

/-- The series a payload writes. -/
def ofPayload (p : Payload) : Except Payload.Fault Series := do
  let entries ← p.entries "get"
  let kind := (Keyed.find? "kind" entries).getD .null
  let x ← itemsAt entries "x"
  let y ← itemsAt entries "y"
  let kind ← if kind.isNull then .ok (impliedKind entries) else SeriesKind.ofPayload kind
  .ok ⟨x, y, kind, entryOr entries "label" "name"⟩

end Series

end SignalLab
