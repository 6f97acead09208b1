import ExprLex.Chart.View
import ExprLex.Settings

/-!
# Figures

A figure is a line of bracket depths below one row of markers for each group that has points,
with a title that counts what is shown. It is drawn by a library of which nothing is assumed: what
is told here are the calls that are made to it, in order and with their named arguments.
-/

namespace ExprLex.Chart

/-! ## Calls -/

/-- A call to the library that draws. The arguments are a record. -/
inductive Call where
  /-- A trace is added to the figure: a line or a row of markers. -/
  | addScatter (arguments : Attribute)
  /-- The space around the traces is set up. -/
  | updateLayout (arguments : Attribute)

/-- A library that draws figures of some type. -/
structure Library (φ : Type) where
  /-- A figure without traces. -/
  blank : φ
  /-- What a call makes of a figure. -/
  perform : φ → Call → φ

/-- The figure that a library makes of some calls. -/
def Library.draw {φ : Type} (library : Library φ) (calls : List Call) : φ :=
  calls.foldl library.perform library.blank

/-! ## Rows of markers -/

namespace Group

/-- The name of a group in the legend. -/
def legend : Group → String
  | .number => "Number"
  | .operator => "Operator"
  | .bracket => "Bracket"
  | .implicit => "Implicit *"

/-- The colour of a group. -/
def color (colors : ChartColors) : Group → String
  | .number => colors.number
  | .operator => colors.operator
  | .bracket => colors.bracket
  | .implicit => colors.implicit

/-- The shape of the markers of a group. -/
def shape : Group → String
  | .implicit => "diamond"
  | .number | .operator | .bracket => "circle"

end Group

/-- The text that is shown for a point of a group under the pointer. -/
def Point.hover (group : Group) (point : Point) : String :=
  s!"{group.legend} '{point.symbol}' (token {point.index}, depth {point.depth})"

/-- The arguments for the markers of a group at its points. -/
def Group.markers (settings : ChartSettings) (group : Group) (points : List Point) : Attribute :=
  .record [
    ("x", .integers (points.map fun p => (p.index : Int))),
    ("y", .integers (points.map Point.depth)),
    ("mode", .text "markers+text"),
    ("marker", .record [
      ("size", .integer settings.markerSize),
      ("color", .text (group.color settings.colors)),
      ("symbol", .text group.shape)]),
    ("text", .texts (points.map Point.symbol)),
    ("textposition", .text "middle center"),
    ("textfont", .record [("size", .integer 14), ("color", .text "white")]),
    ("hoverinfo", .text "text"),
    ("hovertext", .texts (points.map (Point.hover group))),
    ("name", .text group.legend),
    ("showlegend", .flag true)]

namespace View

/-! ## The line of depths -/

/-- The arguments for the line of bracket depths over all tokens. -/
def depthLine (settings : ChartSettings) (view : View) : Attribute :=
  .record [
    ("x", .integers ((List.range view.tokens.length).map Int.ofNat)),
    ("y", .integers view.depths),
    ("mode", .text "lines"),
    ("line", .record [
      ("color", .text settings.colors.depth),
      ("width", .integer 2),
      ("shape", .text "hv")]),
    ("hoverinfo", .text "skip"),
    ("name", .text "Depth"),
    ("showlegend", .flag true)]

/-! ## The layout -/

/-- The text of the title. -/
def title (settings : ChartSettings) (view : View) : String :=
  settings.title view.expression
    ++ s!"<br><sup>Tokens: {view.tokens.length} | "
    ++ s!"Implicit multiplications: {view.implicit.length} | "
    ++ s!"Max depth: {view.maxDepth}</sup>"

/-- The arguments for the space around the traces. -/
def layout (settings : ChartSettings) (view : View) : Attribute :=
  .record [
    ("title", .record [
      ("text", .text (view.title settings)),
      ("x", .decimal 5 1),
      ("font", .record [("size", .integer 18)])]),
    ("height", .integer settings.height),
    ("hovermode", .text "closest"),
    ("xaxis", .record [
      ("showgrid", .flag false),
      ("zeroline", .flag false),
      ("title", .text "Token")]),
    ("yaxis", .record [
      ("showgrid", .flag true),
      ("zeroline", .flag true),
      ("dtick", .integer 1),
      ("title", .text "Bracket depth")]),
    ("plot_bgcolor", .text "white"),
    ("paper_bgcolor", .text "#f5f5f5"),
    ("margin", .record [
      ("l", .integer 40), ("r", .integer 40), ("t", .integer 80), ("b", .integer 40)])]

/-! ## The whole figure -/

/-- The groups that have points, with their points. -/
def shownGroups (view : View) : List (Group × List Point) :=
  view.groups.filter fun (_, points) => !points.isEmpty

/-- The calls that draw a view. Groups without points have no markers. -/
def calls (settings : ChartSettings) (view : View) : List Call :=
  [.addScatter (view.depthLine settings)]
    ++ view.shownGroups.map (fun (group, points) => .addScatter (group.markers settings points))
    ++ [.updateLayout (view.layout settings)]

/-- The figure that a library makes of a view. -/
def figure {φ : Type} (library : Library φ) (settings : ChartSettings) (view : View) : φ :=
  library.draw (view.calls settings)

end View

/-! ## Saving -/

/-- A figure that is saved. -/
structure Saved (φ : Type) where
  /-- The figure. -/
  figure : φ
  /-- The place. -/
  path : String
  deriving DecidableEq

/-- What is logged about a figure that is saved. -/
def Saved.record {φ : Type} (saved : Saved φ) : LogRecord :=
  ⟨.info, s!"Token stream visualization saved to: {saved.path}"⟩

/-- Saves the figure of a view at the given place, or at the usual one if none is named. -/
def View.save {φ : Type} (view : View) (library : Library φ) (settings : ChartSettings)
    (output : Option String) : Saved φ where
  figure := view.figure library settings
  path :=
    match output with
    | none | some "" => settings.outputFile
    | some named => named

end ExprLex.Chart
