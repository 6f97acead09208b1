import ExprLex.Attribute
import ExprLex.LogRecord
import ExprLex.Operator.Precedence

/-!
# Settings

The values that the library is set up with: how work is logged, which precedence convention is
in use, and how charts look.
-/

namespace ExprLex

/-- How work is logged. -/
structure LogSettings where
  /-- The least level that is shown. -/
  level : Int
  /-- The layout of a line. -/
  format : String
  deriving DecidableEq

/-- The colours of a chart. -/
structure ChartColors where
  /-- Numbers. -/
  number : String
  /-- Operators. -/
  operator : String
  /-- Brackets. -/
  bracket : String
  /-- Multiplications that were not written. -/
  implicit : String
  /-- The line of depths. -/
  depth : String
  deriving DecidableEq

/-- How charts look. -/
structure ChartSettings where
  /-- Where a chart is saved if no place is named. -/
  outputFile : String
  /-- What stands before the expression in a title. -/
  heading : String
  /-- The height of a chart. -/
  height : Int
  /-- The size of the markers. -/
  markerSize : Int
  /-- The colours of a chart. -/
  colors : ChartColors
  deriving DecidableEq

/-- All settings. -/
structure Settings where
  /-- How work is logged. -/
  logging : LogSettings
  /-- The precedence convention in use. -/
  precedence : Convention
  /-- How charts look. -/
  chart : ChartSettings
  deriving DecidableEq

/-- The title for an expression. -/
def ChartSettings.title (settings : ChartSettings) (expression : String) : String :=
  settings.heading ++ expression

namespace Settings

/-- The settings in use. -/
def standard : Settings where
  logging :=
    { level := LogLevel.info.rank
      format := "%(asctime)s - %(name)s - %(levelname)s - %(message)s" }
  precedence := .standard
  chart :=
    { outputFile := "token_stream.html"
      heading := "Token stream for: "
      height := 500
      markerSize := 28
      colors :=
        { number := "#1890ff"
          operator := "#fa8c16"
          bracket := "#8c8c8c"
          implicit := "#eb2f96"
          depth := "#d9d9d9" } }

end Settings

/-! ## Attributes -/

/-- Log settings as attributes. -/
def LogSettings.attributes (settings : LogSettings) : Attribute :=
  .record [("level", .integer settings.level), ("format", .text settings.format)]

/-- Chart colours as attributes. -/
def ChartColors.attributes (colors : ChartColors) : Attribute :=
  .record [
    ("number", .text colors.number),
    ("operator", .text colors.operator),
    ("bracket", .text colors.bracket),
    ("implicit", .text colors.implicit),
    ("depth", .text colors.depth)]

/-- Chart settings as attributes, with a place for the expression in the title. -/
def ChartSettings.attributes (settings : ChartSettings) : Attribute :=
  .record [
    ("output_file", .text settings.outputFile),
    ("title", .text (settings.title "\x7bexpression\x7d")),
    ("height", .integer settings.height),
    ("marker_size", .integer settings.markerSize),
    ("colors", settings.colors.attributes)]

/-- All settings as attributes. -/
def Settings.attributes (settings : Settings) : Attribute :=
  .record [
    ("logging", settings.logging.attributes),
    ("precedence", .text settings.precedence.name),
    ("visualizer", settings.chart.attributes)]

/-! ## Use -/

/-- How logging is to be set up, with levels of some type. -/
structure LogSetup (α : Type) where
  /-- The least level that is shown. -/
  level : α
  /-- The layout of a line. -/
  format : String
  deriving DecidableEq

/-- The set-up for a level, which is the usual one unless another is given. -/
def LogSettings.setup {α : Type} (settings : LogSettings) (ofUsual : Int → α)
    (level : Option α) : LogSetup α where
  level := level.getD (ofUsual settings.level)
  format := settings.format

/-- The level of an operator in the convention in use. -/
def Operator.precedence (op : Operator) : Nat :=
  Settings.standard.precedence.level op

end ExprLex
