import NetDiagram.Classification
import NetDiagram.Colour
import NetDiagram.Decimal.Style
import NetDiagram.Layout.Settings

/-!
# Settings

All that can be set about a diagram: the layout, the background of scenes, and rules for the kinds
of devices and areas, which are tried before those that are always there. Lengths and the
background can have values that no diagram can be drawn with; `problem?` finds them.
-/

namespace NetDiagram

class ColourCheck where
  check : String → Except Colour.Flaw Colour

instance : ColourCheck := ⟨Colour.ofText⟩

structure Settings where
  layout : Layout.Settings Float32 := .defaults
  /-- The colour behind scenes, as it was written. -/
  background : Option String := none
  deviceRules : Classification.Table DeviceKind := []
  areaRules : Classification.Table AreaKind := []

namespace Settings

def classifier (s : Settings) : Classifier where
  devices := s.deviceRules ++ Classification.devices
  areas := s.areaRules ++ Classification.areas

def withDirection (s : Settings) (direction : Direction) : Settings :=
  { s with layout := { s.layout with direction } }

inductive Problem where
  /-- The origin is infinite or no number. -/
  | origin
  /-- A length is negative, infinite or no number. -/
  | length (name : String) (value : Float32)
  /-- The background is no colour. -/
  | background (text : String) (flaw : Colour.Flaw)

def Problem.message : Problem → String
  | origin => "Invalid layout origin in config: must be finite"
  | length name value =>
    "Invalid layout constant `" ++ name ++ "` in config: " ++ Decimal.text32 .plain value
  | background text flaw =>
    "Invalid background color in config: " ++ Colour.invalidMessage text flaw

def layoutProblem? (s : Layout.Settings Float32) : Option Problem :=
  if !s.originX.isFinite || !s.originY.isFinite then some .origin
  else
    (s.lengths.find? fun (_, value) => !value.isFinite || decide (value < 0)).map
      fun (name, value) => .length name value

section

variable [ColourCheck]

def colour? (s : Settings) : Except Problem (Option Colour) :=
  match s.background with
  | none => .ok none
  | some text =>
    match ColourCheck.check text with
    | .ok colour => .ok (some colour)
    | .error flaw => .error (.background text flaw)

/-- The first problem of settings, if there is one. The layout comes before the background. -/
def problem? (s : Settings) : Option Problem :=
  match layoutProblem? s.layout with
  | some problem => some problem
  | none =>
    match s.colour? with
    | .ok _ => none
    | .error problem => some problem

end

end Settings

end NetDiagram
