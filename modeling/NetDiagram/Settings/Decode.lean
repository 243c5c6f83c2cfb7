import NetDiagram.Settings.Basic
import NetDiagram.Settings.Value

/-!
# Settings from a document

A settings document is a record with two optional records, `layout` and `style`, and every entry in
them is optional. A record is written as a table, or as a list of its values in a fixed order.
Entries with other names are passed over. A value of the wrong type makes the whole document
unusable; whether the values make sense is not asked here.
-/

namespace NetDiagram.Settings

abbrev Record := List (String × Value)

namespace Record

/-- Reads an entry by `read`; `default` stands in for an absent one. -/
def entry {β : Type} (r : Record) (name : String) (default : β) (read : Value → Option β) :
    Option β :=
  match r.lookup name with
  | none => some default
  | some value => read value

end Record

namespace Value

def text? : Value → Option String
  | text value => some value
  | _ => none

def items? : Value → Option (List Value)
  | list items => some items
  | _ => none

/-- The number of a value, in single precision. Whole numbers have at most 64 bits. -/
def number? : Value → Option Float32
  | integer n =>
    if -(Nat.pow 2 63 : Int) ≤ n ∧ n < Nat.pow 2 64 then some (Float32.ofInt n) else none
  | float x => some x.toFloat32
  | _ => none

def optionalText? : Value → Option (Option String)
  | null => some none
  | v => v.text?.map some

/-- The word of a value: a text, or the only key of a table that has nothing under it. -/
def word? (c : Convention) : Value → Option String
  | text value => some value
  | table [(key, value)] => if c.isVoid value then some key else none
  | _ => none

/-- The entries of a record with the given names, of which a list has the first ones. Entries with
other names only have to be readable. A moment counts as a record without any of the names. -/
def record? (c : Convention) (names : List String) : Value → Option Record
  | table entries =>
    if entries.all fun (name, value) => names.contains name || value.isReadable then some entries
    else none
  | list items =>
    if c.allowsSpareItems || decide (items.length ≤ names.length) then some (names.zip items)
    else none
  | moment _ => some []
  | _ => none

end Value

def layoutNames : List String :=
  ["direction", "origin_x", "origin_y", "environment_gap", "environment_padding",
    "datacenter_padding", "datacenter_spacing", "area_padding", "area_spacing", "area_width",
    "header_height", "component_width", "component_height", "component_spacing"]

def direction? (c : Convention) (v : Value) : Option Direction := v.word? c >>= Direction.ofName?

def layout? (c : Convention) (v : Value) : Option (Layout.Settings Float32) := do
  let r ← v.record? c layoutNames
  let usual : Layout.Settings Float32 := .defaults
  return {
    direction := ← r.entry "direction" usual.direction (direction? c)
    originX := ← r.entry "origin_x" usual.originX (·.number?)
    originY := ← r.entry "origin_y" usual.originY (·.number?)
    environmentGap := ← r.entry "environment_gap" usual.environmentGap (·.number?)
    environmentPadding := ← r.entry "environment_padding" usual.environmentPadding (·.number?)
    datacenterPadding := ← r.entry "datacenter_padding" usual.datacenterPadding (·.number?)
    datacenterSpacing := ← r.entry "datacenter_spacing" usual.datacenterSpacing (·.number?)
    areaPadding := ← r.entry "area_padding" usual.areaPadding (·.number?)
    areaSpacing := ← r.entry "area_spacing" usual.areaSpacing (·.number?)
    areaWidth := ← r.entry "area_width" usual.areaWidth (·.number?)
    headerHeight := ← r.entry "header_height" usual.headerHeight (·.number?)
    componentWidth := ← r.entry "component_width" usual.componentWidth (·.number?)
    componentHeight := ← r.entry "component_height" usual.componentHeight (·.number?)
    componentSpacing := ← r.entry "component_spacing" usual.componentSpacing (·.number?) }

/-- The rule that a record describes, with the kinds that `ofName?` knows. -/
def rule? {κ : Type} (c : Convention) (ofName? : String → Option κ) (v : Value) :
    Option (Classification.Rule κ) := do
  let r ← v.record? c ["keyword", "kind"]
  let keyword ← r.lookup "keyword" >>= (·.text?)
  let kind ← r.lookup "kind" >>= (·.word? c)
  return ⟨keyword, ← ofName? kind⟩

def rules? {κ : Type} (c : Convention) (ofName? : String → Option κ) (v : Value) :
    Option (Classification.Table κ) := do
  (← v.items?).mapM (rule? c ofName?)

def style? (c : Convention) (v : Value) : Option Settings := do
  let r ← v.record? c ["background_color", "device_rules", "area_rules"]
  return {
    background := ← r.entry "background_color" none (·.optionalText?)
    deviceRules := ← r.entry "device_rules" [] (rules? c DeviceKind.ofName?)
    areaRules := ← r.entry "area_rules" [] (rules? c AreaKind.ofName?) }

def ofValue? (c : Convention) (v : Value) : Option Settings := do
  let r ← v.record? c ["layout", "style"]
  let layout ← r.entry "layout" .defaults (layout? c)
  let styled ← r.entry "style" {} (style? c)
  return { styled with layout }

end NetDiagram.Settings
