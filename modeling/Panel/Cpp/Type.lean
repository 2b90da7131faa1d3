import Panel.Text.Chars

/-! # C++ types — the names that declarations and identifiers carry

    A type is known by its printed text.  A class also knows the texts of its ancestors, which is
    all that the check of references against declarations asks for. -/

namespace Panel.Cpp

/-- A C++ type: its text, and for a class the texts of its ancestors. -/
structure CppType where
  name : String
  ancestors : List String
  isClass : Bool
  deriving BEq, DecidableEq, Repr, Inhabited

namespace CppType

def plain (name : String) : CppType := ⟨name, [], false⟩

def classOf (name : String) (parents : List CppType) : CppType :=
  ⟨name, parents.flatMap fun p => p.name :: p.ancestors, true⟩

/-- Is the type `other`, or does it inherit from it? -/
def inheritsFrom (t other : CppType) : Bool :=
  t.name == other.name || t.ancestors.contains other.name

/-- The class with template arguments, which inherits from the class itself. -/
def template (t : CppType) (args : List String) : CppType :=
  ⟨t.name ++ "<" ++ String.intercalate ", " args ++ ">", t.name :: t.ancestors, true⟩

def ptr (t : CppType) : CppType := plain (t.name ++ " *")

end CppType

open CppType

/-! ## Fundamental types -/

def void : CppType := plain "void"
def float : CppType := plain "float"
def int : CppType := plain "int"
def bool : CppType := plain "bool"
def uint8 : CppType := plain "uint8_t"
def uint16 : CppType := plain "uint16_t"
def uint32 : CppType := plain "uint32_t"
def int32 : CppType := plain "int32_t"
def stdString : CppType := classOf "std::string" []

/-! ## Types of the surrounding framework -/

def component : CppType := classOf "Component" []
def pollingComponent : CppType := classOf "PollingComponent" [component]
def entityBase : CppType := classOf "EntityBase" []
def trigger : CppType := classOf "Trigger" []
def action : CppType := classOf "Action" []
def condition : CppType := classOf "Condition" []
def automation : CppType := classOf "Automation" []
def startupTrigger : CppType := classOf "StartupTrigger" [component, trigger.template []]
def lambdaAction : CppType := classOf "LambdaAction" [action]
def delayAction : CppType := classOf "DelayAction" [action, component]
def ifAction : CppType := classOf "IfAction" [action]
def lambdaCondition : CppType := classOf "LambdaCondition" [condition]
def andCondition : CppType := classOf "AndCondition" [condition]
def orCondition : CppType := classOf "OrCondition" [condition]
def notCondition : CppType := classOf "NotCondition" [condition]
def globalsComponent : CppType := classOf "globals::GlobalsComponent" [component]
def realTimeClock : CppType := classOf "time::RealTimeClock" [pollingComponent]
def display : CppType := classOf "display::Display" []
def image : CppType := classOf "image::Image" []
def fontClass : CppType := classOf "font::Font" []
def glyphClass : CppType := classOf "font::Glyph" []
def colour : CppType := classOf "Color" []
def binarySensor : CppType := classOf "binary_sensor::BinarySensor" [entityBase]
def sensor : CppType := classOf "sensor::Sensor" [entityBase]
def rotaryEncoder : CppType :=
  classOf "rotary_encoder::RotaryEncoderSensor" [sensor, component]
def touchscreen : CppType := classOf "touchscreen::Touchscreen" []
def sdImage : CppType := classOf "storage::SdImageComponent" []
def svgFile : CppType := classOf "svg_file::SvgFile" []
def keyProvider : CppType := classOf "key_provider::KeyProvider" []
def calendarTime : CppType := classOf "ESPTime" []

end Panel.Cpp
