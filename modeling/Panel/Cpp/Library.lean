import Panel.Cpp.Type

/-! # Types of the graphics library and of the panel component -/

namespace Panel.Cpp

open CppType

/-- What every widget and every button of a matrix can be used as. -/
def pseudoButton : CppType := classOf "lvgl::LvPseudoButton" []

def objBase : CppType := classOf "lv_obj_t" [pseudoButton]

def compound : CppType := classOf "lvgl::LvCompound" []

/-- The type of a widget, below the given parents and the common base. -/
def widgetType (name : String) (parents : List CppType) : CppType :=
  classOf name (parents ++ [objBase])

def objPointer : CppType := plain "lv_obj_t *"
def eventPointer : CppType := plain "lv_event_t *"
def charPointer : CppType := plain "char *"
def lvStyle : CppType := classOf "lv_style_t" []
def lvColor : CppType := classOf "lv_color_t" []
def lvOpacity : CppType := classOf "lv_opa_t" []
def lvGroup : CppType := classOf "lv_group_t" []
def lvGradient : CppType := widgetType "lv_grad_dsc_t" []
def lvScaleSection : CppType := widgetType "lv_scale_section_t" []
def lvObj : CppType := widgetType "lv_obj_t" []
def lvglComponent : CppType := classOf "lvgl::LvglComponent" [pollingComponent]
def plainTrigger : CppType := classOf "Trigger<>" [trigger.template []]
def idleTrigger : CppType := classOf "lvgl::IdleTrigger" [trigger.template []]
def objUpdateAction : CppType := classOf "lvgl::ObjUpdateAction" [action]
def lvglCondition : CppType := classOf "lvgl::LvglCondition" [condition]
def lvglAction : CppType := classOf "lvgl::LvglAction" [action]
def touchListener : CppType := classOf "lvgl::LVTouchListener" []
def encoderListener : CppType := classOf "lvgl::LVEncoderListener" []

end Panel.Cpp
