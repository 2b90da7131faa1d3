import Panel.Kinds.Range

/-! # Widgets that show a picture — images, animations, image buttons, textures and codes -/

namespace Panel

open Cpp Code Property Test Design

namespace Kinds

/-! ## Images -/

/-- A property that no value is right for. -/
def unsupported (message : String) : Property :=
  ⟨never message, fun _ _ => (refuse message : Check Value)⟩

/-- The options of an image apart from its source, with their writers. -/
def imageOptions : List (String × Property) :=
  [("pivot_x", size), ("pivot_y", size), ("angle", tenthsOfDegree),
    ("rotation", tenthsOfDegree), ("zoom", scale), ("scale", scale),
    ("offset_x", size), ("offset_y", size), ("antialias", boolean),
    ("mode", unsupported "mode is not supported in LVGL 9.x")]

/-- The group that only one option of may be given. -/
def imageGroup? : String → Option String
  | "angle" => some "rotation"
  | "rotation" => some "rotation"
  | "zoom" => some "scale"
  | "scale" => some "scale"
  | _ => none

def imageBase : Record := .of (imageOptions.map fun (name, p) =>
  match imageGroup? name with
  | some group => .exclusive name group none p.validate
  | none => .optional name p.validate)

def image : Design :=
  { distinct (fun _ => imageBase.extend [.required "src" Property.image.validate])
      (imageBase.extend [.optional "src" Property.image.validate]).fields with
    options := fun _ w config => do
      w.setProperty "src" (← Property.image.emit (at? config "src")) {}
      setOptions w config imageOptions }

/-! ## Animations -/

def repeatCount : Test := fun v =>
  let v : Value := match v.text? with
    | some s => if ["forever", "infinite"].contains (Text.lower s) then .int 65535 else v
    | none => v
  intRange (some 0) (some 65535) v

/-- The options of an animation that can always be given. -/
def animimgBase : Record := .of
  [.defaulted "repeat_count" (.str "forever") repeatCount,
    .defaulted "auto_start" (.bool true) boolean]

def animimgRecord : Record :=
  animimgBase.extend
    [.required "duration" milliseconds.validate,
      .required "src" imageList.validate]

def animimgChanges : Record :=
  animimgBase.extend
    [.optional "duration" milliseconds.validate,
      .optional "src" imageList.validate]

/-- Writes a call for an option that counts as set, its value as it is. -/
def callIfSet (function : String) (w : Widget) (config : Value) (key : String) : Build Unit :=
  match setAt? config key with
  | some v => run function [.cpp w.obj, v]
  | none => pure ()

def animimg : Design :=
  { distinct (fun _ => animimgRecord) animimgChanges.fields with
    options := fun _ w config => do
      needComponents ["image", "animimg"]
      match setAt? config "src" with
      | some pictures => do
        let pictures ← imageList.emit pictures
        run "lv_animimg_set_src" [.cpp w.obj, pictures]
      | none => pure ()
      callIfSet "lv_animimg_set_repeat_count" w config "repeat_count"
      callIfSet "lv_animimg_set_duration" w config "duration"
      if (← required config "auto_start").truthy then
        run "lv_animimg_start" [.cpp w.obj] }

def animimgActions : List Behaviour :=
  [callAction "lvgl.animimg.start" "lv_animimg_start" Kind.animimg.traits.type,
    callAction "lvgl.animimg.stop" "lv_animimg_stop" Kind.animimg.traits.type]

/-! ## Image buttons -/

def imgbtnStates : List String :=
  ["released", "pressed", "disabled", "checked_released", "checked_pressed", "checked_disabled"]

def applyButtonPictures (w : Widget) (config : Value) : List String → Build Unit
  | [] => pure ()
  | state :: states => do
    match config.get? ("src_" ++ state) with
    | none => pure ()
    | some v => do
      let picture ← Property.image.emit v
      run "lv_imgbtn_set_src"
        [.cpp w.obj, .literal ("LV_IMGBTN_STATE_" ++ Text.upper state), picture,
          .literal "NULL", .literal "NULL"]
    applyButtonPictures w config states

def imgbtn : Design :=
  { distinct (fun _ => .of (imgbtnStates.map fun s =>
      .optional ("src_" ++ s) Property.image.validate)) [] with
    options := fun _ w config => do
      needComponents ["imgbtn"]
      applyButtonPictures w config imgbtnStates }

/-! ## Textures -/

def tex3dRecord : Record := .of
  [.required "src" Property.image.validate,
    .defaulted "rotation_x" (.int 0) number,
    .defaulted "rotation_y" (.int 0) number,
    .defaulted "rotation_z" (.int 0) number,
    .defaulted "scale" (.float 1.0) number]

def tex3d : Design :=
  { distinct (fun _ => tex3dRecord) [] with
    options := fun _ w config => do
      needComponents ["tex3d"]
      let picture ← Property.image.emit (← required config "src")
      run "lv_tex3d_set_src" [.cpp w.obj, picture] }

/-! ## Codes -/

def qrcodeFields : List Field :=
  Schema.textFields
    ++ [.defaulted "dark_color" (.str "black") acceptColor,
      .defaulted "light_color" (.str "white") acceptColor,
      .required "size" integer.validate]

def applyCodeText (w : Widget) (v : Value) : Build Unit := do
  match v.text? with
  | some s => run "lv_qrcode_update" [.cpp w.obj, v, .int s.length]
  | none => do
    let text ← text.emit v
    withLocal "qr_text" stdString.name (some text) "" fun var =>
      run "lv_qrcode_update"
        [.cpp w.obj, .cpp (var.method "c_str" []), .cpp (var.method "size" [])]

def qrcode : Design :=
  { distinct (fun _ => .of qrcodeFields)
      (Schema.textFields
        ++ [.optional "dark_color" color.validate,
          .optional "light_color" color.validate,
          .optional "size" integer.validate]) with
    options := fun _ w config => do
      propertyFor w config color "light_color"
      propertyFor w config color "dark_color"
      propertyFor w config integer "size"
      match config.given? "text" with
      | none => pure ()
      | some v => applyCodeText w v }

end Kinds

end Panel
