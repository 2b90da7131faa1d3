import Panel.Kinds.Plain
import Panel.Kinds.Range

/-! # Canvases — surfaces that actions draw on

    A shape is drawn inside a layer of its own, with a descriptor that holds its properties. -/

namespace Panel

open Cpp Code Property Schema

namespace Kinds

def canvas : Design :=
  { Design.distinct (fun _ => .of
      [.required "width" size.validate, .required "height" size.validate,
        .defaulted "transparent" (.bool false) Test.boolean,
        .generated "draw_buf_id" (Test.declareId (widgetType "lv_draw_buf_t" []))]) [] with
    options := fun _ w config => do
      let width ← required config "width"
      let height ← required config "height"
      let format := if (← required config "transparent").truthy
        then "LV_COLOR_FORMAT_ARGB8888" else "LV_COLOR_FORMAT_NATIVE"
      let buffer ← newObject (← identAt config "draw_buf_id") []
      let size : Value := .literal ("LV_DRAW_BUF_SIZE(" ++ width.show ++ ", " ++ height.show
        ++ ", " ++ format ++ ")")
      let memory ← call "lv_malloc_core" [size]
      run "lv_draw_buf_init"
        [.cpp buffer, width, height, .literal format, .int 0, .cpp memory, size]
      run "lv_draw_buf_set_flag" [.cpp buffer, .literal "LV_IMAGE_FLAGS_MODIFIABLE"]
      run "lv_canvas_set_draw_buf" [.cpp w.obj, .cpp buffer]
      run "lv_obj_set_size" [.cpp w.obj, width, height] }

/-! ## Plain actions -/

def canvasField : Field := .generated "id" (Test.useId Kind.canvas.traits.type)

def addressOf (e : Expr) : Value := .literal ("&" ++ e.render)

/-- An action on a canvas; what its options become is written before the action itself. -/
def canvasAction (name : String) (fields : List Field) (extras : List Test)
    (work : Value → Build (Widget → Build Unit)) : Behaviour where
  name := "lvgl.canvas." ++ name
  type := objUpdateAction
  rule := fun _ => Record.run ⟨canvasField :: fields, extras⟩
  build := fun _ config id params => do
    let widgets ← Widget.targets config "id"
    let run ← work config
    Automation.widgetAction widgets run id params (config.entries?.getD [])

/-- The name of the layer that stays open on a canvas, made up at its first use. -/
def layerOf (w : Widget) : Check String := do
  let s ← get
  match s.layers.find? (·.1 == w.key) with
  | some (_, name) => return name
  | none => do
    let name := "canvas_layer_" ++ toString s.addresses
    set { s with layers := s.layers ++ [(w.key, name)], addresses := s.addresses + 1 }
    return name

def pictureData (src : Value) : Check Expr :=
  match src with
  | .cpp e => if e.isObject then pure (e.method "get_lv_image_dsc" []) else throw .noAttribute
  | _ => throw .noAttribute

/-- The opacity option, fully opaque by default. -/
def coverField : Field := .defaulted "opa" (.str "COVER") opacity.validate

def emitPixels : List Value → Build (List (Value × Value))
  | [] => pure []
  | p :: ps => do
    let x ← pixels.emit (← required p "x")
    let y ← pixels.emit (← required p "y")
    return (x, y) :: (← emitPixels ps)

/-- Actions without a layer of their own. -/
def plainCanvasActions : List Behaviour :=
  [canvasAction "begin_draw" [] [] fun _ => pure fun w => do
      let name ← layerOf w
      addLine ("static lv_layer_t " ++ name ++ ";")
      run "lv_canvas_init_layer" [.cpp w.obj, .literal ("&" ++ name)],
    canvasAction "end_draw" [] [] fun _ => pure fun w => do
      match (← get).layers.find? (·.1 == w.key) with
      | some (_, name) => run "lv_canvas_finish_layer" [.cpp w.obj, .literal ("&" ++ name)]
      | none => pure (),
    canvasAction "fill" [.required "color" color.validate, coverField] [] fun config => do
      let color ← color.emit (← required config "color")
      let opacity ← opacity.emit (← required config "opa")
      return fun w => run "lv_canvas_fill_bg" [.cpp w.obj, color, opacity],
    canvasAction "invalidate" [] [] fun _ => pure fun w =>
      run "lv_obj_invalidate" [.cpp w.obj],
    canvasAction "copy_buf"
      [.required "src" Property.image.validate, .required "x" pixels.validate,
        .required "y" pixels.validate] [] fun config => do
        let src ← Property.image.emit (← required config "src")
        let x ← pixels.emit (← required config "x")
        let y ← pixels.emit (← required config "y")
        return fun w => do
          let picture := (← pictureData src).render
          addLine ("lv_canvas_copy_buf(" ++ w.obj.render ++ ", lv_image_get_buf(" ++ picture
            ++ "), " ++ x.show ++ ", " ++ y.show ++ ", " ++ picture ++ "->header.w, " ++ picture
            ++ "->header.h);"),
    canvasAction "set_pixels"
      [.required "color" color.validate, coverField,
        .required "points" (Test.ensureList pointValue)] [] fun config => do
        let color ← color.emit (← required config "color")
        let opacity ← match config.get? "opa" with
          | some (.lambda _) => throw .wrongKind
          | some v => opacity.emit v
          | none => pure .null
        let points ← emitPixels (itemsAt config "points")
        return fun w => forItems (fun (x, y) =>
          run "lv_canvas_set_px" [.cpp w.obj, x, y, color, opacity]) points,
    canvasAction "set_palette"
      [.required "index" acceptByte, .required "color" color.validate] []
      fun config => do
        let index ← required config "index"
        let color ← color.emit (← required config "color")
        return fun w => run "lv_canvas_set_palette" [.cpp w.obj, index, color],
    canvasAction "get_image" [] [] fun _ => pure fun w =>
      addLine ("/* Canvas image: lv_canvas_get_image(" ++ w.obj.render ++ ") */;")]

/-! ## Shapes -/

/-- A shape: the kind of its descriptor, its properties by their names in a configuration, and what
    is written once the descriptor is filled in, given the layer, the place and the descriptor. -/
structure Shape where
  descriptor : String
  properties : List (String × Property)
  draw : Value → Value → Value → Expr → Build Unit

/-- Fills in the properties of a descriptor that a configuration gives. -/
def fillDescriptor (dsc : Expr) (config : Value) : List (String × Property) → Build Unit
  | [] => pure ()
  | (name, p) :: rest => do
    match config.get? name with
    | none => pure ()
    | some v => do
      let v ← p.emit v
      let name ← currentProperty name
      assign (dsc.member name) v
    fillDescriptor dsc config rest

def drawShape (shape : Shape) (config : Value) (x y : Value) (w : Widget) : Build Unit :=
  withLocal "layer" "lv_layer_t" none "" fun layer => do
    run "lv_canvas_init_layer" [.cpp w.obj, addressOf layer]
    withLocal "dsc" ("lv_draw_" ++ shape.descriptor ++ "_dsc_t") none "" fun dsc => do
      run ("lv_draw_" ++ shape.descriptor ++ "_dsc_init") [addressOf dsc]
      match config.get? "opa" with
      | none => pure ()
      | some v => do
        let v ← opacity.emit v
        assign (dsc.member "opa") v
      fillDescriptor dsc config shape.properties
      shape.draw (addressOf layer) x y dsc
    run "lv_canvas_finish_layer" [.cpp w.obj, addressOf layer]

def drawAction (name : String) (fields : List Field) (extras : List Test)
    (shapeOf : Value → Build Shape) : Behaviour where
  name := "lvgl.canvas.draw_" ++ name
  type := objUpdateAction
  rule := fun _ => Record.run ⟨fields, extras⟩
  build := fun _ config id params => do
    let shape ← shapeOf config
    let widgets ← Widget.targets config "id"
    let x ← pixels.emit (at? config "x")
    let y ← pixels.emit (at? config "y")
    Automation.widgetAction widgets (drawShape shape config x y) id params
      (config.entries?.getD [])

/-- The canvas and the place of a shape. -/
def placeFields : List Field :=
  [canvasField, .required "x" pixels.validate, .required "y" pixels.validate]

/-- The canvas, the place and the opacity of a shape. -/
def opaquePlaceFields : List Field := placeFields ++ [.optional "opa" opacity.validate]

def styleSubset (names : List (String × String)) : List (String × Property) :=
  names.filterMap fun (name, style) =>
    (styleProperties.find? (·.1 == style)).map fun p => (name, p.2)

def rectProperties : List (String × Property) :=
  styleSubset (["radius", "bg_opa", "bg_color", "bg_grad", "border_color", "border_width",
    "border_opa", "outline_color", "outline_width", "outline_pad", "outline_opa", "shadow_color",
    "shadow_width", "shadow_offset_x", "shadow_offset_y", "shadow_spread", "shadow_opa"].map
      fun n => (n, n))

def lastOf (start length : Value) : Value :=
  .literal (start.show ++ " + " ++ length.show ++ " - 1")

/-- Writes the corners of an area, then draws in it. -/
def inArea (x y x2 y2 : Value) (draw : Expr → Build Unit) : Build Unit :=
  withLocal "area" "lv_area_t" none "" fun area => do
    assign (area.member "x1") x
    assign (area.member "y1") y
    assign (area.member "x2") x2
    assign (area.member "y2") y2
    draw area

def drawRectangle : Behaviour :=
  drawAction "rectangle"
    (opaquePlaceFields ++ [wholeOption "width", wholeOption "height"]
      ++ propertyFields rectProperties) []
    fun config => do
      let width ← pixels.emit (← required config "width")
      let height ← pixels.emit (← required config "height")
      return ⟨"rect", rectProperties, fun layer x y dsc =>
        inArea x y (lastOf x width) (lastOf y height) fun area =>
          run "lv_draw_rect" [layer, addressOf dsc, addressOf area]⟩
where
  wholeOption (key : String) : Field := .required key (Test.templatable Test.integer)

def textProperties : List (String × Property) :=
  styleSubset (["font", "color", "line_space", "letter_space", "align", "decor"].map
    fun n => (n, "text_" ++ n))

def drawText : Behaviour :=
  drawAction "text"
    (textFields ++ opaquePlaceFields
      ++ [.required "max_width" (Test.templatable Test.integer)]
      ++ propertyFields textProperties) []
    fun config => do
      let text ← text.emit (← required config "text")
      let width ← pixels.emit (← required config "max_width")
      return ⟨"label", textProperties, fun layer x y dsc =>
        inArea x y (lastOf x width) (.literal (y.show ++ " + LV_COORD_MAX")) fun area => do
          assign (dsc.member "text") text
          run "lv_draw_label" [layer, addressOf dsc, addressOf area]⟩

def pictureNames : List String :=
  ["angle", "rotation", "scale_x", "scale_y", "skew_x", "skew_y", "scale", "zoom", "recolor",
    "recolor_opa", "opa"]

/-- The property of a picture by name: that of the transformation, or the one of the style. -/
def pictureProperty (name : String) : Check (Option Property) := do
  let current ← currentProperty name
  let find (n : String) := (styleProperties.find? (·.1 == n)).map (·.2)
  return (find ("transform_" ++ current)).orElse fun _ => find name

/-- A property of a picture; some names have none. -/
def acceptPictureProperty (name : String) : Test := fun v => do
  match ← pictureProperty name with
  | some p => p.validate v
  | none => throw .wrongKind

/-- Renames old properties, one after the other. -/
def renameAll : Entries → Entries → Check Entries
  | [], done => pure done
  | (name, v) :: es, done => do renameAll es (Entries.put done (← currentProperty name) v)

/-- A scale for both directions stands for the two. -/
def spreadScale : Test := fun config => do
  match config with
  | .dict es => do
    let es ← renameAll es []
    match Entries.get? es "scale" with
    | none => return .dict es
    | some scale =>
      if Entries.has es "scale_x" || Entries.has es "scale_y" then
        refuse "Cannot specify both scale and scale_x/scale_y"
      let es := Entries.put (Entries.put es "scale_x" scale) "scale_y" scale
      return .dict (Entries.without es "scale")
  | _ => throw .noAttribute

def pictureProperties : List String → Check (List (String × Property))
  | [] => pure []
  | name :: names => do
    let p ← pictureProperty name
    let rest ← pictureProperties names
    match p with
    | some p => return (name, p) :: rest
    | none => return rest

def drawPicture : Behaviour :=
  drawAction "image"
    (opaquePlaceFields
      ++ [.required "src" Property.image.validate,
        .defaulted "pivot_x" (.int 0) pixels.validate,
        .defaulted "pivot_y" (.int 0) pixels.validate]
      ++ (pictureNames.filter (· != "opa")).map fun n => .optional n (acceptPictureProperty n))
    [spreadScale]
    fun config => do
      let src ← Property.image.emit (← required config "src")
      let pivotX ← pixels.emit (← required config "pivot_x")
      let pivotY ← pixels.emit (← required config "pivot_y")
      let properties ← pictureProperties pictureNames
      return ⟨"image", properties, fun layer x y dsc => do
        assign (dsc.member "src") (.cpp (← pictureData src))
        if pivotX.truthy || pivotY.truthy then
          assign ((dsc.member "pivot").member "x") pivotX
          assign ((dsc.member "pivot").member "y") pivotY
        inArea x y x y fun area =>
          run "lv_draw_image" [layer, addressOf dsc, addressOf area]⟩

/-! ## Lines -/

def lineProperties : List (String × Property) :=
  styleSubset [("width", "line_width"), ("color", "line_color"), ("dash-width", "line_dash_width"),
    ("dash-gap", "line_dash_gap")]
    ++ [("round_start", boolean), ("round_end", boolean)]

def drawSegments (layer : Value) (dsc : Expr) (points : List Value) : Build Unit :=
  withLocal "points" "FixedVector<lv_point_precise_t>" (some (.list points)) "" fun ps =>
    withLocal "i" "uint32_t" (some (.literal "0")) "" fun i => do
      let count := i.render
      addLine ("for (" ++ count ++ " = 0; " ++ count ++ " != " ++ ps.render ++ ".size() - 1; "
        ++ count ++ "++) \x7b")
      assign (dsc.member "p1") (.cpp (ps.index i))
      assign (dsc.member "p2") (.cpp (ps.index (Expr.operate "+" i (.integer 1))))
      run "lv_draw_line" [layer, addressOf dsc]
      addLine "\x7d"

def pointsField : Field := .required "points" (Test.ensureList pointValue)

def drawLine : Behaviour :=
  drawAction "line"
    ([canvasField, .optional "opa" opacity.validate, pointsField]
      ++ propertyFields lineProperties) []
    fun config => do
      let points ← emitPoints (itemsAt config "points")
      return ⟨"line", lineProperties, fun layer _ _ dsc => drawSegments layer dsc points⟩

def drawPolygon : Behaviour :=
  drawAction "polygon" ([canvasField, pointsField] ++ propertyFields rectProperties) []
    fun config => do
      let points ← emitPoints (itemsAt config "points")
      match points with
      | [] => throw .noIndex
      | first :: _ =>
        return ⟨"rect", rectProperties, fun layer _ _ dsc =>
          withLocal "line_dsc" "lv_draw_line_dsc_t" none "" fun edge => do
            run "lv_draw_line_dsc_init" [addressOf edge]
            assign (edge.member "color") (.cpp (dsc.member "border_color"))
            assign (edge.member "width") (.cpp (dsc.member "border_width"))
            assign (edge.member "opa") (.cpp (dsc.member "border_opa"))
            drawSegments layer edge (points ++ [first])⟩

/-! ## Arcs -/

def arcProperties : List (String × Property) :=
  styleSubset [("width", "arc_width"), ("color", "arc_color"), ("rounded", "arc_rounded")]

def drawArc : Behaviour :=
  drawAction "arc"
    (opaquePlaceFields
      ++ [.required "radius" pixels.validate,
        .required "start_angle" degrees.validate,
        .required "end_angle" degrees.validate]
      ++ propertyFields arcProperties) []
    fun config => do
      let radius ← size.emit (← required config "radius")
      let start ← degrees.emit (← required config "start_angle")
      let stop ← degrees.emit (← required config "end_angle")
      return ⟨"arc", arcProperties, fun layer x y dsc => do
        assign ((dsc.member "center").member "x") x
        assign ((dsc.member "center").member "y") y
        assign (dsc.member "start_angle") start
        assign (dsc.member "end_angle") stop
        assign (dsc.member "radius") radius
        run "lv_draw_arc" [layer, addressOf dsc]⟩

def canvasActions : List Behaviour :=
  plainCanvasActions
    ++ [drawRectangle, drawText, drawPicture, drawLine, drawPolygon, drawArc]

end Kinds

end Panel
