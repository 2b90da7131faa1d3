import Panel.Automation.Screen
import Panel.Proofs.RecordWalks
import Panel.Proofs.StyleCoverage

/-! # The background of a display — what becomes of the options for its layers

    A display has a layer above all screens and one below.  The configuration of a panel gives their
    options under keys of their own, which are written as those of any widget.  The background
    options are an older way to paint the layer below: they are handed on under shorter names, of
    which one is no property of styles.  An update of the panel accepts all of these options and
    the styles of a layer as well, but reads the background options only. -/

namespace Panel

open Cpp List Record Widget Style

variable {key name : String} {names : List String}

theorem Entries.get?_map_key {f : String → String} {es : Entries}
    (h : ∀ e ∈ es, f e.1 = name ↔ e.1 = key) :
    Entries.get? (es.map fun e => (f e.1, e.2)) name = es.get? key := by
  induction es with
  | nil => rfl
  | cons e es ih =>
    rw [map_cons, Entries.get?_cons, Entries.get?_cons, ih (forall_mem_cons.mp h).2]
    refine if_congr ?_ rfl rfl
    rw [beq_iff_eq, beq_iff_eq]
    exact h e mem_cons_self

/-! ## Flat configurations -/

namespace Style

/-- Names of options that are not about the default state of the main part alone. -/
def levelNames : List String :=
  ["layout", "group", "state", "styles"] ++ Constants.parts ++ Constants.states

/-- Entries without layers: no parts, no states, and nothing else of the widget as a whole. -/
def Flat (es : Entries) : Prop := ∀ e ∈ es, e.1 ∉ levelNames

variable {es : Entries}

theorem Flat.get?_eq_none (h : Flat es) (hkey : key ∈ levelNames) : es.get? key = none :=
  Entries.get?_eq_none_of_forall fun e he hname => h e he (hname ▸ hkey)

theorem Flat.plain (h : Flat es) : Plain es := by
  have hnames : plainNames ⊆ levelNames := by decide
  exact fun k hk => h.get?_eq_none (hnames hk)

theorem Flat.writings_eq (h : Flat es) : writings es = styleNames.filterMap fun n =>
      (es.get? n).map (Writing.property ⟨none, none⟩ n) := by
  rw [h.plain.writings_eq, writingsAt, h.get?_eq_none (by decide)]
  rfl

theorem applyScroll_eq_pure (w : Widget) (h : ∀ name ∈ names, es.get? name = none) :
    w.applyScroll (.dict es) names = pure () := by
  induction names with
  | nil => rfl
  | cons name names ih =>
    have hgiven : Value.given? (.dict es) name = none := by
      rw [Value.given?, Entries.given?, h name mem_cons_self]
    rw [applyScroll, setOption, hgiven]
    exact ih (forall_mem_cons.mp h).2

end Style

namespace Automation

variable {es : Entries} {e : String × Value} (g : Generator)

/-! ## Background options -/

def isBackground (key : String) : Bool := backgroundOptions.contains key

def backgroundOf (es : Entries) : Entries := es.filter fun e => isBackground e.1

def setMain (w : Widget) (name : String) (p : Property) (v : Value) : Build Unit := do
  w.setStyle name (← p.emit v) (.literal "LV_PART_MAIN")

/-- Paints a layer: the colour if there is one, and the opacity. -/
def paint (layer : Widget) (color? : Option Value) (opacity : Value) : Build Unit := do
  color?.forM (setMain layer "bg_color" Property.color)
  setMain layer "bg_opa" Property.opacity opacity

/-- The background options of a configuration, under the names that they are handed on by. -/
def handedOn (es : Entries) : Entries :=
  (backgroundOf es).map fun e => (Text.removePrefix "disp_" e.1, e.2)

def layerOptions (es : Entries) : Entries :=
  if Entries.has (handedOn es) "bg_opa" then handedOn es
  else handedOn es ++ [("bg_opa", .float 1.0)]

theorem isBackground_iff :
    isBackground key = true ↔ key ∈ ["disp_bg_image", "disp_bg_color", "disp_bg_opa"] :=
  contains_iff_mem

theorem mem_handedOn (he : e ∈ handedOn es) : e.1 ∈ ["bg_image", "bg_color", "bg_opa"] := by
  have hkeys : ∀ key ∈ ["disp_bg_image", "disp_bg_color", "disp_bg_opa"],
      Text.removePrefix "disp_" key ∈ ["bg_image", "bg_color", "bg_opa"] := by decide
  obtain ⟨d, hd, rfl⟩ := mem_map.mp he
  exact hkeys d.1 (isBackground_iff.mp (mem_filter.mp hd).2)

theorem mem_layerOptions (he : e ∈ layerOptions es) : e.1 ∈ ["bg_image", "bg_color", "bg_opa"] := by
  unfold layerOptions at he
  split at he
  · exact mem_handedOn he
  · rcases mem_append.mp he with he | he
    · exact mem_handedOn he
    · rw [mem_singleton.mp he]
      decide

theorem flat_layerOptions (es : Entries) : Style.Flat (layerOptions es) := by
  have hnames : ∀ name ∈ ["bg_image", "bg_color", "bg_opa"], name ∉ levelNames := by decide
  exact fun e he => hnames e.1 (mem_layerOptions he)

theorem get?_layerOptions_other (es : Entries) (h : name ∉ ["bg_image", "bg_color", "bg_opa"]) :
    Entries.get? (layerOptions es) name = none :=
  Entries.get?_eq_none_of_forall fun _ he hname => h (hname ▸ mem_layerOptions he)

theorem get?_handedOn (es : Entries) (hkey : isBackground key = true)
    (hname : Text.removePrefix "disp_" key = name) :
    Entries.get? (handedOn es) name = es.get? key := by
  subst hname
  have hinj : ∀ k ∈ ["disp_bg_image", "disp_bg_color", "disp_bg_opa"],
      ∀ k' ∈ ["disp_bg_image", "disp_bg_color", "disp_bg_opa"],
      Text.removePrefix "disp_" k = Text.removePrefix "disp_" k' ↔ k = k' := by decide
  refine (Entries.get?_map_key fun e he => ?_).trans (Entries.get?_filter hkey es)
  exact hinj e.1 (isBackground_iff.mp (mem_filter.mp he).2) key (isBackground_iff.mp hkey)

theorem get?_layerOptions_color (es : Entries) :
    Entries.get? (layerOptions es) "bg_color" = es.get? "disp_bg_color" := by
  have hcolor : Entries.get? (handedOn es) "bg_color" = es.get? "disp_bg_color" :=
    get?_handedOn es (by decide) (by decide)
  unfold layerOptions
  split
  · exact hcolor
  · rw [Entries.get?_append, hcolor]
    exact Option.or_none

theorem get?_layerOptions_opacity (es : Entries) : Entries.get? (layerOptions es) "bg_opa"
      = some ((es.get? "disp_bg_opa").getD (.float 1.0)) := by
  have hopacity : Entries.get? (handedOn es) "bg_opa" = es.get? "disp_bg_opa" :=
    get?_handedOn es (by decide) (by decide)
  unfold layerOptions
  split
  · next hhas =>
      obtain ⟨v, hv⟩ := Entries.exists_get?_of hhas
      rw [← hopacity, hv]
      rfl
  · next hhas =>
      have hnone := Entries.get?_eq_none_of (Bool.eq_false_iff.mpr hhas)
      rw [Entries.get?_append, ← hopacity, hnone]
      rfl

theorem writings_layerOptions (es : Entries) :
    writings (layerOptions es) = ["bg_color", "bg_opa"].filterMap fun name =>
      (Entries.get? (layerOptions es) name).map (Style.Writing.property ⟨none, none⟩ name) := by
  have himage : "bg_image" ∉ styleNames := by decide
  have hnone : ∀ name, name ∉ ["bg_color", "bg_opa"] → name ∈ styleNames →
      Entries.get? (layerOptions es) name = none := by
    intro name hname hstyle
    refine get?_layerOptions_other es fun hmem => ?_
    rcases mem_cons.mp hmem with rfl | hmem
    · exact himage hstyle
    · exact hname hmem
  have htwo : styleNames.filter (["bg_color", "bg_opa"].contains ·) = ["bg_color", "bg_opa"] := by
    decide
  rw [(flat_layerOptions es).writings_eq, ← htwo, filterMap_filter]
  refine filterMap_congr fun name hstyle => ?_
  split
  · rfl
  · next hname =>
      rw [hnone name (fun h => hname (contains_iff_mem.mpr h)) hstyle]
      rfl

theorem carryOut_main {p : Property} (hp : property? name = some p)
    (hname : renamedProperties.find? (·.1 == name) = none) (w : Widget) (v : Value) :
    carryOut w (.property ⟨none, none⟩ name v) = setMain w name p v := by
  have hcurrent : currentProperty name = pure name := by
    rw [currentProperty, hname]
  rw [carryOut, hp, setMain]
  dsimp only
  rw [hcurrent]
  rfl

theorem applyCommon_layerOptions (es : Entries) (w : Widget) :
    w.applyCommon (.dict (layerOptions es)) = paint w (es.get? "disp_bg_color")
          ((es.get? "disp_bg_opa").getD (.float 1.0)) := by
  have hcolor : ∀ v, carryOut w (.property ⟨none, none⟩ "bg_color" v)
      = setMain w "bg_color" Property.color v := carryOut_main rfl rfl w
  have hopacity : ∀ v, carryOut w (.property ⟨none, none⟩ "bg_opa" v)
      = setMain w "bg_opa" Property.opacity v := carryOut_main rfl rfl w
  have hflags : flagsOf (partsFound (layerOptions es)) = [] := by
    have hnames : ∀ name ∈ Constants.flags, name ∉ ["bg_image", "bg_color", "bg_opa"] := by decide
    refine eq_nil_iff_forall_not_mem.mpr fun e he => ?_
    obtain ⟨hflag, hv⟩ := (flat_layerOptions es).plain.mem_flagsOf_iff.mp he
    rw [get?_layerOptions_other es (hnames _ hflag)] at hv
    cases hv
  have hscroll : w.applyScroll (.dict (layerOptions es)) (Schema.objectProperties.map (·.1))
      = pure () := by
    have hnames : ∀ name ∈ Schema.objectProperties.map (·.1),
        name ∉ ["bg_image", "bg_color", "bg_opa"] := by decide
    exact applyScroll_eq_pure w fun name hname =>
      get?_layerOptions_other es (hnames name hname)
  have hproperties : w.applyCommon (.dict (layerOptions es))
      = forM (writings (layerOptions es)) (carryOut w) := by
    rw [(flat_layerOptions es).plain.applyCommon_eq, hflags, hscroll]
    exact bind_pure _
  rw [hproperties, writings_layerOptions, paint]
  simp only [filterMap_cons, filterMap_nil, get?_layerOptions_color,
    get?_layerOptions_opacity, Option.map_some]
  cases es.get? "disp_bg_color" with
  | none =>
    dsimp only [Option.map_none]
    rw [forM_cons, forM_nil, hopacity, bind_pure_unit]
    rfl
  | some color =>
    dsimp only [Option.map_some]
    rw [forM_cons, forM_cons, forM_nil, hcolor, hopacity, bind_pure_unit]
    rfl

theorem setAt?_layerOptions (es : Entries) :
    Kinds.setAt? (.dict [("bottom_layer", .dict (layerOptions es))]) "bottom_layer"
      = some (.dict (layerOptions es)) := by
  have hne : layerOptions es ≠ [] := by
    intro hnil
    have hopacity := get?_layerOptions_opacity es
    rw [hnil] at hopacity
    cases hopacity
  obtain ⟨e, options, heq⟩ := exists_cons_of_ne_nil hne
  rw [heq]
  rfl

theorem applyBackground_dict (panel : Expr) (es : Entries) :
    applyBackground g panel (.dict es) = (if (backgroundOf es).isEmpty then pure () else do
      Code.warn (backgroundWarning ((backgroundOf es).map (·.1)))
      applyLayers g panel (.dict [("bottom_layer", .dict (layerOptions es))])) := rfl

theorem applyBackground_eq (panel : Expr) (es : Entries) :
    applyBackground g panel (.dict es) =
      (if (backgroundOf es).isEmpty then pure () else do
        Code.warn (backgroundWarning ((backgroundOf es).map (·.1)))
        let layer ← Code.callOf "lv_display_get_layer_bottom" [.cpp (panel.method "get_disp" [])]
        Code.withLocal "bottom_layer" "lv_obj_t" (some (.cpp layer)) "*" fun var =>
          paint (fresh "" var .layer (.dict (layerOptions es))) (es.get? "disp_bg_color")
            ((es.get? "disp_bg_opa").getD (.float 1.0))) := by
  rw [applyBackground_dict]
  have htop : applyLayer g panel (.dict [("bottom_layer", .dict (layerOptions es))]) "top_layer"
      "lv_display_get_layer_top" = pure () := rfl
  refine if_congr Iff.rfl rfl (bind_congr fun _ => ?_)
  rw [applyLayers, htop, pure_bind, applyLayer, setAt?_layerOptions]
  refine bind_congr fun layer => ?_
  congr 1
  funext var
  dsimp only
  rw [applyCommon_layerOptions, addChildren, Value.get?, get?_layerOptions_other es (by decide)]
  exact bind_pure _

/-! ## Updates of the panel -/

def readByUpdate (key : String) : Bool := key == "lvgl_id" || isBackground key

theorem backgroundOf_filter (es : Entries) :
    backgroundOf (es.filter fun e => readByUpdate e.1) = backgroundOf es := by
  unfold backgroundOf
  rw [filter_filter]
  refine filter_congr fun e _ => ?_
  unfold readByUpdate
  cases isBackground e.1 with
  | true => rw [Bool.or_true, Bool.and_true]
  | false => rfl

theorem updateScreen_build_filter (es : Entries) (id : Ident) (params : List Param) :
    updateScreen.build g (.dict (es.filter fun e => readByUpdate e.1)) id params
      = updateScreen.build g (.dict es) id params := by
  have hbackground : ∀ panel, applyBackground g panel (.dict (es.filter fun e => readByUpdate e.1))
      = applyBackground g panel (.dict es) := fun panel => by
    rw [applyBackground_dict, applyBackground_dict, layerOptions, handedOn, backgroundOf_filter,
      layerOptions, handedOn]
  unfold updateScreen
  dsimp only
  rw [targets_dict, targets_dict, Entries.get?_filter (by decide)]
  simp only [hbackground]

/-! ## What becomes of the options -/

def writeLayer (g : Generator) (layer : Widget) (ls : Entries) : Build Unit := do
  layer.applyLayoutOption (.dict ls)
  forM (Style.writings ls) (Style.carryOut layer)
  layer.applyGroup (.dict ls)
  Widget.applySwitches "LV_OBJ_FLAG_" layer.addFlag layer.clearFlag
    (Widget.Switches.of (Widget.flagsOf (Style.partsFound ls)))
  layer.applyStateOption (.dict ls)
  layer.applyScroll (.dict ls) (Schema.objectProperties.map (·.1))
  layer.addChildren g (.dict ls)

theorem applyLayer_eq {config : Value} {ls : Entries}
    (hkey : Kinds.setAt? config key = some (.dict ls)) (hls : Style.Shaped names ls) (g : Generator)
    (panel : Expr) (function : String) :
    applyLayer g panel config key function = (do
      let layer ← Code.callOf function [.cpp (panel.method "get_disp" [])]
      Code.withLocal key "lv_obj_t" (some (.cpp layer)) "*" fun var =>
        writeLayer g (fresh "" var .layer (.dict ls)) ls) := by
  rw [applyLayer, hkey]
  refine bind_congr fun layer => ?_
  congr 1
  funext var
  dsimp only [writeLayer]
  rw [applyCommon_shaped _ hls]
  simp only [bind_assoc]

/-- An update of the panel reads the background options and nothing else that it accepts.  Where
    background options are given, the colour among them and an opacity are set on the bottom layer,
    an image is not.  A layer that the configuration of a panel gives options for has all of them
    written that are at no lost level. -/
theorem updateScreen_reads_background (g : Generator) (panel : Expr) (es : Entries) :
    (∀ id params, updateScreen.build g (.dict es) id params
      = updateScreen.build g (.dict (es.filter fun e => readByUpdate e.1)) id params)
    ∧ (applyBackground g panel (.dict es) =
      if (backgroundOf es).isEmpty then pure () else do
        Code.warn (backgroundWarning ((backgroundOf es).map (·.1)))
        let layer ← Code.callOf "lv_display_get_layer_bottom" [.cpp (panel.method "get_disp" [])]
        Code.withLocal "bottom_layer" "lv_obj_t" (some (.cpp layer)) "*" fun var =>
          paint (Widget.fresh "" var .layer (.dict (layerOptions es)))
            (Entries.get? es "disp_bg_color")
            ((Entries.get? es "disp_bg_opa").getD (.float 1.0)))
    ∧ (∀ (w : Widget) (name : String) (v : Value) (x : Expr),
        Code.express? (Property.literal v) = .ok x → v ≠ .null →
          w.setStyle name v (.literal "LV_PART_MAIN") = (do
            modify fun s => { s with stylesUsed := addTo s.stylesUsed name }
            Code.add (.object (.call (.raw ("lv_obj_set_style_" ++ name)) []
              [w.obj, x, .named "LV_PART_MAIN"]) .bare)))
    ∧ ∀ (key function : String) (names : List String) (ls : Entries),
        Kinds.setAt? (.dict es) key = some (.dict ls) → Style.Shaped names ls →
          applyLayer g panel (.dict es) key function = (do
            let layer ← Code.callOf function [.cpp (panel.method "get_disp" [])]
            Code.withLocal key "lv_obj_t" (some (.cpp layer)) "*" fun var =>
              writeLayer g (Widget.fresh "" var .layer (.dict ls)) ls)
          ∧ ∀ x, x ∈ Style.writings ls
            ↔ x.Known ∧ Style.Says names ls x.level x.key x.value ∧ ¬ Style.Lost ls x.level := by
  refine ⟨fun id params => (updateScreen_build_filter g es id params).symm,
    applyBackground_eq g panel es, fun w name v x hv hnull => ?_,
    fun key function names ls hkey hls => ⟨applyLayer_eq hkey hls g panel function, mem_writings hls⟩⟩
  obtain ⟨y, hy, heq⟩ := setStyle_eq w ⟨none, none⟩ name hv hnull
  cases hy
  exact heq

def topLayerUpdate : Entries :=
  [("lvgl_id", .ident (Ident.reference (some "lv") lvglComponent)),
    ("top_layer", .dict [("bg_color", .int 255)])]

set_option maxRecDepth 100000 in
theorem screenUpdate_topLayerUpdate : screenUpdate.run.Gives (.dict topLayerUpdate) :=
  ⟨.dict topLayerUpdate, {}, _, rfl⟩

/-- The update of the top layer is accepted, and nothing is written for it. -/
theorem updateScreen_reads_background_topLayer :
    screenUpdate.run.Gives (.dict topLayerUpdate) ∧ ∀ g id params,
      updateScreen.build g (.dict topLayerUpdate) id params
        = updateScreen.build g
            (.dict [("lvgl_id", .ident (Ident.reference (some "lv") lvglComponent))]) id params
      ∧ applyBackground g (.raw "lv") (.dict topLayerUpdate) = pure () := by
  refine ⟨screenUpdate_topLayerUpdate, fun g id params => ?_⟩
  obtain ⟨hupdate, hbackground, -⟩ := updateScreen_reads_background g (.raw "lv") topLayerUpdate
  exact ⟨hupdate id params, hbackground⟩

end Automation

end Panel
