import Panel.Kinds.Meter
import Panel.Proofs.Additions

/-! # Values of indicators — what moves an indicator of a meter

    An indicator is moved by a start value and an end value, and either may be left out.  A range is
    moved by two angles, and both are those of its start value: the end value decides only whether
    the second is set at all, and a range that is given its end alone asks for the angle of nothing. -/

namespace Panel

open Cpp

variable (w : Widget) {xs : List Expr}

namespace Kinds

/-- The value an indicator starts at: its start value, or else its only value. -/
def startOf? (config : Value) : Option Value :=
  config.get? "start_value" <|> config.get? "value"

/-- What is written for a value that may be left out. -/
def Processed : Option Value → Option Expr → Prop
  | some v, some e => (Property.integer.emit v).Offers (.ok (.cpp e))
  | none, some _ => False
  | v?, none => v?.getD .null = .null

/-- The angle at which a meter shows a value. -/
def angleOf (w : Widget) (xs : List Expr) : Expr :=
  .called "lv_get_needle_angle_for_value" (w.obj :: xs)

/-- The lines that turn a picture. -/
def turningLines (w : Widget) (x : Expr) : List Item :=
  [.expr (.called "lv_image_set_needle_value" [w.obj, x]), .expr (angleOf w [x]),
    .expr (.called "lv_obj_set_style_transform_rotation"
      [w.obj, .operate "*" (angleOf w [x]) (.integer 10), Expr.named "LV_PART_MAIN"])]

/-- The lines that move an indicator to a start and an end, if they are given. -/
def movingLines (w : Widget) (start stop : Option Expr) : List Item :=
  match w.kind with
  | .dial =>
    match start, stop with
    | none, none => []
    | none, some y => [.expr (.called "lv_scale_section_set_range" [w.obj, .integer 0, y])]
    | some x, _ => [.expr (.called "lv_scale_section_set_range" [w.obj, x, stop.getD x])]
  | .sweep =>
    let move (function : String) : List Item :=
      [.expr (angleOf w start.toList), .expr (.called function [w.obj, angleOf w start.toList])]
    (if start.isSome then move "lv_arc_set_start_angle" else [])
      ++ (if stop.isSome then move "lv_arc_set_end_angle" else [])
  | .needle => start.toList.map fun x => .expr (w.var.method "set_value" [x])
  | .pointer => start.toList.flatMap (turningLines w)
  | _ => []

variable {fails : Failure → Prop}

theorem processed_adds {v? : Option Value}
    (hfails : ∀ e, (Property.integer.emit (v?.getD .null)).Offers (.error e) → fails e) :
    (Property.integer.emit (v?.getD .null)).Adds fails
      fun x ls => ls = [] ∧ ∃ e?, Processed v? e? ∧ x = (e?.map Value.cpp).getD .null := by
  refine (Property.integer_adds hfails).mono ?_
  rintro x ls ⟨hls, hx, ⟨hv, rfl⟩ | ⟨e, rfl⟩⟩
  · refine ⟨hls, none, ?_, rfl⟩
    cases v? <;> exact hv
  · refine ⟨hls, some e, ?_, rfl⟩
    cases v? with
    | none => cases Build.offers_pure hx
    | some v => exact hx

theorem startValue_eq_emit (config : Value) :
    Property.startValue config = Property.integer.emit ((startOf? config).getD .null) := by
  unfold Property.startValue startOf?
  cases config.get? "start_value" <;> rfl

theorem needleAngle_adds {v : Value} (h : Code.arguments? [.cpp w.obj, v] = .ok (w.obj :: xs)) :
    (Build.ofCheck (needleAngle w.obj v)).Adds fails
      fun e ls => e = angleOf w xs ∧ ls = [.expr (angleOf w xs)] :=
  .of_call h

theorem turn_adds {v : Value} (function : String)
    (h : Code.arguments? [.cpp w.obj, v] = .ok (w.obj :: xs)) :
    (Build.ofCheck (do
      let angle ← needleAngle w.obj v
      Code.run function [.cpp w.obj, .cpp angle])).Adds fails
      fun _ ls => ls = [.expr (angleOf w xs), .expr (.called function [w.obj, angleOf w xs])] := by
  refine .of_check (.bind (needleAngle_adds w h) ?_)
  rintro _ _ ⟨rfl, rfl⟩
  refine (Build.Adds.of_run rfl).mono ?_
  rintro _ _ rfl
  rfl

variable {start stop : Option Expr}

theorem moveSection_adds (hw : w.kind = .dial) :
    (Build.ofCheck (moveSection w ((start.map Value.cpp).getD .null)
      ((stop.map Value.cpp).getD .null))).Adds fails fun _ ls => ls = movingLines w start stop := by
  unfold movingLines
  rw [hw]
  cases start with
  | none =>
    cases stop with
    | none => exact .of_pure rfl
    | some y => exact .of_run rfl
  | some x =>
    cases stop with
    | none => exact .of_run rfl
    | some y => exact .of_run rfl

theorem moveSweep_adds (hw : w.kind = .sweep) :
    (Build.ofCheck (moveSweep w ((start.map Value.cpp).getD .null)
      ((stop.map Value.cpp).getD .null))).Adds fails fun _ ls => ls = movingLines w start stop := by
  unfold moveSweep movingLines
  rw [hw]
  cases start with
  | none =>
    cases stop with
    | none => exact .of_pure rfl
    | some y => exact turn_adds w _ rfl
  | some x =>
    dsimp only [Option.map_some, Option.getD_some]
    rw [← bind_assoc]
    refine .of_check (.bind (turn_adds w _ rfl) ?_)
    rintro _ _ rfl
    cases stop with
    | none => exact .of_pure rfl
    | some y =>
      refine (turn_adds w _ rfl).mono ?_
      rintro _ _ rfl
      rfl

theorem turnPicture_adds (x : Expr) :
    (Build.ofCheck (turnPicture w (.cpp x))).Adds fails fun _ ls => ls = turningLines w x := by
  refine .of_check (.bind (.of_run rfl) ?_)
  rintro _ _ rfl
  refine .of_check (.bind (needleAngle_adds w rfl) ?_)
  rintro _ _ ⟨rfl, rfl⟩
  refine (Build.Adds.of_run rfl).mono ?_
  rintro _ _ rfl
  rfl

theorem moveIndicator_adds (config : Value)
    (hfails : ∀ v? ∈ [startOf? config, config.get? "end_value"], ∀ e,
      (Property.integer.emit (v?.getD .null)).Offers (.error e) → fails e) :
    (moveIndicator w config).Adds fails fun _ ls => ∃ start stop,
      Processed (startOf? config) start ∧ Processed (config.get? "end_value") stop
      ∧ ls = movingLines w start stop := by
  unfold moveIndicator
  rw [startValue_eq_emit]
  refine .bind (processed_adds (hfails _ (by simp))) ?_
  rintro _ _ ⟨rfl, start, hstart, rfl⟩
  refine .bind (processed_adds (hfails _ (by simp))) ?_
  rintro _ _ ⟨rfl, stop, hstop, rfl⟩
  suffices h : Build.Adds fails (fun _ ls => ls = movingLines w start stop) _ from
    h.mono fun _ ls hls => ⟨start, stop, hstart, hstop, hls⟩
  split
  · next hw => exact moveSection_adds w hw
  · next hw => exact moveSweep_adds w hw
  · next hw =>
    unfold movingLines
    rw [hw]
    cases start with
    | none => exact .of_pure rfl
    | some x => exact .of_addItem _
  · next hw =>
    unfold movingLines
    rw [hw]
    cases start with
    | none => exact .of_pure rfl
    | some x => exact turnPicture_adds w x
  · next hdial hsweep hneedle hpointer =>
    unfold movingLines
    split
    · next hw => exact absurd hw hdial
    · next hw => exact absurd hw hsweep
    · next hw => exact absurd hw hneedle
    · next hw => exact absurd hw hpointer
    · exact .of_pure rfl

/-- **Indicators.**  However often an indicator waits for what its values refer to, it is moved by
    the lines of its start and its end, and it fails only if one of them cannot be processed.  The
    lines of a section, a needle and a picture show the values they are given.  The end of a range
    is set to the angle of its start, whatever its end value, and of nothing if it has no start. -/
theorem indicator_moves (w : Widget) (config : Value) :
    (moveIndicator w config).Adds
      (fun e => ∃ v? ∈ [startOf? config, config.get? "end_value"],
        (Property.integer.emit (v?.getD .null)).Offers (.error e))
      (fun _ ls => ∃ start stop,
        Processed (startOf? config) start ∧ Processed (config.get? "end_value") stop
        ∧ ls = movingLines w start stop)
    ∧ (w.kind = .sweep → ∀ start y y',
        movingLines w start (some y) = movingLines w start (some y')
        ∧ movingLines w none (some y) = [.expr (angleOf w []),
          .expr (.called "lv_arc_set_end_angle" [w.obj, angleOf w []])]) := by
  refine ⟨moveIndicator_adds w config fun v? hv e he => ⟨v?, hv, he⟩, fun hw start y y' => ?_⟩
  unfold movingLines
  rw [hw]
  exact ⟨rfl, rfl⟩

end Kinds

end Panel
