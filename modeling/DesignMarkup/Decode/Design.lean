import DesignMarkup.Decode.Scalar
import DesignMarkup.Design.Layer
import DesignMarkup.Design.Project

/-!
# Reading design models

One reader for each model of a design; the fields are read in the order in which their faults are
reported.
-/

namespace DesignMarkup.Decode

def hexColor : Value → Checked HexColor :=
  object fun fields => HexColor.mk
    <$> required fields "r" text
    <*> required fields "g" text
    <*> required fields "b" text

def channel (v : Value) : Checked (Fin 256) :=
  (integer v).andThen fun n =>
    if h : n.toNat < 256 then
      if n < 0 then .fail .tooSmall else .valid ⟨n.toNat, h⟩
    else .fail .tooLarge

/-- A number from 0 to 1. A NaN counts as too large. -/
def alpha (origin : Origin) (v : Value) : Checked Alpha :=
  (number origin v).andThen fun x =>
    match x with
    | .finite y =>
      match Alpha.ofFinite? y with
      | some a => .valid a
      | none => if x.atMost 1 then .fail .tooSmall else .fail .tooLarge
    | _ => if x.atMost 1 then .fail .tooSmall else .fail .tooLarge

def color (origin : Origin) : Value → Checked Color :=
  object fun fields => Color.mk
    <$> required fields "r" channel
    <*> required fields "g" channel
    <*> required fields "b" channel
    <*> optional fields "a" .solid (alpha origin)
    <*> optional fields "name" none (nullable text)

/-- A colour or a text. Of a value that is neither, both choices are reported. -/
def paint (origin : Origin) : Value → Checked Paint
  | .text s => .valid (.literal s)
  | v =>
    match color origin v with
    | .valid c => .valid (.color c)
    | .invalid issues =>
      Paint.literal <$> ((Checked.invalid issues).under "Color" <*> (text v).under "str")

def styleDescriptor (origin : Origin) : Value → Checked StyleDescriptor :=
  object fun fields => StyleDescriptor.mk
    <$> optional fields "font_family" none (nullable text)
    <*> optional fields "font_weight" 400 integer
    <*> required fields "font_size" (finiteNumber origin)
    <*> optional fields "color" none (nullable (paint origin))
    <*> optional fields "text_align" none (nullable text)

def textStyle (origin : Origin) : Value → Checked TextStyle :=
  object fun fields => TextStyle.mk
    <$> optional fields "name" "" text
    <*> optional fields "font_family" none (nullable text)
    <*> optional fields "font_weight" 400 integer
    <*> required fields "font_size" (finiteNumber origin)
    <*> optional fields "font_style" none (nullable text)
    <*> optional fields "color" none (nullable (color origin))
    <*> optional fields "text_align" none (nullable text)

def rect (origin : Origin) : Value → Checked Rect :=
  object fun fields => Rect.mk
    <$> optional fields "x" (.finite Binary64.zero) (number origin)
    <*> optional fields "y" (.finite Binary64.zero) (number origin)
    <*> required fields "width" (number origin)
    <*> required fields "height" (number origin)

def fill (origin : Origin) : Value → Checked Fill :=
  object fun fields => Fill.mk
    <$> optional fields "color" none (nullable (color origin))

def borderStyle (origin : Origin) : Value → Checked BorderStyle :=
  object fun fields => BorderStyle.mk
    <$> required fields "fill" (fill origin)
    <*> optional fields "thickness" (.finite Binary64.one) (number origin)

def textRun (origin : Origin) : Value → Checked TextRun :=
  object fun fields => TextRun.mk
    <$> required fields "text_style" (textStyle origin)

def layerKind : Value → Checked LayerKind
  | .text s =>
    match LayerKind.ofName? s with
    | some kind => .valid kind
    | none => .fail .notChoice
  | _ => .fail .notChoice

def layer (origin : Origin) : Value → Checked Layer :=
  object fun fields => Layer.mk
    <$> optional fields "type" .shape layerKind
    <*> required fields "name" text
    <*> required fields "rect" (rect origin)
    <*> optional fields "fills" [] (list (fill origin))
    <*> optional fields "borders" [] (list (borderStyle origin))
    <*> optional fields "border_radius" none (nullable (number origin))
    <*> optional fields "opacity" (.finite Binary64.one) (number origin)
    <*> optional fields "exportable" false boolean
    <*> optional fields "content" none (nullable text)
    <*> optional fields "text_styles" [] (list (textRun origin))

def project (origin : Origin) : Value → Checked Project :=
  object fun fields => Project.mk
    <$> optional fields "name" "" text
    <*> optional fields "colors" [] (list (color origin))
    <*> optional fields "text_styles" [] (list (textStyle origin))

end DesignMarkup.Decode
