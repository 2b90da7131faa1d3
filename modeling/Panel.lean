import Panel.Catalogue
import Panel.Json.Write
import Panel.Script.Block
import Panel.Script.Definition
import Panel.Script.Font
import Panel.Script.Style
import Panel.Script.Widget
import Panel.Proofs.GridPlacement
import Panel.Proofs.FlexIndependence
import Panel.Proofs.UpdateCalls
import Panel.Proofs.WidgetActions
import Panel.Proofs.Themes
import Panel.Proofs.PictureSizes
import Panel.Proofs.PictureFit
import Panel.Proofs.GlyphPacking
import Panel.Proofs.DrawingSizes
import Panel.Proofs.TextForms
import Panel.Proofs.PictureSpellings
import Panel.Proofs.PictureGroups
import Panel.Proofs.GradientStops
import Panel.Proofs.Background
import Panel.Proofs.GridCells
import Panel.Proofs.GridDescriptors
import Panel.Proofs.GridIdempotence
import Panel.Proofs.NumberRanges
import Panel.Proofs.Refresh
import Panel.Proofs.IndicatorValues
import Panel.Proofs.SpinLimits
import Panel.Proofs.ConstantWords
import Panel.Proofs.WidgetLists
import Panel.Proofs.Lengths
import Panel.Proofs.Inlining
import Panel.Proofs.SentOptions
import Panel.Proofs.HeaderText
import Panel.Proofs.MonochromePictures
import Panel.Proofs.ColourLiterals
import Panel.Proofs.PictureOptions
import Panel.Proofs.FontKeys
import Panel.Proofs.WidgetNames
