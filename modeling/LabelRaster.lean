import LabelRaster.Label.Dump
import LabelRaster.Label.Script
import LabelRaster.Png.File
import LabelRaster.Preview
import LabelRaster.Settings.Json
import LabelRaster.Proofs.Fields
import LabelRaster.Proofs.Footprint
import LabelRaster.Proofs.Home
import LabelRaster.Proofs.Inert
import LabelRaster.Proofs.WholeLine
import LabelRaster.Proofs.Growth
import LabelRaster.Proofs.Ranges
import LabelRaster.Proofs.Estimate
import LabelRaster.Proofs.Refused
import LabelRaster.Proofs.LineWindows
import LabelRaster.Proofs.Pixels
import LabelRaster.Proofs.Payload
import LabelRaster.Proofs.Centring
import LabelRaster.Proofs.Buffers
import LabelRaster.Proofs.Dump
import LabelRaster.Proofs.Fitting
import LabelRaster.Proofs.Leading
import LabelRaster.Proofs.VisiblePart
import LabelRaster.Proofs.SettingsText
