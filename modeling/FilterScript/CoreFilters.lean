import FilterScript.Catalog.Entry

/-!
# The core filters

The filters that every script can use, by category, with the values that their types may have.
Parameters that several filters share are written once.
-/

namespace FilterScript.CoreFilters

/-! ## Shared lists -/

/-- The pixel types of still images. -/
def imageTypes : String :=
  "Y8, RGB24, RGB32"

/-- The pixel types of clips read through the system. -/
def directShowTypes : String :=
  "YV24, YV16, YV12, YUY2, AYUV, Y41P, Y411, ARGB, RGB32, RGB24, YUV, YUVex, RGB, AUTO, FULL"

/-- The pixel types of clips read from files. -/
def aviTypes : String :=
  "YV24, YV16, YV12, YV411, YUY2, RGB32, RGB24, Y8, AUTO, FULL"

/-- The color matrices. -/
def matrices : String :=
  "Rec601, PC.601, Rec709, PC.709, AVERAGE"

/-- The pixel types of a single channel. -/
def showTypes : String :=
  "RGB24, RGB32, YUY2, YV12, Y8"

/-- The ways to lay one clip over another. -/
def overlayModes : String :=
  "Blend, Add, Subtract, Multiply, Chroma, Luma, Lighten, Darken, SoftLight, HardLight, " ++
  "Difference, Exclusion"

/-- The names of frame rates. -/
def frameRates : String :=
  "ntsc_film, ntsc_video, ntsc_double, ntsc_quad, ntsc_round_film, ntsc_round_video, " ++
  "ntsc_round_double, ntsc_round_quad, film, pal_film, pal_video, pal_double, pal_quad"

/-- The comparisons of conditional filters. -/
def operators : String :=
  "equals, greaterthan, lessthan, =, >, <, =="

/-- The pixel types of blank clips. -/
def clipTypes : String :=
  "RGB24, RGB32, YUY2, YV12, YV16, YV24, YV411, Y8"

/-- The pixel types of test pictures. -/
def barsTypes : String :=
  "YUY2, YV12, YV24, RGB32"

/-- The parameters of filters that read still images. -/
def imageParams : String :=
  "f:, ni:start, i:end, d:fps, b:use_DevIL, b:info, t:pixel_type"

/-- The parameters of filters that read through the system. -/
def directShowParams : String :=
  "f:, nd:fps, b:seek, b:audio, b:video, b:convertfps, b:seekzero, i:timeout, t:pixel_type, " ++
  "i:framecount, p:logfile, i:logmask"

/-- The parameters of filters that read files. -/
def aviParams : String :=
  "mf:, b:audio, t:pixel_type, q:fourCC"

/-- The parameters of conversions between pixel types. -/
def convertParams : String :=
  "t:matrix, b:interlaced, q:ChromaInPlacement, q:chromaresample"

/-- The parameters of weighted merging. -/
def mergeParams : String :=
  "rv:, rv:, d:weight"

/-! ## The catalog -/

open Catalog (Entry)

/-- Filters that read and write clips. -/
def media : List Entry := [
  .full "AviSource" aviParams aviTypes,
  .full "OpenDMLSource" aviParams aviTypes,
  .full "AviFileSource" aviParams aviTypes,
  .combined "WavSource(mf:)",
  .full "DirectShowSource" directShowParams directShowTypes,
  .full "ImageSource" imageParams imageTypes,
  .full "ImageReader" imageParams imageTypes,
  .typed "ImageSourceAnim(f:, nd:fps, b:info, t:pixel_type)" imageTypes,
  .combined "ImageWriter(f:, i:start, i:end, q:type, b:info)",
  .typed "SegmentedAviSource(mf:, b:audio, t:pixel_type)" aviTypes,
  .typed
    ("SegmentedDirectShowSource(mf:, d:fps, b:seek, b:audio, b:video, b:convertfps, " ++
     "b:seekzero, i:timeout, t:pixel_type)") directShowTypes,
  .combined "SoundOut"]

/-- Filters that change colors and pixel types. -/
def adjustments : List Entry := [
  .combined
    ("ColorYUV(d:gain_y, d:off_y, d:gamma_y, d:cont_y, d:gain_u, d:off_u, d:gamma_u, " ++
     "d:cont_u, d:gain_v, d:off_v, d:gamma_v, d:cont_v, q:levels, q:opt, b:showyuv, " ++
     "b:analyze, b:autowhite, b:autogain, b:conditional)"),
  .typed "ConvertBackToYUY2(t:matrix)" matrices,
  .full "ConvertToRGB" convertParams matrices,
  .full "ConvertToRGB24" convertParams matrices,
  .full "ConvertToRGB32" convertParams matrices,
  .full "ConvertToYUY2" convertParams matrices,
  .typed "ConvertToY8(t:matrix)" matrices,
  .full "ConvertToYV411" convertParams matrices,
  .full "ConvertToYV12"
    "t:matrix, b:interlaced, q:ChromaInPlacement, q:chromaresample, q:ChromaOutPlacement"
    matrices,
  .full "ConvertToYV16" convertParams matrices,
  .full "ConvertToYV24" convertParams matrices,
  .combined "FixLuminance(i:, i:)",
  .combined "GreyScale(q:matrix)",
  .combined "Invert(q:channels)",
  .combined "Levels(ri:, rd:, ri:, ri:, ri:, b:coring, b:dither)",
  .typed "Limiter(i:min_luma, i:max_luma, i:min_chroma, i:max_chroma, t:show)"
    "luma, luma_grey, chroma, chroma_grey",
  .combined "MergeARGB(rv:, rv:, rv:, rv:)",
  .typed "MergeRGB(rv:, rv:, rv:, t:pixel_type)" "RGB24, RGB32",
  .listed "Merge" mergeParams,
  .listed "MergeChroma" mergeParams,
  .listed "MergeLuma" mergeParams,
  .combined
    ("RGBAdjust(d:, d:, d:, d:, d:rb, d:gb, d:bb, d:ab, d:rg, d:gg, d:bg, d:ag, b:analyze, " ++
     "b:dither)"),
  .typed "ShowAlpha(t:pixel_type)" showTypes,
  .typed "ShowBlue(t:pixel_type)" showTypes,
  .typed "ShowGreen(t:pixel_type)" showTypes,
  .typed "ShowRed(t:pixel_type)" showTypes,
  .combined "SwapUV(v:)",
  .combined "UToY(v:)",
  .combined "VToY(v:)",
  .combined "UToY8(v:)",
  .combined "VToY8(v:)",
  .combined "YToUV(rv:, rv:, v:)",
  .combined
    ("Tweak(d:hue, d:sat, d:bright, d:cont, b:coring, b:sse, d:startHue, d:endHue, d:maxSat, " ++
     "d:minSat, d:interp, b:dither)")]

/-- Filters that mix clips. -/
def blending : List Entry := [
  .typed "Layer(rv:, rv:, t:op, i:level, i:x, i:y, i:threshold, b:use_chroma)"
    "add, subtract, lighten, darken, fast, mul",
  .combined "Mask(rv:, v:)",
  .combined "ResetMask(v:)",
  .combined "ColorKeyMask(c:, i:, i:, i:)",
  .combined "MaskHS(i:startHue, i:endHue, i:maxSat, i:minSat, b:coring)",
  .typed
    ("Overlay(rv:, i:x, i:y, v:mask, d:opacity, t:mode, b:greymask, q:output, " ++
     "b:ignore_conditional, b:pc_range)") overlayModes,
  .combined "Subtract(rv:, rv:)"]

/-- Filters that change the size and the place of the picture. -/
def geometry : List Entry := [
  .combined "AddBorders(ri:, ri:, ri:, ri:, c:color)",
  .combined "Crop(ri:, ri:, ri:, ri:, b:align)",
  .combined "CropBottom(ri:)",
  .combined "FlipHorizontal",
  .combined "FlipVertical",
  .combined "Letterbox(ri:, ri:, i:x1, i:x2, c:color)",
  .combined "HorizontalReduceBy2",
  .combined "VerticalReduceBy2",
  .combined "ReduceBy2",
  .combined "SkewRows(ri:)",
  .combined "TurnLeft",
  .combined "TurnRight",
  .combined "Turn180",
  .combined "BicubicResize(ri:, ri:, d:b, d:c, d:src_left, d:src_top, d:src_width, d:src_height)",
  .combined "BilinearResize(ri:, ri:, d:src_left, d:src_top, d:src_width, d:src_height)",
  .combined "BlackmanResize(ri:, ri:, d:src_left, d:src_top, d:src_width, d:src_height, i:taps)",
  .combined "GaussResize(ri:, ri:, d:src_left, d:src_top, d:src_width, d:src_height, d:p)",
  .combined "LanczosResize(ri:, ri:, d:src_left, d:src_top, d:src_width, d:src_height, i:taps)",
  .combined "Lanczos4Resize(ri:, ri:, d:src_left, d:src_top, d:src_width, d:src_height)",
  .combined "PointResize(ri:, ri:, d:src_left, d:src_top, d:src_width, d:src_height)",
  .combined "SincResize(ri:, ri:, d:src_left, d:src_top, d:src_width, d:src_height, i:taps)",
  .combined "Spline16Resize(ri:, ri:, d:src_left, d:src_top, d:src_width, d:src_height)",
  .combined "Spline36Resize(ri:, ri:, d:src_left, d:src_top, d:src_width, d:src_height)",
  .combined "Spline64Resize(ri:, ri:, d:src_left, d:src_top, d:src_width, d:src_height)"]

/-- Filters that sharpen and soften. -/
def restoration : List Entry := [
  .combined "Blur(rd:, d:, b:MMX)",
  .combined "Sharpen(rd:, d:, b:MMX)",
  .combined "GeneralConvolution(i:bias, q:matrix, d:divisor, b:auto)",
  .combined "SpatialSoften(ri:, ri:, ri:)",
  .combined "TemporalSoften(ri:, ri:, ri:, i:scenechange, i:mode)",
  .combined "FixBrokenChromaUpsampling"]

/-- Filters that change the order and the rate of frames. -/
def timeline : List Entry := [
  .combined "AlignedSplice(rv:, rv:, mv:)",
  .combined "UnalignedSplice(rv:, rv:, mv:)",
  .typed "AssumeFPS(rat:, a:, a:)" frameRates,
  .combined "AssumeScaledFPS(i:multiplier, i:divisor, b:sync_audio)",
  .typed "ChangeFPS(rat:, a:, a:)" frameRates,
  .typed "ConvertFPS(rat:, a:, a:, a:)" frameRates,
  .combined "DeleteFrame(rmi:)",
  .combined "Dissolve(rmv:, i:, d:fps)",
  .combined "DuplicateFrame(rmi:)",
  .combined "FadeIn(ri:, c:color, d:fps)",
  .combined "FadeIO(ri:, c:color, d:fps)",
  .combined "FadeOut(ri:, c:color, d:fps)",
  .combined "FadeIn0(ri:, c:color, d:fps)",
  .combined "FadeIO0(ri:, c:color, d:fps)",
  .combined "FadeOut0(ri:, c:color, d:fps)",
  .combined "FadeIn2(ri:, c:color, d:fps)",
  .combined "FadeIO2(ri:, c:color, d:fps)",
  .combined "FadeOut2(ri:, c:color, d:fps)",
  .combined "FreezeFrame(ri:, ri:, ri:)",
  .combined "Interleave(rmv:)",
  .combined "Loop(i:, i:, i:)",
  .combined "Reverse(v:)",
  .combined "SelectEven(v:)",
  .combined "SelectOdd(v:)",
  .combined "SelectEvery(ri:, ri:, mi:)",
  .combined "SelectRangeEvery(i:every, i:length, i:offset, b:audio)",
  .combined "Trim(ri:, ri:, b:pad)"]

/-- Filters for the fields of frames. -/
def interlace : List Entry := [
  .combined "AssumeFieldBased(v:)",
  .combined "AssumeFrameBased(v:)",
  .combined "AssumeBFF(v:)",
  .combined "AssumeTFF(v:)",
  .combined "ComplementParity(v:)",
  .combined "Bob(d:b, d:c, i:height)",
  .combined "Weave(v:)",
  .combined "DoubleWeave(v:)",
  .combined "WeaveColumns(ri:)",
  .combined "WeaveRows(ri:)",
  .combined "PeculiarBlend(ri:)",
  .combined "Pulldown(ri:, ri:)",
  .combined "SeparateFields(v:)",
  .combined "SeparateColumns(ri:)",
  .combined "SeparateRows(ri:)",
  .combined "SwapFields(v:)"]

/-- Filters for sound. -/
def audio : List Entry := [
  .combined "Amplify(rmd:)",
  .combined "AmplifydB(rmd:)",
  .combined "AssumeSampleRate(ri:)",
  .combined "AudioDub(rv:, rv:)",
  .combined "AudioDubEx(rv:, rv:)",
  .combined "AudioTrim(rd:, rd:)",
  .combined "ConvertAudioTo8bit(v:)",
  .combined "ConvertAudioTo16bit(v:)",
  .combined "ConvertAudioTo24bit(v:)",
  .combined "ConvertAudioTo32bit(v:)",
  .combined "ConvertAudioToFloat(v:)",
  .combined "ConvertToMono(v:)",
  .combined "GetChannel(rmi:)",
  .combined "GetChannels(rmi:)",
  .combined "GetLeftChannel(v:)",
  .combined "GetRightChannel(v:)",
  .combined "MergeChannels(rmv:)",
  .combined "MonoToStereo(rv:, v:)",
  .combined "ResampleAudio(ri:, i:)",
  .combined "SSRC(ri:, b:)",
  .combined "DelayAudio(rd:)",
  .combined "EnsureVBRMP3Sync(v:)",
  .combined "KillAudio(v:)",
  .combined "KillVideo(v:)",
  .combined "MixAudio(rv:, v:, d:, d:)",
  .combined "Normalize(d:volume, b:show)",
  .combined "SuperEQ(rap:, d:, d:, d:, d:, d:, d:, d:, d:, d:, d:, d:, d:, d:, d:, d:, d:, d:)",
  .combined
    ("TimeStretch(d:tempo, d:rate, d:pitch, i:sequence, i:seekwindow, i:overlap, " ++
     "b:quickseek, i:aa)")]

/-- Filters that decide by frame. -/
def metaFilters : List Entry := [
  .typed "ConditionalFilter(rv:, rv:, rq:, rt:, rq:, b:show)" operators,
  .combined "ConditionalSelect(rq:, rmv:, b:show)",
  .combined "ScriptClip(rq:, b:show, b:after_frame)",
  .combined "FrameEvaluate(rq:, b:)",
  .combined "ConditionalReader(f:, rv:, b:)"]

/-- Filters for tests. -/
def debugFilters : List Entry := [
  .typed "Blackness(i:, i:, i:, t:, i:, i:, i:, a:, aq:, c:color, c:color_yuv)" clipTypes,
  .typed "BlankClip(i:, i:, i:, t:, i:, i:, i:, a:, aq:, c:color, c:color_yuv)" clipTypes,
  .typed "ColorBars(i:width, i:height, t:pixel_type)" barsTypes,
  .typed "ColorBarsHD(i:width, i:height, t:pixel_type)" barsTypes,
  .combined "Compare(rv:, q:channels, p:logfile, b:show_graph)"]

/-- The core filters by category. -/
def catalog : List (String × List Entry) := [
  ("media", media),
  ("adjustments", adjustments),
  ("blending", blending),
  ("geometry", geometry),
  ("restoration", restoration),
  ("timeline", timeline),
  ("interlace", interlace),
  ("audio", audio),
  ("meta", metaFilters),
  ("debug", debugFilters)]

end FilterScript.CoreFilters
