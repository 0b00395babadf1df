import FilterScript.Number.Binary64

/-!
# Color spaces

Colors given by hue, with saturation and lightness or saturation and value, as red, green and blue.
Hue, saturation, lightness and value are binary numbers, and so are the channels; the numbers are
not held to the range from zero to one, which leaves channels outside of a byte.
-/

namespace FilterScript.Color

/-- The channels of a color. One that counts is between zero and one. -/
structure Channels where
  red : Binary64
  green : Binary64
  blue : Binary64
deriving DecidableEq

/-- A whole number as a binary one. -/
abbrev whole (n : Int) : Binary64 := Binary64.ofInt n

/-- One half. -/
def half : Binary64 := whole 1 / whole 2

/-- One third. -/
def third : Binary64 := whole 1 / whole 3

/-- Two thirds. -/
def twoThirds : Binary64 := whole 2 / whole 3

/-- One sixth. -/
def sixth : Binary64 := whole 1 / whole 6

/-! ## Hue, saturation and lightness -/

/-- The channel at a hue: it climbs from the low to the high level over a sixth of the circle,
stays, and falls again. -/
def channelAt (low high hue : Binary64) : Binary64 :=
  let hue := hue.fraction
  if hue.isLess sixth then low + (high - low) * hue * whole 6
  else if hue.isLess half then high
  else if hue.isLess twoThirds then low + (high - low) * (twoThirds - hue) * whole 6
  else low

/-- The color of a hue, a lightness and a saturation. -/
def ofLightness (hue lightness saturation : Binary64) : Channels :=
  if saturation.isZero then ⟨lightness, lightness, lightness⟩
  else
    let high := if lightness.isAtMost half then lightness * (whole 1 + saturation)
      else lightness + saturation - lightness * saturation
    let low := whole 2 * lightness - high
    ⟨channelAt low high (hue + third), channelAt low high hue, channelAt low high (hue - third)⟩

/-! ## Hue, saturation and value -/

/-- The color of a hue, a saturation and a value. The circle has six parts; in each, one channel is
at the value, one at the low level, and one between. -/
def ofValue (hue saturation value : Binary64) : Channels :=
  if saturation.isZero then ⟨value, value, value⟩
  else
    let turn := hue * whole 6
    let part := turn.truncate
    let f := turn - whole part
    let low := value * (whole 1 - saturation)
    let falling := value * (whole 1 - saturation * f)
    let climbing := value * (whole 1 - saturation * (whole 1 - f))
    match part.fmod 6 with
    | 0 => ⟨value, climbing, low⟩
    | 1 => ⟨falling, value, low⟩
    | 2 => ⟨low, value, climbing⟩
    | 3 => ⟨low, falling, value⟩
    | 4 => ⟨climbing, low, value⟩
    | _ => ⟨value, low, falling⟩

/-! ## Bytes -/

/-- A channel between zero and one as a whole number between 0 and 255, a half rounded up. -/
def toByte (x : Binary64) : Int :=
  (x * whole 255 + half).truncate

end FilterScript.Color
