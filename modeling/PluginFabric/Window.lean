import PluginFabric.Json.Field

/-! Streaming windows and their time.

    A window id packs a base, in seconds since the epoch, above a sequence number; each has 32 bits.
    A clock maps a window to milliseconds since the epoch: the base, but not before the first window
    of the application, and one window width for each step of the sequence. Whatever does not fit is
    the largest time there is. -/

namespace PluginFabric

/-- The id of a streaming window. -/
structure WindowId where
  value : UInt64
  deriving DecidableEq, Inhabited

namespace WindowId

def ofParts (baseSeconds sequence : UInt32) : WindowId :=
  ⟨baseSeconds.toUInt64 <<< 32 ||| sequence.toUInt64⟩

def baseSeconds (w : WindowId) : UInt32 := (w.value >>> 32).toUInt32

def sequence (w : WindowId) : UInt32 := w.value.toUInt32

/-- Windows are ordered by base, and by sequence number within a base. -/
def compare (v w : WindowId) : Ordering := Ord.compare v.value w.value

instance : Ord WindowId := ⟨compare⟩

def toText (w : WindowId) : String := Text.hexadecimal w.value.toNat

/-- The text that shows a window for diagnosis. -/
def diagnosis (w : WindowId) : String := "WindowId(" ++ toString w.value.toNat ++ ")"

def decode (j : Json) : Option WindowId := j.uint64?.map .mk

def encode (w : WindowId) : Json := .ofUInt64 w.value

end WindowId

/-- The integer that fits a time nearest to `n`. -/
def saturated (n : Int) : Int64 :=
  .ofInt (max Int64.minValue.toInt (min Int64.maxValue.toInt n))

/-- The width of a window where none is configured. -/
def defaultWindowWidth : UInt64 := 500

/-- The time of the first window where none is configured. -/
def defaultFirstWindow : Int64 := 0

/-- The geometry of an application's windows, in milliseconds. -/
structure WindowClock where
  firstWindow : Int64 := defaultFirstWindow
  windowWidth : UInt64 := defaultWindowWidth
  deriving DecidableEq

namespace WindowClock

/-- The start of a window. Bases before the first window are moved up to it; the width, the distance
    from the base and the sum are each kept within bounds. -/
def toMillis (c : WindowClock) (w : WindowId) : Int64 :=
  let base := max ((w.baseSeconds.toNat : Int) * 1000) c.firstWindow.toInt
  let width := min (c.windowWidth.toNat : Int) Int64.maxValue.toInt
  let offset := saturated (w.sequence.toNat * width)
  saturated (base + offset.toInt)

end WindowClock

end PluginFabric
